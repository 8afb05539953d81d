import LintDesk.Text.Numeral
import LintDesk.Toml.Basic

/-! # Quoted texts

Texts in single quotes are taken as they are; in double quotes a backslash starts an escape. With
three quotes of either kind a text may hold line ends.
-/

namespace LintDesk.Toml

open LintDesk.Text

/-- Whether a character may stand in a text or comment: control characters other than the tab may
not. -/
def isPlain (c : Char) : Bool := c == '\t' || (0x20 ≤ c.toNat && c.toNat ≠ 0x7F)

def isSpace (c : Char) : Bool := c == ' ' || c == '\t'

def skipSpace (s : List Char) : List Char := s.dropWhile isSpace

/-- Passes over one line end. -/
def newline? : List Char → Option (List Char)
  | '\n' :: s => some s
  | '\r' :: '\n' :: s => some s
  | _ => none

/-- Reads the code point of an escape, of exactly `n` digits. -/
def codePoint? (n : Nat) (s : List Char) : Option (Char × List Char) := do
  let ds := s.take n
  if ds.length ≠ n then none
  else
    let c ← charOf? (← numeral? 16 ds)
    return (c, s.drop n)

/-- Reads an escape after its backslash. -/
def escape? : List Char → Option (Char × List Char)
  | 'b' :: s => some ('\x08', s)
  | 't' :: s => some ('\t', s)
  | 'n' :: s => some ('\n', s)
  | 'f' :: s => some ('\x0c', s)
  | 'r' :: s => some ('\r', s)
  | 'e' :: s => some ('\x1b', s)
  | '"' :: s => some ('"', s)
  | '\\' :: s => some ('\\', s)
  | 'x' :: s => codePoint? 2 s
  | 'u' :: s => codePoint? 4 s
  | 'U' :: s => codePoint? 8 s
  | _ => none

/-- Reads a text up to its closing double quote; `seen` holds its first characters in reverse, and
the number bounds the steps. -/
def basic? : Nat → List Char → List Char → Option (String × List Char)
  | 0, _, _ => none
  | _ + 1, seen, '"' :: s => some (String.ofList seen.reverse, s)
  | n + 1, seen, '\\' :: s => do
      let (c, s) ← escape? s
      basic? n (c :: seen) s
  | n + 1, seen, c :: s => if isPlain c then basic? n (c :: seen) s else none
  | _ + 1, _, [] => none

/-- Reads a text up to its closing single quote. -/
def literal? (s : List Char) : Option (String × List Char) :=
  let inner := s.takeWhile fun c => isPlain c && c != '\''
  match s.drop inner.length with
  | '\'' :: rest => some (String.ofList inner, rest)
  | _ => none

/-- Splits off up to two quotes that stand in front of three closing ones. -/
def closing? (q : Char) (s : List Char) : Option (List Char × List Char) :=
  let quotes := s.takeWhile (· == q)
  if quotes.length < 3 then none
  else
    let extra := min (quotes.length - 3) 2
    some (List.replicate extra q, s.drop (extra + 3))

/-- What follows a backslash at the end of a line: the blanks and line ends up to the next other
character are passed over. -/
def continuation? (s : List Char) : Option (List Char) :=
  match newline? (skipSpace s) with
  | some rest => some (rest.dropWhile fun c => isSpace c || c == '\n' || c == '\r')
  | none => none

/-- Reads a text of several lines up to its three closing quotes; `escapes` says whether a
backslash starts an escape. -/
def multiline? (q : Char) (escapes : Bool) : Nat → List Char → List Char →
    Option (String × List Char)
  | 0, _, _ => none
  | _ + 1, _, [] => none
  | n + 1, seen, c :: s =>
      if c = q then
        match closing? q (c :: s) with
        | some (extra, rest) => some (String.ofList (seen.reverse ++ extra), rest)
        | none => multiline? q escapes n (c :: seen) s
      else if c = '\\' && escapes then
        match continuation? s with
        | some s => multiline? q escapes n seen s
        | none => do
            let (c, s) ← escape? s
            multiline? q escapes n (c :: seen) s
      else
        match newline? (c :: s) with
        | some s => multiline? q escapes n ('\n' :: seen) s
        | none => if isPlain c then multiline? q escapes n (c :: seen) s else none

/-- The text without a line end in front. -/
def dropNewline (s : List Char) : List Char := (newline? s).getD s

/-- Reads a quoted text of one line. -/
def quoted? : List Char → Option (String × List Char)
  | '"' :: s => basic? (s.length + 1) [] s
  | '\'' :: s => literal? s
  | _ => none

/-- Reads a quoted text of either kind. -/
def anyQuoted? : List Char → Option (String × List Char)
  | '"' :: '"' :: '"' :: s => multiline? '"' true (s.length + 1) [] (dropNewline s)
  | '\'' :: '\'' :: '\'' :: s => multiline? '\'' false (s.length + 1) [] (dropNewline s)
  | s => quoted? s

end LintDesk.Toml
