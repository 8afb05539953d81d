import LintDesk.Text.Numeral
import LintDesk.Json.Basic

/-! # Reading JSON documents

A reader of the whole format: every text that spells a document is read, blanks between the parts
are passed over, and anything else is refused.
-/

namespace LintDesk.Json

open LintDesk.Text

def isSpace (c : Char) : Bool := c == ' ' || c == '\n' || c == '\r' || c == '\t'

def skipSpace (s : List Char) : List Char := s.dropWhile isSpace

/-- Reads four hexadecimal digits. -/
def hex4? : List Char → Option (Nat × List Char)
  | a :: b :: c :: d :: s => do
      let n ← numeral? 16 [a, b, c, d]
      some (n, s)
  | _ => none

/-- Reads what follows the `u` of an escape; a high surrogate needs the escape of a low one behind
it. -/
def unicodeEscape? (s : List Char) : Option (Char × List Char) := do
  let (n, s) ← hex4? s
  if 0xD800 ≤ n && n < 0xDC00 then
    match s with
    | '\\' :: 'u' :: s => do
        let (m, s) ← hex4? s
        if 0xDC00 ≤ m && m < 0xE000 then
          some (Char.ofNat (0x10000 + (n - 0xD800) * 0x400 + (m - 0xDC00)), s)
        else none
    | _ => none
  else (charOf? n).map (·, s)

/-- The character of an escape of one letter. -/
def shortEscape? : Char → Option Char
  | '"' => some '"'
  | '\\' => some '\\'
  | '/' => some '/'
  | 'b' => some '\x08'
  | 'f' => some '\x0c'
  | 'n' => some '\n'
  | 'r' => some '\r'
  | 't' => some '\t'
  | _ => none

/-- Reads a text up to its closing quote; `seen` holds its first characters in reverse. -/
def text? : Nat → List Char → List Char → Option (String × List Char)
  | 0, _, _ => none
  | _ + 1, _, [] => none
  | _ + 1, seen, '"' :: s => some (String.ofList seen.reverse, s)
  | n + 1, seen, '\\' :: 'u' :: s => do
      let (c, s) ← unicodeEscape? s
      text? n (c :: seen) s
  | n + 1, seen, '\\' :: e :: s => do
      let c ← shortEscape? e
      text? n (c :: seen) s
  | n + 1, seen, c :: s => if c.toNat < 0x20 || c == '\\' then none else text? n (c :: seen) s

/-- A minus sign, if there is one, and what follows. -/
def takeSign : List Char → List Char × List Char
  | '-' :: s => (['-'], s)
  | s => ([], s)

/-- A point and the digits behind it, if there is one, and what follows. -/
def takeFraction : List Char → List Char × List Char
  | '.' :: s => ('.' :: s.takeWhile isDigit, s.dropWhile isDigit)
  | s => ([], s)

/-- The letter and the sign of an exponent, if there is one, and what follows. -/
def takeMark : List Char → List Char × List Char
  | 'e' :: '+' :: s => (['e', '+'], s)
  | 'e' :: '-' :: s => (['e', '-'], s)
  | 'e' :: s => (['e'], s)
  | 'E' :: '+' :: s => (['E', '+'], s)
  | 'E' :: '-' :: s => (['E', '-'], s)
  | 'E' :: s => (['E'], s)
  | s => ([], s)

/-- Reads a number: an optional sign, digits without leading zeros, and perhaps a fraction and an
exponent. Minus zero is not an integer. -/
def number? (s : List Char) : Option (Json × List Char) := do
  let (sign, s) := takeSign s
  let digits := s.takeWhile isDigit
  if digits.isEmpty || (digits.head? == some '0' && digits.length ≠ 1) then none
  else
    let (fraction, s) := takeFraction (s.dropWhile isDigit)
    if fraction == ['.'] then none
    else
      let (mark, s) := takeMark s
      let (power, s) := if mark.isEmpty then ([], s) else (s.takeWhile isDigit, s.dropWhile isDigit)
      if !mark.isEmpty && power.isEmpty then none
      else if fraction.isEmpty && mark.isEmpty && !(sign == ['-'] && digits == ['0']) then
        let n := digitsValue digits
        some (int (if sign.isEmpty then n else -n), s)
      else some (real (String.ofList (sign ++ digits ++ fraction ++ mark ++ power)), s)

mutual

def value? : Nat → List Char → Option (Json × List Char)
  | 0, _ => none
  | n + 1, s =>
      match s with
      | 'n' :: 'u' :: 'l' :: 'l' :: s => some (null, s)
      | 't' :: 'r' :: 'u' :: 'e' :: s => some (bool true, s)
      | 'f' :: 'a' :: 'l' :: 's' :: 'e' :: s => some (bool false, s)
      | '"' :: s => do
          let (t, s) ← text? n [] s
          some (str t, s)
      | '[' :: s =>
          match skipSpace s with
          | ']' :: s => some (arr [], s)
          | s => do
              let (xs, s) ← items? n s
              some (arr xs, s)
      | '\x7b' :: s =>
          match skipSpace s with
          | '\x7d' :: s => some (obj [], s)
          | s => do
              let (ms, s) ← members? n s
              some (obj ms, s)
      | s => number? s

/-- Reads the items of a list, at least one, up to the closing bracket. -/
def items? : Nat → List Char → Option (List Json × List Char)
  | 0, _ => none
  | n + 1, s => do
      let (x, s) ← value? n (skipSpace s)
      match skipSpace s with
      | ',' :: s => do
          let (xs, s) ← items? n s
          some (x :: xs, s)
      | ']' :: s => some ([x], s)
      | _ => none

/-- Reads the members of an object, at least one, up to the closing brace. -/
def members? : Nat → List Char → Option (List (String × Json) × List Char)
  | 0, _ => none
  | n + 1, s => do
      match skipSpace s with
      | '"' :: s => do
          let (k, s) ← text? n [] s
          match skipSpace s with
          | ':' :: s => do
              let (v, s) ← value? n (skipSpace s)
              match skipSpace s with
              | ',' :: s => do
                  let (ms, s) ← members? n s
                  some ((k, v) :: ms, s)
              | '\x7d' :: s => some ([(k, v)], s)
              | _ => none
          | _ => none
      | _ => none

end

/-- The document that a text spells. -/
def read? (s : List Char) : Option Json := do
  let (j, rest) ← value? (2 * s.length + 2) (skipSpace s)
  if (skipSpace rest).isEmpty then some j else none

def parse? (s : String) : Option Json := read? s.toList

end LintDesk.Json
