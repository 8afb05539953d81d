import LintDesk.Text.Numeral
import LintDesk.Json.Basic

/-! # Writing JSON documents

Two layouts of one document: on a single line without blanks, and over several lines with two
blanks of indentation for each level. In texts, only the quote, the backslash and the characters
below U+0020 are escaped; five of these have escapes of one letter, the others are written as four
lower case hexadecimal digits.
-/

namespace LintDesk.Json

open LintDesk.Text

def hexDigit (n : Nat) : Char :=
  if n < 10 then Char.ofNat ('0'.toNat + n) else Char.ofNat ('a'.toNat + (n - 10))

/-- One character of a text, as it is written between the quotes. -/
def escape (c : Char) : List Char :=
  if c = '"' then ['\\', '"']
  else if c = '\\' then ['\\', '\\']
  else if c = '\n' then ['\\', 'n']
  else if c = '\r' then ['\\', 'r']
  else if c = '\t' then ['\\', 't']
  else if c.toNat = 8 then ['\\', 'b']
  else if c.toNat = 12 then ['\\', 'f']
  else if c.toNat < 0x20 then
    ['\\', 'u', '0', '0', hexDigit (c.toNat / 16), hexDigit (c.toNat % 16)]
  else [c]

def quote (s : String) : List Char := '"' :: (s.toList.flatMap escape ++ ['"'])

def printBool (b : Bool) : List Char := if b then "true".toList else "false".toList

/-! ## The layout on one line -/

mutual

def compactChars : Json → List Char
  | null => "null".toList
  | bool b => printBool b
  | int n => decimalInt n
  | real s => s.toList
  | str s => quote s
  | arr [] => ['[', ']']
  | arr (x :: xs) => '[' :: (compactChars x ++ (compactItems xs ++ [']']))
  | obj [] => ['\x7b', '\x7d']
  | obj ((k, v) :: ms) =>
      '\x7b' :: (quote k ++ ':' :: (compactChars v ++ (compactMembers ms ++ ['\x7d'])))

/-- The items after the first one, each with a comma before it. -/
def compactItems : List Json → List Char
  | [] => []
  | x :: xs => ',' :: (compactChars x ++ compactItems xs)

def compactMembers : List (String × Json) → List Char
  | [] => []
  | (k, v) :: ms => ',' :: (quote k ++ ':' :: (compactChars v ++ compactMembers ms))

end

/-! ## The layout over several lines -/

/-- A line break, and the indentation of level `n`. -/
def newline (n : Nat) : List Char := '\n' :: List.replicate (2 * n) ' '

mutual

/-- The document as it stands at indentation level `n`. -/
def prettyChars (n : Nat) : Json → List Char
  | null => "null".toList
  | bool b => printBool b
  | int k => decimalInt k
  | real s => s.toList
  | str s => quote s
  | arr [] => ['[', ']']
  | arr (x :: xs) =>
      '[' :: (newline (n + 1) ++ (prettyChars (n + 1) x ++ (prettyItems n xs ++ (newline n ++ [']']))))
  | obj [] => ['\x7b', '\x7d']
  | obj ((k, v) :: ms) =>
      '\x7b' :: (newline (n + 1) ++ (quote k ++ ':' :: ' ' :: (prettyChars (n + 1) v ++
        (prettyMembers n ms ++ (newline n ++ ['\x7d'])))))

def prettyItems (n : Nat) : List Json → List Char
  | [] => []
  | x :: xs => ',' :: (newline (n + 1) ++ (prettyChars (n + 1) x ++ prettyItems n xs))

def prettyMembers (n : Nat) : List (String × Json) → List Char
  | [] => []
  | (k, v) :: ms =>
      ',' :: (newline (n + 1) ++ (quote k ++ ':' :: ' ' :: (prettyChars (n + 1) v ++
        prettyMembers n ms)))

end

/-- The document on a single line. -/
def compact (j : Json) : String := String.ofList (compactChars j)

/-- The document over several lines. -/
def pretty (j : Json) : String := String.ofList (prettyChars 0 j)

end LintDesk.Json
