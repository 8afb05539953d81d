/-! # Positions in a YAML text

What is left of a text, with the line and column that have been reached. Indentation counts in
columns, so a reader has to know where it stands.
-/

namespace LintDesk.Yaml

structure Cursor where
  rest : List Char
  /-- The number of characters before this position. -/
  index : Nat := 0
  line : Nat := 0
  column : Nat := 0

def isBlank (c : Char) : Bool := c == ' ' || c == '\t'

/-- The characters that end a line. -/
def isBreak (c : Char) : Bool :=
  c == '\n' || c == '\r' || c == '\u0085' || c == '\u2028' || c == '\u2029'

/-- The characters of names: of anchors, directives and tag handles. -/
def isNameChar (c : Char) : Bool := c.isAlphanum || c == '_' || c == '-'

/-- Whether a character may stand in a YAML text at all. -/
def isAllowed (c : Char) : Bool :=
  let n := c.toNat
  n == 9 || n == 10 || n == 13 || (0x20 ≤ n && n ≤ 0x7E) || n == 0x85
    || (0xA0 ≤ n && n ≤ 0xD7FF) || (0xE000 ≤ n && n ≤ 0xFFFD) || 0x10000 ≤ n

namespace Cursor

def ofText (s : List Char) : Cursor := { rest := s }

def atEnd (c : Cursor) : Bool := c.rest.isEmpty

/-- Whether the `n`-th character from here is there and passes the test. -/
def hasAt (c : Cursor) (n : Nat) (p : Char → Bool) : Bool := (c.rest[n]?).any p

/-- Whether the next character passes the test. -/
def next (c : Cursor) (p : Char → Bool) : Bool := c.hasAt 0 p

/-- Whether the next character is the given one. -/
def nextIs (c : Cursor) (ch : Char) : Bool := c.next (· == ch)

/-- Whether a word ends before the `n`-th character from here. -/
def endsAt (c : Cursor) (n : Nat) : Bool := (c.rest[n]?).all fun ch => isBlank ch || isBreak ch

/-- Whether the line ends here. -/
def atLineEnd (c : Cursor) : Bool := c.rest.head?.all isBreak

/-- Passes over characters within a line. -/
def skip (c : Cursor) (n : Nat) : Cursor :=
  { c with rest := c.rest.drop n, index := c.index + n, column := c.column + n }

/-- Passes over the next characters as long as they pass the test; none of them ends a line. -/
def skipWhile (c : Cursor) (p : Char → Bool) : Cursor := c.skip (c.rest.takeWhile p).length

/-- Splits off the next characters as long as they pass the test; none of them ends a line. -/
def span (c : Cursor) (p : Char → Bool) : List Char × Cursor :=
  let s := c.rest.takeWhile p
  (s, c.skip s.length)

/-- Takes the end of the line, and says what stands for it in a value: a newline, except that the
line and paragraph separators stand for themselves. Nothing is taken where no line ends. -/
def takeBreak (c : Cursor) : List Char × Cursor :=
  let after (n : Nat) : Cursor := ⟨c.rest.drop n, c.index + n, c.line + 1, 0⟩
  match c.rest with
  | '\r' :: '\n' :: _ => (['\n'], after 2)
  | ch :: _ =>
      if ch == '\u2028' || ch == '\u2029' then ([ch], after 1)
      else if isBreak ch then (['\n'], after 1)
      else ([], c)
  | [] => ([], c)

def skipBreak (c : Cursor) : Cursor := c.takeBreak.2

/-- Whether three given signs that make a word of their own start the line here. -/
def startsLine (c : Cursor) (sign : Char) : Bool :=
  c.column == 0 && c.rest.take 3 == [sign, sign, sign] && c.endsAt 3

/-- Whether a document starts or ends here. -/
def atDocumentMark (c : Cursor) : Bool := c.startsLine '-' || c.startsLine '.'

/-- Passes over blanks and a comment to the end of the line, and over that. -/
def finishLine? (c : Cursor) : Option Cursor :=
  let c := c.skipWhile isBlank
  let c := if c.nextIs '#' then c.skipWhile (!isBreak ·) else c
  if c.atLineEnd then some c.skipBreak else none

end Cursor
end LintDesk.Yaml
