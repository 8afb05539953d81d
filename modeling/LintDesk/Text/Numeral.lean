/-! # Decimal numerals

Reading unsigned decimal numerals with a bound: ASCII digits, at least one, after an optional plus
sign. Leading zeros are allowed.
-/

namespace LintDesk.Text

def isDigit (c : Char) : Bool := '0' ≤ c && c ≤ '9'

def digitValue (c : Char) : Nat := c.toNat - '0'.toNat

/-- The number that a row of digits denotes, most significant digit first. -/
def digitsValue (s : List Char) : Nat := s.foldl (fun n c => 10 * n + digitValue c) 0

/-- A nonempty row of digits whose value is below `bound`. -/
def digitsBelow? (bound : Nat) (s : List Char) : Option Nat :=
  if s.isEmpty || !s.all isDigit then none
  else if digitsValue s < bound then some (digitsValue s) else none

/-- An unsigned numeral below `bound`, with or without a plus sign in front. -/
def natBelow? (bound : Nat) : List Char → Option Nat
  | '+' :: s => digitsBelow? bound s
  | s => digitsBelow? bound s

/-- One more than the largest unsigned 32-bit number. -/
def bound32 : Nat := Nat.pow 2 32

/-- One more than the largest unsigned 64-bit number. -/
def bound64 : Nat := Nat.pow 2 64

/-- The value of a hexadecimal digit of either case. -/
def hexValue? (c : Char) : Option Nat :=
  if isDigit c then some (digitValue c)
  else if 'a' ≤ c && c ≤ 'f' then some (c.toNat - 'a'.toNat + 10)
  else if 'A' ≤ c && c ≤ 'F' then some (c.toNat - 'A'.toNat + 10)
  else none

/-- The number that a row of digits to the base `base` denotes; `none` for an empty row or a
character that is no digit of that base. -/
def numeral? (base : Nat) (s : List Char) : Option Nat :=
  if s.isEmpty then none
  else s.foldl (fun n c => do
    let n ← n
    let d ← hexValue? c
    if d < base then some (base * n + d) else none) (some 0)

/-- The character with the given code point, unless it is a surrogate or out of range. -/
def charOf? (n : Nat) : Option Char :=
  if n.isValidChar then some (Char.ofNat n) else none

/-- The decimal digits of a number, without leading zeros. -/
def decimal (n : Nat) : List Char := (Nat.toDigits 10 n)

/-- A signed number in decimal, with a minus sign if it is negative. -/
def decimalInt : Int → List Char
  | .ofNat n => decimal n
  | .negSucc n => '-' :: decimal (n + 1)

end LintDesk.Text
