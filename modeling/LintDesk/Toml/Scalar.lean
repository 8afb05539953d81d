import LintDesk.Text.Numeral
import LintDesk.Text.Search
import LintDesk.Toml.Basic

/-! # Values without quotes

Booleans, integers, floats, dates and times. A value without quotes is a run of letters, digits and
a few signs; the whole run has to be the spelling of one value.
-/

namespace LintDesk.Toml

open LintDesk.Text

/-- Digits in groups with an underscore between every two groups, without the underscores. -/
def grouped? (isDigit : Char → Bool) (s : List Char) : Option (List Char) :=
  let groups := splitWhere (· == '_') s
  if groups.all fun g => !g.isEmpty && g.all isDigit then some groups.flatten else none

/-- Decimal digits in groups, without a zero in front of others. -/
def plainDigits? (s : List Char) : Option (List Char) := do
  let digits ← grouped? isDigit s
  if digits.head? = some '0' ∧ digits.length ≠ 1 then none else some digits

/-- The sign of a number, and what follows it. -/
def signed : List Char → Bool × List Char
  | '-' :: s => (true, s)
  | '+' :: s => (false, s)
  | s => (false, s)

def isDigitTo (base : Nat) (c : Char) : Bool := (hexValue? c).any (· < base)

def based? (base : Nat) (s : List Char) : Option Int := do
  let n ← numeral? base (← grouped? (isDigitTo base) s)
  return n

/-- An integer; those to another base than ten have no sign. -/
def integer? : List Char → Option Int
  | '0' :: 'x' :: s => based? 16 s
  | '0' :: 'o' :: s => based? 8 s
  | '0' :: 'b' :: s => based? 2 s
  | s => do
      let (negative, s) := signed s
      let n : Int := digitsValue (← plainDigits? s)
      return if negative then -n else n

/-- Whether an integer fits into 128 bits, with or without sign. -/
def fits (n : Int) : Bool := -Nat.pow 2 127 ≤ n && n < Nat.pow 2 128

/-- Splits a text at the first character for which `p` holds; the character is dropped. -/
def splitFirst (p : Char → Bool) (s : List Char) : List Char × Option (List Char) :=
  (s.takeWhile (!p ·), (s.dropWhile (!p ·)).tail?)

/-- The least number that a double rounds to infinity. -/
def overflowBound : Nat := Nat.pow 2 1024 - Nat.pow 2 970

/-- Whether a number is less than `overflowBound`, given its digits and the power of ten. -/
def isFinite (digits : List Char) (power : Int) : Bool :=
  let n := digitsValue digits
  let size : Int := (decimal n).length
  if n = 0 ∨ size + power ≤ 300 then true
  else if size + power > 400 then false
  else if 0 ≤ power then n * Nat.pow 10 power.toNat < overflowBound
  else n < overflowBound * Nat.pow 10 (-power).toNat

/-- Whether a text is a float that a double can hold: a fraction or an exponent, or both, or the
name of infinity or of no number. -/
def isFloat (s : List Char) : Bool :=
  let (_, s) := signed s
  if s = "inf".toList ∨ s = "nan".toList then true
  else
    let (number, exponent) := splitFirst (fun c => c == 'e' || c == 'E') s
    let (whole, fraction) := splitFirst (· == '.') number
    let power : Option Int := match exponent with
      | none => some 0
      | some e => do
          let (negative, e) := signed e
          let n : Int := digitsValue (← grouped? isDigit e)
          return if negative then -n else n
    let places : Option (List Char) := match fraction with
      | none => some []
      | some f => grouped? isDigit f
    match plainDigits? whole, places, power with
    | some ds, some fs, some n =>
        (exponent.isSome || fraction.isSome) && isFinite (ds ++ fs) (n - fs.length)
    | _, _, _ => false

/-! ## Dates and times -/

/-- Reads a number of exactly `n` digits. -/
def digits? (n : Nat) (s : List Char) : Option (Nat × List Char) :=
  let ds := s.take n
  if ds.length = n ∧ ds.all isDigit then some (digitsValue ds, s.drop n) else none

def expect? (c : Char) : List Char → Option (List Char)
  | d :: s => if c = d then some s else none
  | [] => none

def isLeap (year : Nat) : Bool := year % 4 == 0 && (year % 100 != 0 || year % 400 == 0)

def daysIn (year month : Nat) : Nat :=
  if month == 2 then if isLeap year then 29 else 28
  else if month == 4 || month == 6 || month == 9 || month == 11 then 30
  else 31

/-- Reads year, month and day. -/
def date? (s : List Char) : Option (List Char) := do
  let (year, s) ← digits? 4 s
  let (month, s) ← digits? 2 (← expect? '-' s)
  let (day, s) ← digits? 2 (← expect? '-' s)
  if 1 ≤ month && month ≤ 12 && 1 ≤ day && day ≤ daysIn year month then some s else none

/-- Reads the seconds of a time, with a fraction perhaps; they may be left out. -/
def seconds? : List Char → Option (List Char)
  | ':' :: s => do
      let (second, s) ← digits? 2 s
      if 60 < second then none
      else match s with
        | '.' :: d :: s => if isDigit d then some (s.dropWhile isDigit) else none
        | '.' :: [] => none
        | s => some s
  | s => some s

def hourMinute? (s : List Char) : Option (List Char) := do
  let (hour, s) ← digits? 2 s
  let (minute, s) ← digits? 2 (← expect? ':' s)
  if hour ≤ 23 && minute ≤ 59 then some s else none

def time? (s : List Char) : Option (List Char) := do seconds? (← hourMinute? s)

/-- Whether a text is empty or an offset from universal time. -/
def isOffset : List Char → Bool
  | [] | ['Z'] | ['z'] => true
  | '+' :: s | '-' :: s => hourMinute? s = some []
  | _ => false

/-- Whether a text is a date, a time, or both, with an offset perhaps. -/
def isMoment (s : List Char) : Bool :=
  match date? s with
  | some [] => true
  | some (c :: s) =>
      (c == 'T' || c == 't' || c == ' ') && (match time? s with
        | some rest => isOffset rest
        | none => false)
  | none => time? s = some []

/-! ## Reading -/

def isScalarChar (c : Char) : Bool :=
  c.isAlphanum || c == '+' || c == '-' || c == '_' || c == '.' || c == ':'

/-- The characters of a value without quotes, and what follows them; a blank belongs to the value
when it stands between a date and a time. -/
def scalarRun (s : List Char) : List Char × List Char :=
  let run := s.takeWhile isScalarChar
  let rest := s.dropWhile isScalarChar
  match date? run, rest with
  | some [], ' ' :: d :: more =>
      if isDigit d then
        (run ++ ' ' :: (d :: more).takeWhile isScalarChar, (d :: more).dropWhile isScalarChar)
      else (run, rest)
  | _, _ => (run, rest)

/-- The value that a run spells. -/
def ofRun? (s : List Char) : Option Toml :=
  if s = "true".toList then some (boolean true)
  else if s = "false".toList then some (boolean false)
  else match integer? s with
    | some n => if fits n then some (integer n) else none
    | none =>
        if isFloat s then some float
        else if isMoment s then some (moment (String.ofList s))
        else none

end LintDesk.Toml
