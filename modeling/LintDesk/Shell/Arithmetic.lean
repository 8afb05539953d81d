import LintDesk.Shell.Reader

/-! # Arithmetic of the shell

Expressions over whole numbers of 64 bits. They are read first and then evaluated, so that what a
condition passes over is read but has no effect.
-/

namespace LintDesk.Shell

open LintDesk.Text

/-- An integer brought into the range of 64 bits with sign. -/
def wrap (n : Int) : Int := Int.bmod n (Nat.pow 2 64)

def ofBool (b : Bool) : Int := if b then 1 else 0

/-- Why an expression has no value. -/
inductive ArithmeticFault where
  | primaryExpected
  | colonExpected
  | closeExpected
  | endExpected
  | divisionByZero
  /-- The value of a variable is no number. -/
  | noNumber (value : List Char)

def ArithmeticFault.message (expr : List Char) (f : ArithmeticFault) : List Char :=
  let about (what : String) : List Char :=
    "arithmetic expression: ".toList ++ what.toList ++ ": \"".toList ++ expr ++ ['"']
  match f with
  | primaryExpected => about "expecting primary"
  | colonExpected => about "expecting ':'"
  | closeExpected => about "expecting ')'"
  | endExpected => about "expecting EOF"
  | divisionByZero => about "division by zero"
  | noNumber value => "Illegal number: ".toList ++ value

/-- What an operator gives for its operands; none for a division by zero. -/
abbrev Operation := Int → Int → Option Int

namespace Operation

def total (f : Int → Int → Int) : Operation := fun a b => some (wrap (f a b))

def truth (f : Int → Int → Bool) : Operation := fun a b => some (ofBool (f a b))

def bitwise (f : UInt64 → UInt64 → UInt64) : Operation := fun a b =>
  some (wrap (f (.ofInt a) (.ofInt b)).toNat)

def divide (f : Int → Int → Int) : Operation := fun a b => if b = 0 then none else some (wrap (f a b))

def shiftLeft : Operation := total fun a b => a * Nat.pow 2 (b % 64).toNat

def shiftRight : Operation := total fun a b => a.fdiv (Nat.pow 2 (b % 64).toNat)

end Operation

inductive Arithmetic where
  | number (n : Int)
  | name (x : List Char)
  | sign (f : Int → Int) (a : Arithmetic)
  | operation (f : Operation) (a b : Arithmetic)
  | both (a b : Arithmetic)
  | either (a b : Arithmetic)
  | choose (condition a b : Arithmetic)
  /-- Gives a variable a value, or the result of its old value and another. -/
  | assign (x : List Char) (f : Option Operation) (a : Arithmetic)

namespace Arithmetic

/-- The operators of two operands: their signs, how tightly they bind, and what they make. A sign
stands before those that it begins with. -/
def operators : List (List Char × Nat × (Arithmetic → Arithmetic → Arithmetic)) :=
  [("||".toList, 1, either), ("&&".toList, 2, both),
    ("==".toList, 6, operation (.truth (· == ·))), ("!=".toList, 6, operation (.truth (· != ·))),
    ("<<".toList, 8, operation .shiftLeft), (">>".toList, 8, operation .shiftRight),
    ("<=".toList, 7, operation (.truth (· ≤ ·))), (">=".toList, 7, operation (.truth (· ≥ ·))),
    ("|".toList, 3, operation (.bitwise (· ||| ·))), ("^".toList, 4, operation (.bitwise (· ^^^ ·))),
    ("&".toList, 5, operation (.bitwise (· &&& ·))),
    ("<".toList, 7, operation (.truth (· < ·))), (">".toList, 7, operation (.truth (· > ·))),
    ("+".toList, 9, operation (.total (· + ·))), ("-".toList, 9, operation (.total (· - ·))),
    ("*".toList, 10, operation (.total (· * ·))), ("/".toList, 10, operation (.divide Int.tdiv)),
    ("%".toList, 10, operation (.divide Int.tmod))]

/-- The signs of assignments, and what they give of the old value and the operand. -/
def assignments : List (List Char × Option Operation) :=
  [("=".toList, none),
    ("+=".toList, some (.total (· + ·))), ("-=".toList, some (.total (· - ·))),
    ("*=".toList, some (.total (· * ·))), ("/=".toList, some (.divide Int.tdiv)),
    ("%=".toList, some (.divide Int.tmod)),
    ("<<=".toList, some .shiftLeft), (">>=".toList, some .shiftRight),
    ("&=".toList, some (.bitwise (· &&& ·))), ("^=".toList, some (.bitwise (· ^^^ ·))),
    ("|=".toList, some (.bitwise (· ||| ·)))]

def skipWhite (s : List Char) : List Char := s.dropWhile fun c => isSpace c || c == '\n'

/-- Splits off a name with the sign of an assignment. -/
def assignment? (s : List Char) : Option (List Char × Option Operation × List Char) := do
  let x := s.takeWhile isNameChar
  if !(x.head?.any isNameStart) then none
  else
    let rest := skipWhite (s.drop x.length)
    if "==".toList.isPrefixOf rest then none
    else
      let (symbol, f) ← assignments.find? fun (symbol, _) => symbol.isPrefixOf rest
      return (x, f, rest.drop symbol.length)

/-- Splits off a number to the base ten, eight or sixteen; it is cut at the largest of 64 bits. -/
def number? (s : List Char) : Option (Int × List Char) :=
  let read (base : Nat) (isDigit : Char → Bool) (s : List Char) : Option (Int × List Char) :=
    (numeral? base (s.takeWhile isDigit)).map fun n =>
      (min (n : Int) (Nat.pow 2 63 - 1), s.dropWhile isDigit)
  match s with
  | '0' :: 'x' :: s | '0' :: 'X' :: s => read 16 (fun c => (numeral? 16 [c]).isSome) s
  | '0' :: _ => read 8 (fun c => '0' ≤ c && c ≤ '7') s
  | s => read 10 isDigit s

abbrev Reading := Except ArithmeticFault (Arithmetic × List Char)

mutual

/-- Reads operands with the operators between them that bind at least as tightly as `level`. -/
def read : Nat → Nat → List Char → Reading
  | 0, _, _ => .error .primaryExpected
  | n + 1, level, s => do
      match if level = 0 then assignment? (skipWhite s) else none with
      | some (x, f, s) =>
          let (a, s) ← read n 0 s
          return (.assign x f a, s)
      | none =>
          let (a, s) ← readOperand n s
          readRest n level a s

def readRest : Nat → Nat → Arithmetic → List Char → Reading
  | 0, _, _, _ => .error .primaryExpected
  | n + 1, level, a, s =>
      let s := skipWhite s
      match operators.find? fun (symbol, _) => symbol.isPrefixOf s with
      | some (symbol, tightness, make) =>
          if tightness < level then .ok (a, s)
          else do
            let (b, s) ← read n (tightness + 1) (s.drop symbol.length)
            readRest n level (make a b) s
      | none =>
          match level, s with
          | 0, '?' :: s => do
              let (b, s) ← read n 0 s
              match skipWhite s with
              | ':' :: s => do
                  let (c, s) ← read n 0 s
                  return (.choose a b c, s)
              | _ => .error .colonExpected
          | _, s => .ok (a, s)

/-- Reads a number, a name, a sign with an operand, or an expression in parentheses. -/
def readOperand : Nat → List Char → Reading
  | 0, _ => .error .primaryExpected
  | n + 1, s =>
      let signed (f : Int → Int) (s : List Char) : Reading :=
        (readOperand n s).map fun (a, s) => (.sign f a, s)
      match skipWhite s with
      | '(' :: s => do
          let (a, s) ← read n 0 s
          match skipWhite s with
          | ')' :: s => return (a, s)
          | _ => .error .closeExpected
      | '-' :: s => signed (fun a => wrap (-a)) s
      | '+' :: s => signed id s
      | '!' :: s => signed (fun a => ofBool (a == 0)) s
      | '~' :: s => signed (fun a => -a - 1) s
      | s =>
          match number? s with
          | some (k, s) => .ok (.number k, s)
          | none =>
              let x := s.takeWhile isNameChar
              if x.isEmpty then .error .primaryExpected else .ok (.name x, s.drop x.length)

end

/-- Reads a whole text as an expression. -/
def ofText (s : List Char) : Except ArithmeticFault Arithmetic := do
  let (a, rest) ← read (4 * s.length + 4) 0 s
  if (skipWhite rest).isEmpty then return a else .error .endExpected

/-- The values of names, those that have been assigned first. -/
abbrev Assigned := List (List Char × Int)

/-- The value of an expression, and the assignments that it makes. -/
def eval (value : List Char → Except ArithmeticFault Int) :
    Arithmetic → Assigned → Except ArithmeticFault (Int × Assigned)
  | number n, env => .ok (n, env)
  | name x, env => do
      match env.lookup x with
      | some v => return (v, env)
      | none => return (← value x, env)
  | sign f a, env => do
      let (v, env) ← eval value a env
      return (f v, env)
  | operation f a b, env => do
      let (v, env) ← eval value a env
      let (w, env) ← eval value b env
      match f v w with
      | some r => return (r, env)
      | none => .error .divisionByZero
  | both a b, env => do
      let (v, env) ← eval value a env
      if v = 0 then return (0, env)
      else
        let (w, env) ← eval value b env
        return (ofBool (w != 0), env)
  | either a b, env => do
      let (v, env) ← eval value a env
      if v ≠ 0 then return (1, env)
      else
        let (w, env) ← eval value b env
        return (ofBool (w != 0), env)
  | choose c a b, env => do
      let (v, env) ← eval value c env
      if v ≠ 0 then eval value a env else eval value b env
  | assign x none a, env => do
      let (w, env) ← eval value a env
      return (w, (x, w) :: env)
  | assign x (some f) a, env => do
      let (w, env) ← eval value a env
      let old ← match env.lookup x with
        | some v => pure v
        | none => value x
      match f old w with
      | some r => return (r, (x, r) :: env)
      | none => .error .divisionByZero

end Arithmetic
end LintDesk.Shell
