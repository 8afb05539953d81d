import LintDesk.Machine.Basic
import LintDesk.Text.Numeral

/-! # Conditions on texts, numbers and files

A condition is stated by arguments: operands, operators between or in front of them, `!`, `-a`,
`-o` and parentheses. A text that is an operator still counts as an operand where the arguments
around it leave no other reading.
-/

namespace LintDesk.Condition

open LintDesk.Text

/-- A whole number to the base ten, with an optional sign and blanks around it. -/
def integer? (s : List Char) : Option Int :=
  let isSpace (c : Char) : Bool := c == ' ' || c == '\t' || c == '\n'
  let s := ((s.dropWhile isSpace).reverse.dropWhile isSpace).reverse
  let (negative, digits) := match s with
    | '-' :: s => (true, s)
    | '+' :: s => (false, s)
    | s => (false, s)
  (numeral? 10 digits).bind fun n =>
    let n : Int := if negative then -(n : Int) else n
    if -Nat.pow 2 63 ≤ n ∧ n < Nat.pow 2 63 then some n else none

/-- A number, or the complaint that there is none. -/
def number (s : List Char) : Except (List Char) Int :=
  match integer? s with
  | some n => .ok n
  | none => .error ("Illegal number: ".toList ++ s)

abbrev Unary := Place → List Char → Except (List Char) Bool

/-- Whether a path is a link. -/
def isLink (p : Place) (path : List Char) : Bool := p.hasEntry path && !p.has path

def isExecutable (p : Place) (path : List Char) : Bool :=
  match p.stat? path with
  | some (.file _ x) => x
  | some _ => true
  | none => false

/-- The operators of one operand. -/
def unary? (op : List Char) : Option Unary :=
  match String.ofList op with
  | "-n" => some fun _ s => .ok !s.isEmpty
  | "-z" => some fun _ s => .ok s.isEmpty
  | "-e" | "-r" | "-w" => some fun p s => .ok (p.has s)
  | "-f" => some fun p s => .ok (p.isFile s)
  | "-d" => some fun p s => .ok (p.isDir s)
  | "-h" | "-L" => some fun p s => .ok (isLink p s)
  | "-s" => some fun p s => .ok ((p.bytes? s).any (!·.isEmpty))
  | "-x" => some fun p s => .ok (isExecutable p s)
  | "-t" => some fun _ s => (number s).map fun _ => false
  | "-b" | "-c" | "-g" | "-k" | "-p" | "-u" | "-O" | "-G" | "-S" => some fun _ _ => .ok false
  | _ => none

abbrev Binary := List Char → List Char → Except (List Char) Bool

/-- The operators of two operands. -/
def binary? (op : List Char) : Option Binary :=
  let texts (f : List Char → List Char → Bool) : Option Binary := some fun a b => .ok (f a b)
  let numbers (f : Int → Int → Bool) : Option Binary :=
    some fun a b => do return f (← number a) (← number b)
  match String.ofList op with
  | "=" => texts (· == ·)
  | "!=" => texts (· != ·)
  | "<" => texts fun a b => String.ofList a < String.ofList b
  | ">" => texts fun a b => String.ofList b < String.ofList a
  | "-eq" => numbers (· == ·)
  | "-ne" => numbers (· != ·)
  | "-lt" => numbers (· < ·)
  | "-le" => numbers (· ≤ ·)
  | "-gt" => numbers (· > ·)
  | "-ge" => numbers (· ≥ ·)
  | "-nt" | "-ot" | "-ef" => some fun _ _ => .ok false
  | _ => none

/-- Whether an operator of one operand counts as an operand because of what follows it. -/
def isOperand (rest : List (List Char)) : Bool :=
  match rest with
  | [] => true
  | [_] => false
  | op :: b :: _ => (binary? op).isSome && b != [')']

abbrev Reading := Except (List Char) (Bool × List (List Char))

mutual

/-- Reads conditions of which one has to hold. -/
def readEither (p : Place) : Nat → List (List Char) → Reading
  | 0, args => .ok (false, args)
  | n + 1, args => do
      let (r, rest) ← readBoth p n args
      match rest with
      | ['-', 'o'] :: rest => do
          let (s, rest) ← readEither p n rest
          return (r || s, rest)
      | rest => return (r, rest)

/-- Reads conditions all of which have to hold. -/
def readBoth (p : Place) : Nat → List (List Char) → Reading
  | 0, args => .ok (false, args)
  | n + 1, args => do
      let (r, rest) ← readNegated p n args
      match rest with
      | ['-', 'a'] :: rest => do
          let (s, rest) ← readBoth p n rest
          return (r && s, rest)
      | rest => return (r, rest)

def readNegated (p : Place) : Nat → List (List Char) → Reading
  | 0, args => .ok (false, args)
  | n + 1, args =>
      match args with
      | ['!'] :: rest => (readNegated p n rest).map fun (r, rest) => (!r, rest)
      | args => readPrimary p n args

/-- Reads a condition in parentheses, an operator with its operands, or a text, which holds unless
it is empty. -/
def readPrimary (p : Place) : Nat → List (List Char) → Reading
  | 0, args => .ok (false, args)
  | n + 1, args =>
      match args with
      | [] => .ok (false, [])
      | ['('] :: first :: rest =>
          if first = [')'] then .ok (false, rest)
          else do
            let (r, rest) ← readEither p n (first :: rest)
            match rest with
            | [')'] :: rest => return (r, rest)
            | _ => .error "closing paren expected".toList
      | a :: rest =>
          match if isOperand rest then none else unary? a, rest with
          | some f, b :: rest => (f p b).map (·, rest)
          | _, [] => .ok (!a.isEmpty, [])
          | _, op :: rest =>
              match binary? op, rest with
              | some f, b :: rest => (f a b).map (·, rest)
              | some _, [] => .error (op ++ ": argument expected".toList)
              | none, rest => .ok (!a.isEmpty, op :: rest)

end

/-- Whether the condition that the arguments state holds. -/
def holds (p : Place) (args : List (List Char)) : Except (List Char) Bool :=
  match args with
  | [] => .ok false
  | [a, op, b] =>
      match binary? op with
      | some f => f a b
      | none => whole args
  | args => whole args
where
  whole (args : List (List Char)) : Except (List Char) Bool := do
    let (r, rest) ← readEither p (4 * args.length + 4) args
    match rest with
    | [] => return r
    | _ => .error ((args[args.length - rest.length - 1]?.getD []) ++
        ": unexpected operator".toList)

/-- Tells by the exit code whether a condition holds. -/
def run (p : Place) (args : List (List Char)) : Effect :=
  match holds p args with
  | .ok r => { status := if r then 0 else 1 }
  | .error message => .fault 2 message

end LintDesk.Condition
