import LintDesk.Machine.Condition
import LintDesk.Machine.Printf

/-! # Small programs of a machine

Programs that read their arguments and their input, write something, and end.
-/

namespace LintDesk.Utility

open LintDesk.Text

/-! ## Echo -/

/-- Writes words with blanks between them and a line end. -/
def echoWords (newline : Bool) (words : List (List Char)) : Effect :=
  { out := utf8 (join [' '] words) ++ if newline then [10] else [] }

/-- The same for words with escapes. -/
def echoEscapes (hex newline : Bool) (words : List (List Char)) : Effect :=
  let u := Escape.bytes hex (join [' '] words)
  { out := u.bytes ++ if newline && !u.ended then [10] else [] }

/-- The letters of options that `echo` knows, if an argument is made of them. -/
def echoOption? (arg : List Char) : Option (List Char) :=
  match arg with
  | '-' :: c :: s => if (c :: s).all ['n', 'e', 'E'].contains then some (c :: s) else none
  | _ => none

/-- Writes the arguments after the options, which say whether there are escapes in them and a line
end after them. -/
def echo (newline escapes : Bool) : List (List Char) → Effect
  | [] => echoWords newline []
  | arg :: args =>
      match echoOption? arg with
      | some letters =>
          let last := (letters.filter (· != 'n')).getLast?
          echo (newline && !letters.contains 'n') ((last.map (· == 'e')).getD escapes) args
      | none =>
          if escapes then echoEscapes true newline (arg :: args) else echoWords newline (arg :: args)

/-! ## Files, time and numbers -/

/-- A name as it is shown in a message: in quotes if a shell would not take it as a word. -/
def quoted (name : List Char) : List Char :=
  let special := " \t\n!\"#$&'()*;<>?[\\]^\x60\x7b|\x7d~".toList
  if name.isEmpty then ['\'', '\'']
  else if !name.any special.contains then name
  else if name.contains '\'' then '"' :: name ++ ['"'] else '\'' :: name ++ ['\'']

/-- Writes the contents of files, or of the input. -/
def cat (p : Place) (input : Bytes) (args : List (List Char)) : Effect :=
  let fault (e : Effect) (file : List Char) (text : String) : Effect :=
    { e with
      complaints := e.complaints ++ [quoted file ++ (": " ++ text).toList]
      status := 1 }
  (if args.isEmpty then [['-']] else args).foldl (fun e file =>
    if file = ['-'] then { e with out := e.out ++ input }
    else
      match p.stat? file with
      | some (.file bytes _) => { e with out := e.out ++ bytes }
      | some .dir => fault e file "Is a directory"
      | some _ => e
      | none => fault e file "No such file or directory")
    {}

/-- How many milliseconds the unit of a time has. -/
def unit? : List Char → Option Nat
  | [] | ['s'] => some 1000
  | ['m'] => some 60000
  | ['h'] => some 3600000
  | ['d'] => some 86400000
  | _ => none

/-- A time with decimal places perhaps, and a unit, as milliseconds. -/
def millis? (s : List Char) : Option Nat := do
  let whole := s.takeWhile isDigit
  let rest := s.drop whole.length
  let places := match rest with
    | '.' :: rest => rest.takeWhile isDigit
    | _ => []
  let rest := if rest.head? = some '.' then rest.drop (places.length + 1) else rest
  if (whole ++ places).isEmpty then none
  else
    let unit ← unit? rest
    return digitsValue (whole ++ places) * unit / Nat.pow 10 places.length

/-- Waits for the sum of some times. -/
def sleep (args : List (List Char)) : Effect :=
  let hint : List Char := "\nTry 'sleep --help' for more information.".toList
  if args.isEmpty then .fault 1 ("missing operand".toList ++ hint)
  else
    match args.find? fun a => (millis? a).isNone with
    | some a => .fault 1 ("invalid time interval '".toList ++ a ++ ['\''] ++ hint)
    | none => { wait := (args.filterMap millis?).foldl (· + ·) 0 }

/-- Writes the whole numbers from one to another, a line each. -/
def seq (args : List (List Char)) : Effect :=
  let range := match args.mapM Condition.integer? with
    | some [b] => some (1, b)
    | some [a, b] => some (a, b)
    | _ => none
  match range with
  | some (a, b) =>
      let numbers := (List.range (b - a + 1).toNat).map fun (i : Nat) => a + (i : Int)
      { out := numbers.flatMap fun i => utf8 (decimalInt i) ++ [10] }
  | none => { status := 1 }

/-- The small program with a name, as a function of the place where it runs, its input and its
arguments. -/
def named? : String → Option (Place → Bytes → List (List Char) → Effect)
  | "cat" => some cat
  | "echo" => some fun _ _ args => echo true false args
  | "printf" => some fun _ _ args => Printf.run args
  | "sleep" => some fun _ _ args => sleep args
  | "seq" => some fun _ _ args => seq args
  | "true" => some fun _ _ _ => {}
  | "false" => some fun _ _ _ => { status := 1 }
  | "test" => some fun p _ args => Condition.run p args
  | "pwd" => some fun p _ _ => { out := utf8 (Path.ofNames p.cwd) ++ [10] }
  | _ => none

/-- The names of the programs of a machine, its shell among them. -/
def programs : List String :=
  ["cat", "echo", "printf", "sleep", "seq", "true", "false", "test", "pwd", "sh", "env"]

end LintDesk.Utility

namespace LintDesk

/-- The directories of a machine with its programs and devices. -/
def FileTree.standard : FileTree :=
  let dirs : List (List FileName) := [["bin".toList], ["usr".toList, "bin".toList]]
  let t := dirs.foldl (fun t dir => Utility.programs.foldl (fun (t : FileTree) name =>
    t.add (dir ++ [name.toList]) (.program name)) t) {}
  t.add nullDevice (.file [] false)

end LintDesk
