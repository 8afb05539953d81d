import LintDesk.Machine.Utility

/-! # Finding programs

What a command stands for on a machine: a program, perhaps by way of a script that names it in its
first line. A command without a slash is looked up in the directories of the search path.
-/

namespace LintDesk

open LintDesk.Text

/-- Why a program cannot be started. -/
inductive SpawnFault where
  | missing
  | denied
  | notDirectory
  | tooManyLinks
  /-- The file is neither a program nor a script that names one. -/
  | badFormat
  /-- A text for the program or its arguments holds the character zero. -/
  | zeroCharacter
deriving DecidableEq, Repr

namespace SpawnFault

/-- The number that the system gives to the fault. -/
def number? : SpawnFault → Option Nat
  | missing => some 2
  | badFormat => some 8
  | denied => some 13
  | notDirectory => some 20
  | tooManyLinks => some 40
  | zeroCharacter => none

def text : SpawnFault → String
  | missing => "No such file or directory"
  | badFormat => "Exec format error"
  | denied => "Permission denied"
  | notDirectory => "Not a directory"
  | tooManyLinks => "Too many levels of symbolic links"
  | zeroCharacter => "nul byte found in provided data"

def message (f : SpawnFault) : String :=
  match f.number? with
  | some n => s!"{f.text} (os error {n})"
  | none => f.text

def ofPath : PathFault → SpawnFault
  | .missing => missing
  | .notDirectory => notDirectory
  | .tooManyLinks => tooManyLinks

end SpawnFault

/-- A program of the machine with its name and arguments as it gets them. -/
structure Launch where
  program : String
  name : List Char
  args : List (List Char)

namespace Launch

/-- The interpreter that the first line of a script names, with the one argument it may give. -/
def interpreter? (bytes : Bytes) : Option (List Char × List (List Char)) :=
  match Utf8.lossy (bytes.takeWhile (· != 10)) with
  | '#' :: '!' :: line =>
      let isSpace (c : Char) := c == ' ' || c == '\t'
      let line := (line.reverse.dropWhile isSpace).reverse.dropWhile isSpace
      let rest := (line.dropWhile (!isSpace ·)).dropWhile isSpace
      some (line.takeWhile (!isSpace ·), if rest.isEmpty then [] else [rest])
  | _ => none

/-- What running the file at a path under some name comes to. A script may name another script,
five times at most; its interpreter gets the path of the script in place of the name. -/
def ofPath (p : Place) : Nat → List Char → List Char → List (List Char) → Except SpawnFault Launch
  | n, name, path, args =>
      match p.resolve path with
      | .error e => .error (.ofPath e)
      | .ok (_, .program program) => .ok ⟨program, name, args⟩
      | .ok (_, .file bytes true) =>
          match interpreter? bytes, n with
          | none, _ => .error .badFormat
          | some ([], _), _ => .error .badFormat
          | some _, 0 => .error .tooManyLinks
          | some (interpreter, extra), n + 1 =>
              ofPath p n interpreter interpreter (extra ++ path :: args)
      | .ok _ => .error .denied

/-- Tries the directories of a search path one after another. What is denied is remembered, as
something else may be found further on. -/
def search (p : Place) (name : List Char) (args : List (List Char)) (denied : Bool) :
    List (List Char) → Except SpawnFault Launch
  | [] => .error (if denied then .denied else .missing)
  | dir :: dirs =>
      match ofPath p 5 name (Path.join (if dir.isEmpty then ['.'] else dir) name) args with
      | .ok l => .ok l
      | .error .denied => search p name args true dirs
      | .error .missing | .error .notDirectory => search p name args denied dirs
      | .error e => .error e

/-- What a command stands for, given the search path. -/
def find (p : Place) (searchPath : List Char) (name : List Char) (args : List (List Char)) :
    Except SpawnFault Launch :=
  if (name :: args).any (·.contains '\x00') then .error .zeroCharacter
  else if name.isEmpty then .error .missing
  else if name.contains '/' then ofPath p 5 name name args
  else search p name args false (splitWhere (· == ':') searchPath)

end Launch
end LintDesk
