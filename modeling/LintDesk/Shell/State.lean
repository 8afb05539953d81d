import LintDesk.Glob.Search
import LintDesk.Machine.Lookup
import LintDesk.Shell.Arithmetic
import LintDesk.Shell.Pattern

/-! # The state of a shell -/

namespace LintDesk

open LintDesk.Text

/-- A shell at work on a machine. -/
structure Shell where
  machine : Machine
  /-- The name under which it was started. -/
  name : List Char
  params : List (List Char) := []
  vars : List (List Char × List Char) := []
  /-- The names of the variables that programs get to see. -/
  exported : List (List Char) := []
  /-- The variables of the function under way, with the values that they get back after it. -/
  locals : List (List Char × Option (List Char)) := []
  functions : List (List Char × Shell.Command) := []
  /-- The letters of the options that are set. -/
  options : List Char := []
  /-- What is to be done for a signal, or, under zero, at the end of the shell. -/
  traps : List (Nat × List Char) := []
  /-- What is to be done for signals that have come. -/
  pending : List (List Char) := []
  /-- The exit code of the last command. -/
  status : Nat := 0
  /-- The exit code of the last script in the words of the current command. -/
  substituted : Nat := 0
  /-- An expansion has gone wrong, which ends the shell. -/
  broken : Bool := false
  /-- Whether a failure is allowed because the command is a condition. -/
  tested : Bool := false
  /-- How many loops are under way. -/
  loops : Nat := 0
  /-- How many functions are under way. -/
  calls : Nat := 0
  /-- How many processes are under way around the one of the shell. -/
  nesting : Nat := 0
  process : Nat
  descriptors : List (Nat × Channel) := []
  cwd : List FileName := []
  /-- The line of the current command. -/
  line : Nat := 1

namespace Shell

/-- How the control goes on after a command. -/
inductive Flow where
  | next
  /-- Out of so many loops. -/
  | leave (loops : Nat)
  /-- To the next round of the loop that encloses so many others. -/
  | again (loops : Nat)
  | back
  | exit
  | killed (signal : Nat)
  /-- The shell never comes to an end. -/
  | endless
deriving DecidableEq

/-- How the process of a shell ends when the control flows out of it. -/
def Flow.ending (f : Flow) (status : Nat) : Ending :=
  match f with
  | killed signal => .killed signal
  | endless => .endless
  | _ => .exited (status % 256)

def place (sh : Shell) : Place := ⟨sh.machine.tree, sh.cwd⟩

def put {α : Type} (key : List Char) (v : α) (xs : List (List Char × α)) :
    List (List Char × α) :=
  (key, v) :: xs.filter (·.1 != key)

def setVar (sh : Shell) (name value : List Char) : Shell :=
  { sh with vars := put name value sh.vars }

def unsetVar (sh : Shell) (name : List Char) : Shell :=
  { sh with vars := sh.vars.filter (·.1 != name) }

def exportVar (sh : Shell) (name : List Char) : Shell :=
  { sh with exported := name :: sh.exported }

/-- Keeps the value of a variable until the end of the function under way. -/
def localVar (sh : Shell) (name : List Char) : Shell :=
  { sh with locals := (name, sh.vars.lookup name) :: sh.locals }

/-- Gives variables the values back that they had, the latest entry first. -/
def giveBack (sh : Shell) (saved : List (List Char × Option (List Char))) : Shell :=
  saved.foldl (fun sh (name, value) =>
    match value with
    | some v => sh.setVar name v
    | none => sh.unsetVar name) sh

def fail (sh : Shell) (status : Nat) : Shell := { sh with status := status }

def has (sh : Shell) (option : Char) : Bool := sh.options.contains option

def channel (sh : Shell) (descriptor : Nat) : Channel :=
  (sh.descriptors.lookup descriptor).getD .null

def write (sh : Shell) (descriptor : Nat) (bytes : Bytes) : Shell :=
  { sh with machine := sh.machine.write (sh.channel descriptor) bytes }

/-- Writes a message with the name of the shell and the line in front. -/
def complain (sh : Shell) (message : List Char) : Shell :=
  sh.write 2 <| utf8 <|
    sh.name ++ ": ".toList ++ decimal sh.line ++ ": ".toList ++ message ++ ['\n']

/-- Writes a message for an expansion that has gone wrong. -/
def breakOff (sh : Shell) (message : List Char) : Shell :=
  { sh.complain message with broken := true }

/-! ## Parameters -/

/-- The characters between fields. -/
def separators (sh : Shell) : List Char := (sh.vars.lookup "IFS".toList).getD [' ', '\t', '\n']

/-- The value of a parameter; that of a list of parameters is the list in one text. -/
def value? (sh : Shell) (name : List Char) : Option (List Char) :=
  match name with
  | ['@'] | ['*'] => if sh.params.isEmpty then none else some (join (sh.separators.take 1) sh.params)
  | ['#'] => some (decimal sh.params.length)
  | ['?'] => some (decimal sh.status)
  | ['$'] => some (decimal sh.process)
  | ['!'] => some []
  | ['-'] => some sh.options
  | ['0'] => some sh.name
  | c :: _ =>
      if isDigit c then sh.params[digitsValue name - 1]? else sh.vars.lookup name
  | [] => none

def value (sh : Shell) (name : List Char) : List Char := (sh.value? name).getD []

/-- The number that the value of a variable spells. -/
def number (sh : Shell) (name : List Char) : Except ArithmeticFault Int :=
  match sh.value name with
  | [] => .ok 0
  | s =>
      match Printf.leadingNumber s with
      | (some n, []) => .ok n
      | _ => .error (.noNumber s)

/-- The value of an arithmetic expression, with its assignments carried out. -/
def calculate (sh : Shell) (expr : List Char) : Option Int × Shell :=
  match Arithmetic.ofText expr >>= fun a => a.eval sh.number [] with
  | .ok (n, assigned) =>
      (some n, assigned.reverse.foldl (fun sh (x, v) => sh.setVar x (decimalInt v)) sh)
  | .error fault => (none, sh.breakOff (fault.message expr))

/-! ## Fields -/

/-- A piece of an expanded word. -/
inductive Piece where
  /-- Characters that stay together. -/
  | exact (f : Field)
  /-- Text that is cut at the separators. -/
  | split (s : List Char)
  | cut

def marked (quoted : Bool) (s : List Char) : Field := s.map (·, quoted)

def isWhite (c : Char) : Bool := isSpace c || c == '\n'

/-- Fields that are complete, latest first, and the characters of the one under way, latest
first. -/
structure Fields where
  done : List Field := []
  current : Option Field := none

namespace Fields

def finish (fs : Fields) : Fields := ⟨fs.current.toList ++ fs.done, none⟩

def add (fs : Fields) (f : Field) : Fields :=
  { fs with current := some (f.reverse ++ fs.current.getD []) }

/-- Ends the field under way, even if it has no characters. -/
def close (fs : Fields) : Fields := ⟨fs.current.getD [] :: fs.done, none⟩

def addSplit (separators : List Char) (fs : Fields) (c : Char) : Fields :=
  if !separators.contains c then fs.add [(c, false)]
  else if isWhite c then fs.finish else fs.close

def addPiece (separators : List Char) (fs : Fields) : Piece → Fields
  | .exact f => fs.add f
  | .split s => s.foldl (addSplit separators) fs
  | .cut => fs.finish

/-- The fields that pieces come to. -/
def ofPieces (separators : List Char) (ps : List Piece) : List Field :=
  (((ps.foldl (addPiece separators) {}).finish.done).map List.reverse).reverse

end Fields

/-- The pieces as one field that is not cut. -/
def joinPieces (ps : List Piece) : Field :=
  ps.flatMap fun
    | .exact f => f
    | .split s => marked false s
    | .cut => [(' ', false)]

/-- Pieces in which unquoted characters do not stay together. -/
def loosen (ps : List Piece) : List Piece :=
  ps.map fun
    | .exact f => if f.any (·.2) || f.isEmpty then .exact f else .split f.text
    | p => p

/-- The positional parameters as pieces, each a field of its own. -/
def paramPieces (sh : Shell) (quoted : Bool) : List Piece :=
  ((sh.params.map fun s => [if quoted then .exact (marked true s) else .split s]).intersperse
    [Piece.cut]).flatten

/-- A pattern in the notation for file names, with quoted characters in brackets. -/
def fileGlob (f : Field) : List Char :=
  (f.foldl (fun (acc : List Char) (c, quoted) =>
    if quoted && Glob.isPattern [c] then acc ++ ['[', c, ']']
    else if c = '*' && acc.getLast? = some '*' then acc
    else acc ++ [c]) [])

/-- The texts that a field stands for: the files that it matches as a pattern, if there are any.
Hidden files are matched only by a pattern that begins like them. -/
def expandFiles (p : Place) (f : Field) : List (List Char) :=
  if f.isPattern then
    let isHidden (path : List Char) : Bool := ((splitWhere (· == '/') path).getLast?).any
      fun name => name.head? == some '.'
    let found := (Glob.search p (fileGlob f)).filter fun path => isHidden f.text || !isHidden path
    if found.isEmpty then [f.text] else found
  else [f.text]

/-! ## Redirections -/

/-- The names of a file to be written: of the one that is there, or of a new one in a directory
that is. -/
def targetNames (p : Place) (path : List Char) : Except String (List FileName) :=
  match p.resolve path with
  | .ok (names, .file ..) => .ok names
  | .ok (_, .dir) => .error "Is a directory"
  | .ok _ => .error "Permission denied"
  | .error _ =>
      match Path.parent? path, Path.fileName? path with
      | some above, some name =>
          match p.resolve (if above.isEmpty then ['.'] else above) with
          | .ok (names, .dir) => .ok (names ++ [name])
          | _ => .error "Directory nonexistent"
      | _, _ => .error "Directory nonexistent"

def bind (sh : Shell) (descriptor : Nat) (c : Channel) : Shell :=
  { sh with descriptors := (descriptor, c) :: sh.descriptors.filter (·.1 != descriptor) }

/-- Binds a descriptor to a pipe that holds some bytes. -/
def bindBytes (sh : Shell) (descriptor : Nat) (bytes : Bytes) : Shell :=
  let (c, m) := sh.machine.addPipe bytes
  { sh with machine := m }.bind descriptor c

/-- Binds a descriptor to a file, which is made if it is not there. -/
def bindFile (sh : Shell) (descriptor : Nat) (keep : Bool) (names : List FileName) : Shell :=
  if names = nullDevice then sh.bind descriptor .null
  else
    let old := match sh.machine.tree.entry? names with
      | some (.file bytes x) => Entry.file (if keep then bytes else []) x
      | _ => .file [] false
    let machine := { sh.machine with tree := sh.machine.tree.put names old }
    { sh with machine := machine }.bind descriptor (.file names)

/-- Binds a descriptor to what a redirection names. -/
def openTarget (sh : Shell) (r : Redirect) (target : List Char) : Except (List Char) Shell :=
  match r.kind with
  | .document => .ok (sh.bindBytes r.descriptor (utf8 target))
  | .duplicate =>
      match numeral? 10 target with
      | some n =>
          match sh.descriptors.lookup n with
          | some c => .ok (sh.bind r.descriptor c)
          | none => .error (target ++ ": Bad file descriptor".toList)
      | none => .ok (sh.bind r.descriptor .null)
  | .read =>
      match sh.place.bytes? target with
      | some bytes => .ok (sh.bindBytes r.descriptor bytes)
      | none => .error ("cannot open ".toList ++ target ++ ": No such file".toList)
  | .write | .append =>
      match targetNames sh.place target with
      | .error reason => .error ("cannot create ".toList ++ target ++ ": ".toList ++ reason.toList)
      | .ok names => .ok (sh.bindFile r.descriptor (r.kind = .append) names)

end Shell
end LintDesk
