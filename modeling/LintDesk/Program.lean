import LintDesk.Check
import LintDesk.Config.Resolve
import LintDesk.Machine.Runner
import LintDesk.Output.Text

/-! # The program

What the program writes and how it exits, given its arguments, its input and the machine that it
runs on. Notes and errors go to standard error, everything else to standard output.
-/

namespace LintDesk

open LintDesk.Text LintDesk.Output

/-- What can be seen of a run of the program. -/
structure Behaviour where
  code : Nat := 0
  out : String := ""
  err : String := ""
deriving DecidableEq, Repr

/-- What is seen of one thing and then another; the exit code is that of the second. -/
def Behaviour.andThen (b c : Behaviour) : Behaviour := ⟨c.code, b.out ++ c.out, b.err ++ c.err⟩

/-- What the program is started with. -/
structure Program where
  machine : Machine
  environment : Environment
  input : Bytes := []

namespace Program

def version : String := "0.1.0"

/-- The text that the reader asks for no colour with, if there is one. -/
def noColour (p : Program) : Option String := p.environment.var? "NO_COLOR"

def place (p : Program) : Place := p.machine.place p.environment

def noteLine (p : Program) (message : String) : String :=
  line (noteMark p.noColour ++ " " ++ message)

def errorLine (p : Program) (message : String) : String :=
  line (errorMark p.noColour ++ " " ++ message)

/-- A run that comes to nothing. -/
def fail (p : Program) (message : String) : Behaviour := { code := 2, err := p.errorLine message }

/-- A run that goes on as `b` after some notes. -/
def noting (p : Program) (messages : List String) (b : Behaviour) : Behaviour :=
  { b with err := joinWith "" (messages.map p.noteLine) ++ b.err }

/-! ## Configuration and session -/

/-- Goes on with the configuration. That there is no file for it is worth a note, but not to a
machine that reads the output. -/
def withConfig (p : Program) (o : CommonOptions) (go : Config → Behaviour) : Behaviour :=
  match Config.resolve p.place o with
  | .error e => p.fail e.message
  | .ok c =>
      let notes :=
        if c.file.isNone && c.output != "json" then ["No phplint.toml found; using defaults."]
        else []
      p.noting notes (go c)

/-- The runner for a configuration, which sets the time limit of each run. -/
def runner (p : Program) (c : Config) : TimedRunner Machine :=
  Machine.runner p.environment (c.timeout.map (1000 * ·))

def startFault (e : Error) : String :=
  match e with
  | .toolUnavailable .. => e.message ++ " (analyzers disabled)"
  | e => e.message

/-- Goes on with a session that has been started. -/
def withSession (p : Program) (c : Config) (go : Session Machine → Behaviour) : Behaviour :=
  match (Session.start ⟨c.probe, none⟩ c.settings (p.runner c) .empty p.machine).1 with
  | .error e => p.fail (startFault e)
  | .ok session => go session

/-! ## The commands -/

/-- Analyzes files once. An error in one of them makes the exit code one. -/
def check (p : Program) (o : CommonOptions) (patterns : List String) : Behaviour :=
  p.withConfig o fun c =>
    let base := String.ofList (Path.ofNames p.environment.cwd)
    let (files, unmatched) := Glob.expand p.place base patterns
    p.noting (unmatched.map fun pattern => "No files match '" ++ pattern ++ "'") <|
      if files.isEmpty then p.fail "Nothing to check."
      else p.withSession c fun session =>
        let result := (session.check c.root files).1
        { code := if result.summary.errors = 0 then 0 else 1
          out := printCheck result c.output p.noColour }

/-- Shows the command lines for a file, which need not exist. -/
def commands (p : Program) (o : CommonOptions) (file : String) : Behaviour :=
  p.withConfig o fun c =>
    { out := printCommands (c.commands file) c.output p.noColour }

/-- Tells whether the interpreter is there. -/
def probe (p : Program) (o : CommonOptions) : Behaviour :=
  p.withConfig o fun c =>
    match (Gate.check ⟨c.probe, none⟩ (p.runner c).untimed p.machine).1 with
    | .error e => p.fail e.message
    | .ok () => { out := line (infoMark p.noColour ++ " " ++ c.interpreter ++ " is available") }

/-! ## Sessions on standard input -/

/-- The answer to a query: a document for each analyzer that is meant. -/
def answer (p : Program) (s : Session Machine) (id : Option String) : Behaviour :=
  match id with
  | none =>
      { out := joinWith "" (s.providers.map fun q => printInspection q.id (s.diagnostics q.id)) }
  | some id =>
      match s.provider? id with
      | some q => { out := printInspection q.id (s.diagnostics q.id) }
      | none =>
          let known := joinWith ", " (s.providers.map (·.id))
          { err := p.noteLine ("No provider registered for '" ++ id ++ "' (known: " ++ known ++ ")") }

/-- Takes one line of the input; none if the session ends with it. -/
def takeLine (p : Program) (s : Session Machine) (line : String) :
    Option (Behaviour × Session Machine) :=
  let text := trim line
  if text.isEmpty then some ({}, s)
  else
    match SessionCommand.parse? line with
    | some .quit => none
    | some (.trigger t) => some ({}, s.handle t)
    | some (.query id) => some (p.answer s id, s)
    | none => some ({ err := p.noteLine ("Ignoring unrecognized line: " ++ text) }, s)

/-- The lines of an input, each with its line end. -/
def inputLines : Bytes → List Bytes
  | [] => []
  | b :: s =>
      if b = 10 then [b] :: inputLines s
      else match inputLines s with
        | [] => [[b]]
        | l :: ls => (b :: l) :: ls

/-- Takes the lines one after another; one that is no text ends the session. -/
def converse (p : Program) (s : Session Machine) : List Bytes → Behaviour
  | [] => {}
  | l :: ls =>
      match Utf8.strict l with
      | .error fault => { err := p.errorLine fault.message }
      | .ok cs =>
          match p.takeLine s (String.ofList ((lines cs).headD [])) with
          | none => {}
          | some (b, s) => b.andThen (p.converse s ls)

/-- Serves an editor that writes its triggers and queries to the input. -/
def session (p : Program) (o : CommonOptions) : Behaviour :=
  p.withConfig o fun c => p.withSession c fun s => p.converse s (inputLines p.input)

/-! ## The whole program -/

def perform (p : Program) : Invocation → Behaviour
  | .version => { out := line version }
  | .check o patterns => p.check o patterns
  | .commands o file => p.commands o file
  | .probe o => p.probe o
  | .session o => p.session o

/-- Runs the program with some arguments, unless they ask for nothing that it does. -/
def run (p : Program) (args : List String) : Except Usage Behaviour :=
  (Options.read args).map p.perform

end Program
end LintDesk
