import LintDesk.Text.Numeral
import LintDesk.Text.Search

/-! # Arguments of the program

Reading the arguments of the command line. An option that waits for its value keeps waiting until
the value or the next option comes, and only then is it judged; an argument that cannot be placed
at all is reported before an option that still waits.
-/

namespace LintDesk

open LintDesk.Text

/-- The options that every command with a configuration takes. -/
structure CommonOptions where
  repoRoot : Option String := none
  interpreter : Option String := none
  vendor : Option String := none
  output : Option String := none
  timeout : Option Nat := none
  only : Option (List String) := none
deriving DecidableEq, Repr

/-- What the program is asked to do. -/
inductive Invocation where
  | version
  | check (common : CommonOptions) (patterns : List String)
  | commands (common : CommonOptions) (file : String)
  | probe (common : CommonOptions)
  | session (common : CommonOptions)

/-- Why arguments are no invocation; help and version texts count as reasons too. -/
inductive Usage where
  | unknownArgument
  | invalidSubcommand
  | missingRequiredArgument
  | valueValidation
  | invalidValue
  | argumentConflict
  | tooManyValues
  | displayHelp
  | displayVersion
  | displayHelpOnMissingArgumentOrSubcommand
deriving DecidableEq, Repr

namespace Usage

def name : Usage → String
  | unknownArgument => "UnknownArgument"
  | invalidSubcommand => "InvalidSubcommand"
  | missingRequiredArgument => "MissingRequiredArgument"
  | valueValidation => "ValueValidation"
  | invalidValue => "InvalidValue"
  | argumentConflict => "ArgumentConflict"
  | tooManyValues => "TooManyValues"
  | displayHelp => "DisplayHelp"
  | displayVersion => "DisplayVersion"
  | displayHelpOnMissingArgumentOrSubcommand => "DisplayHelpOnMissingArgumentOrSubcommand"

/-- Whether the text was asked for. -/
def isRequested : Usage → Bool
  | displayHelp | displayVersion => true
  | _ => false

def exitCode (u : Usage) : Nat := if u.isRequested then 0 else 2

end Usage

/-- The subcommands, each with the number of file arguments that it takes. -/
inductive Subcommand where
  | version
  | check
  | commands
  | probe
  | session
deriving DecidableEq, Repr

namespace Subcommand

def ofName? : String → Option Subcommand
  | "version" => some version
  | "check" => some check
  | "commands" => some commands
  | "probe" => some probe
  | "session" => some session
  | _ => none

/-- Whether one more file argument can be taken after `n` of them. -/
def takesMore (c : Subcommand) (n : Nat) : Bool :=
  match c with
  | check => true
  | commands => n == 0
  | _ => false

def takesOptions (c : Subcommand) : Bool := c != version

end Subcommand

namespace Options

/-- An option with a value. -/
inductive Key where
  | repoRoot
  | interpreter
  | vendor
  | output
  | timeout
  | only
deriving DecidableEq, Repr

def Key.ofName? : String → Option Key
  | "repo-root" => some repoRoot
  | "interpreter" => some interpreter
  | "vendor" => some vendor
  | "output" => some output
  | "timeout" => some timeout
  | "only" => some only
  | _ => none

/-- The pieces of a text between commas. -/
def commaPieces (s : String) : List String :=
  (splitWhere (· == ',') s.toList).map String.ofList

/-- Sets an option that must not have been set before. -/
def setOnce {α : Type} (old : Option α) (value : α) : Except Usage (Option α) :=
  if old.isSome then .error .argumentConflict else .ok (some value)

/-- Sets an option; only the list of ids may be given more than once. -/
def set (o : CommonOptions) (key : Key) (value : String) : Except Usage CommonOptions := do
  match key with
  | .repoRoot => return { o with repoRoot := ← setOnce o.repoRoot value }
  | .interpreter => return { o with interpreter := ← setOnce o.interpreter value }
  | .vendor => return { o with vendor := ← setOnce o.vendor value }
  | .output => return { o with output := ← setOnce o.output value }
  | .timeout =>
      let _ ← setOnce o.timeout 0
      match natBelow? bound64 value.toList with
      | some n => return { o with timeout := some n }
      | none => .error .valueValidation
  | .only => return { o with only := some (o.only.getD [] ++ commaPieces value) }

/-- What has been read of a subcommand's arguments. -/
structure Progress where
  common : CommonOptions := {}
  files : List String := []
  /-- The option that was written last, with its value if that has come. -/
  waiting : Option (Key × Option String) := none

namespace Progress

/-- Judges the option that is waiting. -/
def settle (p : Progress) : Except Usage Progress :=
  match p.waiting with
  | none => .ok p
  | some (_, none) => .error .invalidValue
  | some (key, some value) => do
      return { p with common := ← set p.common key value, waiting := none }

end Progress

/-- How an argument looks. -/
inductive Shape where
  /-- Two hyphens: all that follows are files. -/
  | divider
  | long (name : String) (value : Option String)
  | short (letters : List Char)
  | plain

def shape (arg : String) : Shape :=
  match arg.toList with
  | ['-', '-'] => .divider
  | '-' :: '-' :: s =>
      match s.dropWhile (· != '=') with
      | _ :: value => .long (String.ofList (s.takeWhile (· != '='))) (some (String.ofList value))
      | [] => .long (String.ofList s) none
  | '-' :: c :: s => .short (c :: s)
  | _ => .plain

/-- Takes an argument that is a file whatever it looks like. -/
def takeFile (c : Subcommand) (p : Progress) (arg : String) : Except Usage Progress :=
  if c.takesMore p.files.length then do
    let p ← p.settle
    return { p with files := p.files ++ [arg] }
  else .error .unknownArgument

/-- Takes an argument before the divider. -/
def takeArgument (c : Subcommand) (p : Progress) (arg : String) : Except Usage Progress :=
  match shape arg with
  | .divider => .ok p
  | .long name value =>
      if name = "help" then
        if value.isSome then .error .tooManyValues
        else do
          let _ ← p.settle
          .error .displayHelp
      else
        match if c.takesOptions then Key.ofName? name else none with
        | none => .error .unknownArgument
        | some key => do
            let p ← p.settle
            match value with
            | some _ => Progress.settle { p with waiting := some (key, value) }
            | none => return { p with waiting := some (key, none) }
  | .short letters =>
      if letters.head? = some 'h' then do
        let _ ← p.settle
        .error .displayHelp
      else .error .unknownArgument
  | .plain =>
      match p.waiting with
      | some (key, none) => .ok { p with waiting := some (key, some arg) }
      | _ => takeFile c p arg

/-- Reads the arguments of a subcommand. -/
def readArguments (c : Subcommand) (p : Progress) : List String → Except Usage Progress
  | [] => p.settle
  | arg :: args => do
      match shape arg with
      | .divider => (← args.foldlM (takeFile c) p).settle
      | _ => readArguments c (← takeArgument c p arg) args

def invocation (c : Subcommand) (p : Progress) : Except Usage Invocation :=
  match c, p.files with
  | .version, _ => .ok .version
  | .probe, _ => .ok (.probe p.common)
  | .session, _ => .ok (.session p.common)
  | .check, [] | .commands, [] => .error .missingRequiredArgument
  | .check, files => .ok (.check p.common files)
  | .commands, file :: _ => .ok (.commands p.common file)

/-- What the help command answers to its arguments: help on a command, if there is that one. -/
def helpOn : List String → Usage
  | [] => .displayHelp
  | [name] =>
      if (Subcommand.ofName? name).isSome || name == "help" then .displayHelp
      else .invalidSubcommand
  | _ => .invalidSubcommand

/-- Whether a text is the name of a command, the help command included. -/
def isCommand (arg : String) : Bool := (Subcommand.ofName? arg).isSome || arg == "help"

/-- The answer to an argument in front of which no command stands. -/
def withoutCommand : Shape → Usage
  | .long "help" none => .displayHelp
  | .long "version" none => .displayVersion
  | .long "help" (some _) | .long "version" (some _) => .tooManyValues
  | .short ('h' :: _) => .displayHelp
  | .short ('V' :: _) => .displayVersion
  | .long _ _ | .short _ => .unknownArgument
  | .divider | .plain => .invalidSubcommand

/-- Reads the arguments of the program. -/
def read : List String → Except Usage Invocation
  | [] => .error .displayHelpOnMissingArgumentOrSubcommand
  | arg :: args =>
      match Subcommand.ofName? arg, shape arg with
      | some c, _ => do invocation c (← readArguments c {} args)
      | none, .divider =>
          match args with
          | [] => .error .displayHelpOnMissingArgumentOrSubcommand
          | next :: _ =>
              .error (if isCommand next then .unknownArgument else .invalidSubcommand)
      | none, shape => .error (if arg == "help" then helpOn args else withoutCommand shape)

end Options
end LintDesk
