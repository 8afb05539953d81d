import LintDesk.Shell.State

/-! # Commands built into the shell

Those that only change the shell itself or write something.
-/

namespace LintDesk.Shell

open LintDesk.Text

abbrev Builtin := Shell → List (List Char) → Flow × Shell

/-- The shell after a small program that it has run itself, under the given name. -/
def effect (sh : Shell) (name : String) (e : Effect) : Flow × Shell :=
  let sh := (sh.write 1 e.out).write 2 e.err
  let sh := e.complaints.foldl (fun sh c => sh.complain (name.toList ++ ": ".toList ++ c)) sh
  (.next, { sh with machine := sh.machine.pass e.wait, status := e.status })

/-- A complaint about the use of a command; if it ends the shell, the flow says so. -/
def misuse (sh : Shell) (flow : Flow) (message : String) : Flow × Shell :=
  (flow, (sh.complain message.toList).fail 2)

/-- A flow with a count or an exit code as its argument, which has to be a number. -/
def withNumber (name : String) (dflt : Nat) (f : Nat → Flow × Shell) (sh : Shell)
    (args : List (List Char)) : Flow × Shell :=
  match args with
  | [] => f dflt
  | arg :: _ =>
      match (numeral? 10 arg).filter (· < Nat.pow 2 31) with
      | some n => f n
      | none => sh.misuse .exit (name ++ ": Illegal number: " ++ String.ofList arg)

/-! ## Signals -/

/-- The names of signals; the end of the shell counts as one. -/
def signals : List (String × Nat) :=
  [("EXIT", 0), ("HUP", 1), ("INT", 2), ("QUIT", 3), ("ILL", 4), ("TRAP", 5), ("ABRT", 6),
    ("BUS", 7), ("FPE", 8), ("KILL", 9), ("USR1", 10), ("SEGV", 11), ("USR2", 12), ("PIPE", 13),
    ("ALRM", 14), ("TERM", 15)]

/-- The number of a signal, by name or number. -/
def signal? (s : List Char) : Option Nat :=
  (numeral? 10 s).or (signals.lookup (String.ofList s))

/-- Sends a signal to the shell itself, which may have a trap for it. -/
def signalSelf (sh : Shell) (signal : Nat) : Flow × Shell :=
  match if signal = 9 then none else sh.traps.lookup signal with
  | none => if signal = 0 then (.next, sh.fail 0) else (.killed signal, sh)
  | some action =>
      (.next, { sh with pending := if action.isEmpty then sh.pending else sh.pending ++ [action] })

/-- Sends a signal. Only the shell itself can be reached. -/
def kill : Builtin := fun sh args =>
  let (signal, targets) := match args with
    | ['-', 's'] :: name :: rest => (signal? name, rest)
    | ['-', '-'] :: rest => (some 15, rest)
    | ('-' :: name) :: rest => (signal? name, rest)
    | rest => (some 15, rest)
  match signal, targets with
  | some signal, [target] =>
      if target = decimal sh.process then (sh.fail 0).signalSelf signal
      else (.next, (sh.complain "kill: No such process\n".toList).fail 1)
  | _, _ => (.next, sh.fail 2)

/-- Sets what is to be done for signals. -/
def trap : Builtin := fun sh args =>
  let args := if args.head? = some ['-', '-'] then args.drop 1 else args
  let without (ns : List Nat) : List (Nat × List Char) := sh.traps.filter fun (n, _) => !ns.contains n
  match args with
  | [] => (.next, sh.fail 0)
  | [s] => (.next, { sh with traps := without (signal? s).toList, status := 0 })
  | action :: names =>
      let ns := names.filterMap signal?
      let status := if ns.length = names.length then 0 else 1
      if action = ['-'] then (.next, { sh with traps := without ns, status := status })
      else (.next, { sh with traps := ns.map (·, action) ++ without ns, status := status })

/-! ## Variables -/

/-- Changes the working directory. -/
def changeDir : Builtin := fun sh args =>
  let target := args.headD (sh.value "HOME".toList)
  match sh.place.resolve target with
  | .ok (names, .dir) =>
      let sh := sh.setVar "OLDPWD".toList (Path.ofNames sh.cwd)
      (.next, ({ sh with cwd := names }.setVar "PWD".toList (Path.ofNames names)).fail 0)
  | _ => (.next, (sh.complain ("cd: can't cd to ".toList ++ target)).fail 2)

/-- Drops the backslashes from a line, but not the characters after them. -/
def dropBackslashes : List Char → List Char
  | '\\' :: c :: s => c :: dropBackslashes s
  | ['\\'] => []
  | c :: s => c :: dropBackslashes s
  | [] => []

/-- Shares out the fields of a line among names; the last gets all that is left. -/
def shareOut (sh : Shell) (line : List Char) : List (List Char) → Shell
  | [] => sh
  | name :: names =>
      let separators := sh.separators
      let white (c : Char) : Bool := separators.contains c && isWhite c
      let line := line.dropWhile white
      if names.isEmpty then sh.setVar name (line.reverse.dropWhile white).reverse
      else
        let rest := (line.dropWhile (!separators.contains ·)).dropWhile white
        let rest := match rest with
          | c :: s => if separators.contains c then s else rest
          | [] => []
        shareOut (sh.setVar name (line.takeWhile (!separators.contains ·))) rest names

/-- Reads a line of input into variables. -/
def readLine : Builtin := fun sh args =>
  let input := sh.channel 0
  let bytes := sh.machine.contents input
  let line := bytes.takeWhile (· != 10)
  let complete := line.length < bytes.length
  let sh := { sh with machine := sh.machine.consume input (line.length + 1) }
  let raw := args.contains ['-', 'r']
  let text := if raw then Utf8.lossy line else dropBackslashes (Utf8.lossy line)
  let names := args.filter (· != ['-', 'r'])
  if names.isEmpty then sh.misuse .exit "read: arg count"
  else (.next, (sh.shareOut text names).fail (if complete then 0 else 1))

/-- Carries out assignments that stand as arguments, each with something done to its name. -/
def assigning (f : Shell → List Char → Shell) : Builtin := fun sh args =>
  (.next, (args.foldl (fun sh arg =>
    match assignment? arg with
    | some (name, value) => (f sh name).setVar name value
    | none => f sh arg) sh).fail 0)

def unset : Builtin := fun sh args =>
  (.next, { sh with
    vars := sh.vars.filter fun (name, _) => !args.contains name
    functions := sh.functions.filter fun (name, _) => !args.contains name
    status := 0 })

/-- Sets options, which begin with a hyphen, takes back those that begin with a plus, and sets the
positional parameters if there are more arguments. -/
def setOptions : Builtin := fun sh args =>
  match args with
  | [] => (.next, sh.fail 0)
  | ['-', '-'] :: rest => (.next, { sh with params := rest, status := 0 })
  | ('-' :: c :: s) :: rest => setOptions { sh with options := (c :: s) ++ sh.options } rest
  | ('+' :: c :: s) :: rest =>
      setOptions { sh with options := sh.options.filter (!(c :: s).contains ·) } rest
  | args => (.next, { sh with params := args, status := 0 })

/-- Drops positional parameters from the front. -/
def shift : Builtin := fun sh args =>
  withNumber "shift" 1 (fun n =>
    if n ≤ sh.params.length then (.next, { sh with params := sh.params.drop n, status := 0 })
    else sh.misuse .exit "shift: can't shift that many") sh args

/-! ## The other commands -/

/-- A condition between brackets. -/
def bracket : Builtin := fun sh args =>
  if args.getLast? = some [']'] then sh.effect "[" (Condition.run sh.place args.dropLast)
  else sh.misuse .next "[: missing ]"

/-- Writes the arguments with their escapes; only a first argument that asks for no line end is an
option. -/
def echo : Builtin := fun sh args =>
  sh.effect "echo" <| match args with
    | ['-', 'n'] :: words => Utility.echoEscapes false false words
    | words => Utility.echoEscapes false true words

/-- Leaves loops, no more than there are. -/
def leaveLoops (name : String) (flow : Nat → Flow) : Builtin := fun sh args =>
  withNumber name 1 (fun n =>
    if n = 0 then sh.misuse .exit (name ++ ": Illegal number: 0")
    else if sh.loops = 0 then (.next, sh.fail 0)
    else (flow (min n sh.loops), sh.fail 0)) sh args

/-- The commands to which an assignment in front of them sticks. -/
def isSpecial (name : String) : Bool :=
  [":", "exit", "return", "break", "continue", "shift", "set", "unset", "export", "readonly",
    "eval", "exec", "trap", "."].contains name

def builtin? (name : String) : Option Builtin :=
  match name with
  | ":" | "true" | "wait" => some fun sh _ => (.next, sh.fail 0)
  | "false" => some fun sh _ => (.next, sh.fail 1)
  | "echo" => some echo
  | "printf" => some fun sh args => sh.effect "printf" (Printf.run args)
  | "test" => some fun sh args => sh.effect "test" (Condition.run sh.place args)
  | "[" => some bracket
  | "pwd" => some fun sh _ => sh.effect "pwd" { out := utf8 (Path.ofNames sh.cwd) ++ [10] }
  | "exit" => some fun sh args => withNumber "exit" sh.status (fun n => (.exit, sh.fail n)) sh args
  | "return" => some fun sh args =>
      withNumber "return" sh.status (fun n => (.back, sh.fail n)) sh args
  | "break" => some (leaveLoops "break" .leave)
  | "continue" => some (leaveLoops "continue" fun n => .again (n - 1))
  | "shift" => some shift
  | "set" => some setOptions
  | "unset" => some unset
  | "export" => some (assigning exportVar)
  | "readonly" => some (assigning fun sh _ => sh)
  | "local" => some (assigning localVar)
  | "cd" => some changeDir
  | "read" => some readLine
  | "kill" => some kill
  | "trap" => some trap
  | _ => none

/-- The commands that are carried out by the shell itself because they run others. -/
def isCarriedOut (name : String) : Bool := ["eval", "exec", "command", "."].contains name

end LintDesk.Shell
