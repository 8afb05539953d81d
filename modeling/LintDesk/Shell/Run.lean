import LintDesk.Shell.Builtin

/-! # Running shell scripts

Words are expanded and commands run one after another; of the commands in a pipeline each one runs
to its end before the next begins. A number bounds how deep the run goes; a script that needs more
counts as one that never ends.
-/

namespace LintDesk.Shell

open LintDesk.Text

/-- How a signal that ends a program is announced. -/
def signalText (signal : Nat) : String :=
  match signal with
  | 1 => "Hangup"
  | 3 => "Quit"
  | 6 => "Aborted"
  | 9 => "Killed"
  | 10 => "User defined signal 1"
  | 11 => "Segmentation fault"
  | 12 => "User defined signal 2"
  | 14 => "Alarm clock"
  | 15 => "Terminated"
  | _ => ""

/-- The shell after a process that it started has ended. -/
def afterProcess (sh : Shell) : Ending → Flow × Shell
  | .exited code => (.next, sh.fail code)
  | .killed signal =>
      let text := signalText signal
      let sh := if text.isEmpty then sh else sh.write 2 (utf8 (text ++ "\n").toList)
      (.next, sh.fail (128 + signal))
  | .endless => (.endless, sh)

/-- The flow of a loop after its body: whether it goes on with the next round. -/
def afterRound : Flow → Bool × Flow
  | .next | .again 0 => (true, .next)
  | .again (n + 1) => (false, .again n)
  | .leave 0 | .leave 1 => (false, .next)
  | .leave (n + 2) => (false, .leave (n + 1))
  | f => (false, f)

/-- The shell after a loop that it runs has taken it as another shell `inside`. -/
def leaveLoop (sh inside : Shell) : Shell := { inside with loops := sh.loops }

/-- The variables that a program started by the shell gets to see. -/
def environment (sh : Shell) : List (List Char × List Char) :=
  sh.vars.filter fun (name, _) => sh.exported.contains name

/-- A new shell for a process that the shell starts. -/
def child (sh : Shell) (name : List Char) (params : List (List Char)) : Shell :=
  let m := { sh.machine with processes := sh.machine.processes + 1 }
  { machine := m
    name := name
    params := params
    vars := sh.environment.filter fun (name, _) => name != "IFS".toList
    exported := sh.environment.map (·.1)
    nesting := sh.nesting + 1
    process := m.processes
    descriptors := sh.descriptors
    cwd := sh.cwd }

/-- The shell with the machine as another one has left it. -/
def take (sh other : Shell) : Shell := { sh with machine := other.machine }

/-- The most functions that can be under way. -/
def callLimit : Nat := 1000

/-- The most processes that can be under way; the next one never comes to an end. -/
def nestingLimit : Nat := 500

def commandFault (f : SpawnFault) : String × Nat :=
  match f with
  | .missing => ("not found", 127)
  | f => (f.text, 126)

/-- Writes a command that is about to run, if an option asks for it. -/
def trace (sh : Shell) (words : List (List Char)) : Shell :=
  if sh.has 'x' then sh.write 2 (utf8 (join [' '] (['+'] :: words) ++ ['\n'])) else sh

/-- The path at which a program is found. -/
def whereIs? (sh : Shell) (name : List Char) : Option (List Char) :=
  let paths := if name.contains '/' then [name]
    else (splitWhere (· == ':') (sh.value "PATH".toList)).map (Path.join · name)
  paths.find? fun path => sh.place.isFile path && Condition.isExecutable sh.place path

/-- What a name stands for, in the words of a script: itself, or the path of a program. -/
def meaning? (sh : Shell) (name : List Char) : Option (List Char) :=
  let command := String.ofList name
  if (sh.functions.lookup name).isSome || (builtin? command).isSome || isCarriedOut command then
    some name
  else sh.whereIs? name

/-- The text of a script that is to be run by the shell itself: a path, or a name that is looked up
like that of a program. -/
def scriptFile (sh : Shell) (name : List Char) : Except (List Char) (List Char) :=
  if name.contains '/' then
    match sh.place.bytes? name with
    | some bytes => .ok (Utf8.lossy bytes)
    | none => .error (".: cannot open ".toList ++ name ++ ": No such file".toList)
  else
    let paths := (splitWhere (· == ':') (sh.value "PATH".toList)).map (Path.join · name)
    match paths.findSome? sh.place.bytes? with
    | some bytes => .ok (Utf8.lossy bytes)
    | none => .error (".: ".toList ++ name ++ ": not found".toList)

/-- Splits options off the arguments of a shell: their letters, and what follows them. -/
def shellOptions : List (List Char) → List Char × List (List Char)
  | ('-' :: c :: s) :: args =>
      if (c :: s) = ['-'] then ([], args)
      else
        let (letters, args) := shellOptions args
        (c :: s ++ letters, args)
  | args => ([], args)

mutual

def expandPart : Nat → WordPart → Shell → List Piece × Shell
  | 0, _, sh => ([], sh)
  | n + 1, part, sh =>
      let value (quoted : Bool) (s : List Char) : List Piece :=
        [if quoted then .exact (marked true s) else .split s]
      match part with
      | .text quoted s => ([.exact (marked quoted s)], sh)
      | .param quoted ['@'] => (sh.paramPieces quoted, sh)
      | .param false ['*'] => (sh.paramPieces false, sh)
      | .param quoted name =>
          if sh.has 'u' && (sh.value? name).isNone && name != ['*'] then
            ([], sh.breakOff (name ++ ": parameter not set".toList))
          else (value quoted (sh.value name), sh)
      | .length name => (value true (decimal (sh.value name).length), sh)
      | .paramOp quoted name op emptyToo word =>
          let current := (sh.value? name).filter fun s => !(emptyToo && s.isEmpty)
          match op, current with
          | .default, some s | .assign, some s | .require, some s => (value quoted s, sh)
          | .alternative, none => (value quoted [], sh)
          | .default, none | .alternative, some _ =>
              let (ps, sh) := expandWord n word sh
              (if quoted then .exact [] :: ps else loosen ps, sh)
          | .assign, none =>
              let (ps, sh) := expandWord n word sh
              let s := (joinPieces ps).text
              (value quoted s, sh.setVar name s)
          | .require, none =>
              let (ps, sh) := expandWord n word sh
              let message := if !word.isEmpty then (joinPieces ps).text
                else ("parameter not set" ++ if emptyToo then " or null" else "").toList
              ([], sh.breakOff (name ++ ": ".toList ++ message))
          | .dropPrefix longest, s =>
              let (ps, sh) := expandWord n word sh
              (value quoted ((joinPieces ps).dropPrefix longest (s.getD [])), sh)
          | .dropSuffix longest, s =>
              let (ps, sh) := expandWord n word sh
              (value quoted ((joinPieces ps).dropSuffix longest (s.getD [])), sh)
      | .arithmetic quoted expr =>
          let (ps, sh) := expandWord n expr sh
          let (v, sh) := sh.calculate (joinPieces ps).text
          (value quoted ((v.map decimalInt).getD []), sh)
      | .output quoted script =>
          let (pipe, m) := sh.machine.addPipe []
          let inner := { sh with machine := m, traps := [] }.bind 1 pipe
          let (ending, inner) := runScript n script inner
          let status := match ending with
            | .exited code => code
            | .killed signal => 128 + signal
            | .endless => 0
          let (bytes, m) := inner.machine.drain pipe
          let text := (Utf8.lossy bytes).filter (· != '\x00')
          let text := (text.reverse.dropWhile (· == '\n')).reverse
          (value quoted text, { sh with machine := m, substituted := status })

def expandWord : Nat → Word → Shell → List Piece × Shell
  | 0, _, sh => ([], sh)
  | _, [], sh => ([], sh)
  | n + 1, part :: parts, sh =>
      let (ps, sh) := expandPart n part sh
      let (qs, sh) := expandWord n parts sh
      (ps ++ qs, sh)

/-- The texts that words stand for. -/
def expandWords : Nat → List Word → Shell → List (List Char) × Shell
  | 0, _, sh => ([], sh)
  | _, [], sh => ([], sh)
  | n + 1, w :: ws, sh =>
      let (ps, sh) := expandWord n w sh
      let fields := Fields.ofPieces sh.separators ps
      let (rest, sh) := expandWords n ws sh
      (fields.flatMap (expandFiles sh.place) ++ rest, sh)

/-- Carries out assignments, in order. -/
def assign : Nat → List (List Char × Word) → Shell → Shell
  | 0, _, sh => sh
  | _, [], sh => sh
  | n + 1, (name, w) :: rest, sh =>
      let (ps, sh) := expandWord n w sh
      let value := (joinPieces ps).text
      assign n rest ((sh.trace [name ++ '=' :: value]).setVar name value)

/-- Carries out redirections, in order; the message of the first that fails. -/
def redirect : Nat → List Redirect → Shell → Except (List Char) Unit × Shell
  | 0, _, sh => (.ok (), sh)
  | _, [], sh => (.ok (), sh)
  | n + 1, r :: rest, sh =>
      let (ps, sh) := expandWord n r.target sh
      match sh.openTarget r (joinPieces ps).text with
      | .ok sh => redirect n rest sh
      | .error message => (.error message, sh)

/-- Runs a command, whatever comes of it. -/
def exec : Nat → Command → Shell → Flow × Shell
  | 0, _, sh => (.endless, sh)
  | n + 1, c, sh =>
      match c with
      | .simple line assignments words redirects =>
          let (args, sh) := expandWords n words { sh with line := line, substituted := 0 }
          match args with
          | [] =>
              let sh := assign n assignments sh
              let sh := sh.fail sh.substituted
              match redirect n redirects sh with
              | (.ok (), after) => settle n .next (sh.take after)
              | (.error message, after) => settle n .next (((sh.take after).complain message).fail 2)
          | name :: args =>
              if sh.broken then settle n .next sh
              else
                let (flow, sh) := invoke n name args assignments redirects (sh.trace (name :: args))
                settle n flow sh
      | .redirected c redirects =>
          match redirect n redirects sh with
          | (.error message, after) => settle n .next (((sh.take after).complain message).fail 2)
          | (.ok (), after) =>
              let (flow, after) := exec n c after
              (flow, { after with descriptors := sh.descriptors })
      | .pipeline cs =>
          let (flow, sh) := pipeline n cs sh
          settle n flow sh
      | .negated c =>
          let (flow, sh) := condition n c sh
          (flow, if flow = .next then sh.fail (if sh.status = 0 then 1 else 0) else sh)
      | .both c d =>
          let (flow, sh) := condition n c sh
          if flow = .next ∧ sh.status = 0 then exec n d sh else (flow, sh)
      | .either c d =>
          let (flow, sh) := condition n c sh
          if flow = .next ∧ sh.status ≠ 0 then exec n d sh else (flow, sh)
      | .sequence cs => execAll n cs sh
      | .subshell body =>
          let (flow, inner) := exec n body { sh with traps := [] }
          let (ending, inner) := finish n flow inner
          match ending with
          | .exited code => settle n .next ((sh.take inner).fail code)
          | _ => (flow, sh.take inner)
      | .ifThen test body otherwise =>
          let (flow, sh) := condition n test sh
          if flow ≠ .next then (flow, sh)
          else if sh.status = 0 then exec n body sh
          else exec n otherwise (sh.fail 0)
      | .loop wanted test body =>
          let (flow, after) := loop n wanted test body 0 { sh with loops := sh.loops + 1 }
          (flow, sh.leaveLoop after)
      | .forEach name words body =>
          let (items, sh) := match words with
            | some ws => expandWords n ws sh
            | none => (sh.params, sh)
          if sh.broken then settle n .next sh
          else
            let (flow, after) :=
              forEach n name body items { sh with loops := sh.loops + 1, status := 0 }
            (flow, sh.leaveLoop after)
      | .choose w clauses =>
          let (ps, sh) := expandWord n w sh
          if sh.broken then settle n .next sh
          else choose n (joinPieces ps).text clauses (sh.fail 0)
      | .define name body =>
          (.next, { sh with functions := put name body sh.functions, status := 0 })

/-- Runs a command that is allowed to fail. -/
def condition : Nat → Command → Shell → Flow × Shell
  | 0, _, sh => (.endless, sh)
  | n + 1, c, sh =>
      let before := sh.tested
      let (flow, sh) := exec n c { sh with tested := true }
      (flow, { sh with tested := before })

/-- What follows a command: the actions for signals that have come, the end of the shell after an
expansion that has gone wrong, or after a failure if an option asks for it. -/
def settle : Nat → Flow → Shell → Flow × Shell
  | 0, _, sh => (.endless, sh)
  | n + 1, flow, sh =>
      if sh.broken then (.exit, { sh with broken := false, status := 2 })
      else match sh.pending with
        | action :: rest =>
            let status := sh.status
            let (flow', sh) := runText n (action.count '\n') action { sh with pending := rest }
            if flow' = .next then settle n flow (sh.fail status) else (flow', sh)
        | [] =>
            if flow = .next ∧ sh.status ≠ 0 ∧ sh.has 'e' ∧ !sh.tested then (.exit, sh)
            else (flow, sh)

def execAll : Nat → List Command → Shell → Flow × Shell
  | 0, _, sh => (.endless, sh)
  | _, [], sh => (.next, sh)
  | n + 1, c :: cs, sh =>
      let (flow, sh) := exec n c sh
      if flow = .next then execAll n cs sh else (flow, sh)

/-- Runs the rounds of a loop; `last` is the exit code of the body so far. -/
def loop : Nat → Bool → Command → Command → Nat → Shell → Flow × Shell
  | 0, _, _, _, _, sh => (.endless, sh)
  | n + 1, wanted, test, body, last, sh =>
      let (flow, sh) := condition n test sh
      if flow ≠ .next then
        let (_, flow) := afterRound flow
        (flow, sh)
      else if (sh.status == 0) != wanted then (.next, sh.fail last)
      else
        let (flow, sh) := exec n body sh
        match afterRound flow with
        | (true, _) => loop n wanted test body sh.status sh
        | (false, flow) => (flow, sh)

def forEach : Nat → List Char → Command → List (List Char) → Shell → Flow × Shell
  | 0, _, _, _, sh => (.endless, sh)
  | _, _, _, [], sh => (.next, sh)
  | n + 1, name, body, item :: items, sh =>
      let (flow, sh) := exec n body (sh.setVar name item)
      match afterRound flow with
      | (true, _) => forEach n name body items sh
      | (false, flow) => (flow, sh)

/-- Runs the first clause with a pattern that the text matches. -/
def choose : Nat → List Char → List (List Word × Command) → Shell → Flow × Shell
  | 0, _, _, sh => (.endless, sh)
  | _, _, [], sh => (.next, sh)
  | n + 1, s, (patterns, body) :: clauses, sh =>
      let (found, sh) := matchesAny n s patterns sh
      if found then exec n body sh else choose n s clauses sh

def matchesAny : Nat → List Char → List Word → Shell → Bool × Shell
  | 0, _, _, sh => (false, sh)
  | _, _, [], sh => (false, sh)
  | n + 1, s, w :: ws, sh =>
      let (ps, sh) := expandWord n w sh
      if (joinPieces ps).accepts s then (true, sh) else matchesAny n s ws sh

/-- Runs the commands of a pipeline, each in a shell of its own. -/
def pipeline : Nat → List Command → Shell → Flow × Shell
  | 0, _, sh => (.endless, sh)
  | _, [], sh => (.next, sh)
  | n + 1, [c], sh => condition n (.subshell c) sh
  | n + 1, c :: cs, sh =>
      let (pipe, m) := sh.machine.addPipe []
      let sh := { sh with machine := m }
      let (flow, inner) := condition n (.subshell c) (sh.bind 1 pipe)
      if flow ≠ .next then (flow, sh.take inner)
      else
        let (flow, after) := pipeline n cs ((sh.take inner).bind 0 pipe)
        (flow, { after with descriptors := sh.descriptors })

/-- Runs what a name stands for: a function, a command built in, or a program. -/
def invoke : Nat → List Char → List (List Char) → List (List Char × Word) → List Redirect →
    Shell → Flow × Shell
  | 0, _, _, _, _, sh => (.endless, sh)
  | n + 1, name, args, assignments, redirects, sh =>
      let saved := assignments.map fun (x, _) => (x, sh.vars.lookup x)
      let (exported, descriptors) := (sh.exported, sh.descriptors)
      let sh := assign n assignments sh
      let sh := assignments.foldl (fun sh (x, _) => sh.exportVar x) sh
      let restore (keep : Bool) (after : Shell) : Shell :=
        let after := { after with descriptors := descriptors }
        if assignments.isEmpty || keep then after
        else { after.giveBack saved with exported := exported }
      match redirect n redirects sh with
      | (.error message, after) => (.next, restore false ((after.complain message).fail 2))
      | (.ok (), sh) =>
          let command := String.ofList name
          match sh.functions.lookup name, command with
          | some body, _ =>
              let (flow, after) := call n body args sh
              (flow, restore false after)
          | none, "eval" =>
              let script := join [' '] args
              let (flow, after) := runText n (script.count '\n') script sh
              (flow, restore true after)
          | none, "." =>
              match sh.scriptFile (args.headD []) with
              | .error message => (.exit, (sh.complain message).fail 2)
              | .ok script =>
                  let (flow, after) := runText n (script.count '\n') script (sh.fail 0)
                  (if flow = .back then .next else flow, restore true after)
          | none, "exec" =>
              match args with
              | [] => (.next, sh.fail 0)
              | name :: args =>
                  let (ending, after) := start n "exec: ".toList name args sh
                  match ending with
                  | .exited code => (.exit, { after with traps := [] }.fail code)
                  | .killed signal => (.killed signal, after)
                  | .endless => (.endless, after)
          | none, "command" =>
              match args with
              | ['-', 'v'] :: name :: _ =>
                  let (flow, after) := match sh.meaning? name with
                    | some text => sh.effect "command" { out := utf8 (text ++ ['\n']) }
                    | none => (.next, sh.fail 127)
                  (flow, restore false after)
              | name :: args =>
                  let functions := sh.functions
                  let (flow, after) := invoke n name args [] [] { sh with functions := [] }
                  (flow, restore false { after with functions := functions })
              | [] => (.next, restore false (sh.fail 0))
          | none, _ =>
              match builtin? command with
              | some run =>
                  let (flow, after) := run sh args
                  (flow, restore (isSpecial command) after)
              | none =>
                  let (ending, after) := start n [] name args sh
                  let (flow, after) := afterProcess after ending
                  (flow, restore false after)

/-- Runs the body of a function with its arguments as the positional parameters. -/
def call : Nat → Command → List (List Char) → Shell → Flow × Shell
  | 0, _, _, sh => (.endless, sh)
  | n + 1, body, args, sh =>
      if callLimit ≤ sh.calls then
        let text := "Maximum function recursion depth (" ++ toString callLimit ++ ") reached"
        (.next, sh.breakOff text.toList)
      else
        let (params, locals, loops, calls) := (sh.params, sh.locals, sh.loops, sh.calls)
        let (flow, after) := exec n body
          { sh with params := args, locals := [], loops := 0, calls := calls + 1 }
        let after := { after.giveBack after.locals with
          params := params, locals := locals, loops := loops, calls := calls }
        (if flow = .back then .next else flow, after)

/-- Starts a program in a process of its own and waits for its end; a complaint that there is none
begins with `what`. -/
def start : Nat → List Char → List Char → List (List Char) → Shell → Ending × Shell
  | 0, _, _, _, sh => (.endless, sh)
  | n + 1, what, name, args, sh =>
      match Launch.find sh.place (sh.value "PATH".toList) name args with
      | .ok l =>
          let (ending, after) := launch n l sh
          (ending, sh.take after)
      | .error .badFormat =>
          let (ending, after) := launch n ⟨"sh", "sh".toList, name :: args⟩ sh
          (ending, sh.take after)
      | .error fault =>
          let (text, status) := if name.isEmpty then ("Permission denied", 127) else commandFault fault
          (.exited status, sh.complain (what ++ name ++ (": " ++ text).toList))

/-- Runs a program in a process of its own. -/
def launch : Nat → Launch → Shell → Ending × Shell
  | 0, _, sh => (.endless, sh)
  | n + 1, l, parent =>
      if nestingLimit ≤ parent.nesting then (.endless, parent)
      else match l.program with
      | "sh" =>
          let (letters, rest) := shellOptions l.args
          let sh := { parent.child l.name [] with options := letters.filter ['e', 'u', 'x'].contains }
          let input : Except (List Char) (List Char × Shell) :=
            if letters.contains 'c' then
              match rest with
              | [] => .error "-c requires an argument".toList
              | script :: rest =>
                  .ok (script, { sh with name := rest.headD l.name, params := rest.drop 1 })
            else if rest.isEmpty || letters.contains 's' then
              let (bytes, m) := sh.machine.drain (sh.channel 0)
              .ok (Utf8.lossy bytes, { sh with machine := m, params := rest })
            else
              let path := rest.headD []
              match sh.place.bytes? path with
              | some bytes => .ok (Utf8.lossy bytes, { sh with name := path, params := rest.drop 1 })
              | none => .error ("cannot open ".toList ++ path ++ ": No such file".toList)
          match input with
          | .ok (script, sh) => runScript n script sh
          | .error message => (.exited 2, { sh with line := 0 }.complain message)
      | "env" =>
          let sh := parent.child l.name []
          let settings := (l.args.takeWhile fun a => a.contains '=').filterMap assignment?
          let sh := settings.foldl (fun sh (x, v) => (sh.setVar x v).exportVar x) sh
          match l.args.dropWhile fun a => a.contains '=' with
          | name :: args => start n [] name args sh
          | [] =>
              let lines := sh.environment.reverse.flatMap fun (x, v) => utf8 (x ++ '=' :: v ++ ['\n'])
              (.exited 0, sh.write 1 lines)
      | program =>
          let sh := parent.child l.name l.args
          match Utility.named? program with
          | none => (.exited 0, sh)
          | some run =>
              let input := sh.channel 0
              let (bytes, m) := if program = "cat" then sh.machine.drain input else ([], sh.machine)
              let e := run sh.place bytes l.args
              let messages := e.complaints.flatMap fun c =>
                utf8 (l.name ++ ": ".toList ++ c ++ ['\n'])
              let (_, sh) := { sh with machine := m }.effect program
                { e with err := e.err ++ messages, complaints := [] }
              (.exited sh.status, sh)

/-- Runs a whole script to the end of its process. -/
def runScript : Nat → List Char → Shell → Ending × Shell
  | 0, _, sh => (.endless, sh)
  | n + 1, script, sh =>
      let (flow, sh) := runText n (script.count '\n') script sh
      finish n flow sh

/-- The end of a shell's process, with what is to be done at the end. -/
def finish : Nat → Flow → Shell → Ending × Shell
  | 0, _, sh => (.endless, sh)
  | n + 1, flow, sh =>
      match flow, sh.traps.lookup 0 with
      | .killed signal, _ => (.killed signal, sh)
      | .endless, _ => (.endless, sh)
      | _, none => (flow.ending sh.status, sh)
      | _, some action =>
          let status := sh.status
          let (flow, sh) := runText n (action.count '\n') action { sh with traps := [] }
          (flow.ending (if flow = .exit then sh.status else status), sh)

/-- Runs a script in which lines end `whole` times, line by line. -/
def runText : Nat → Nat → List Char → Shell → Flow × Shell
  | 0, _, _, sh => (.endless, sh)
  | n + 1, whole, s, sh =>
      match nextLine? whole s with
      | some none => (.next, sh)
      | some (some (c, rest)) =>
          let (flow, sh) := exec n c sh
          if flow = .next then runText n whole rest sh else (flow, sh)
      | none => (.exit, ({ sh with line := whole - s.count '\n' + 1 }.complain
          "Syntax error".toList).fail 2)

end

end LintDesk.Shell
