import LintDesk.Shell.Run
import LintDesk.Timeline

/-! # Running commands on a machine

A command gets nothing to read; what it writes goes into two pipes and is read as text once it has
ended. A run that takes as long as the limit allows, or longer, counts as ended by the limit, and
so does one that never ends.
-/

namespace LintDesk

open LintDesk.Text

/-- What a process is given by the one that starts it. -/
structure Environment where
  cwd : List FileName := []
  vars : List (String × String) := []

namespace Environment

def var? (e : Environment) (name : String) : Option String := e.vars.lookup name

def searchPath (e : Environment) : String := (e.var? "PATH").getD ""

end Environment

namespace Machine

/-- How deep the run of a program may go before it counts as endless. -/
def depth : Nat := 1000000

def place (m : Machine) (e : Environment) : Place := ⟨m.tree, e.cwd⟩

/-- A process from which programs are started, with the channels that they write to. -/
def launcher (m : Machine) (e : Environment) (out err : Channel) : Shell :=
  let vars := e.vars.map fun (name, value) => (name.toList, value.toList)
  let vars := Shell.put "PWD".toList (Path.ofNames e.cwd) vars
  { machine := m
    name := []
    vars := vars
    exported := vars.map (·.1)
    process := m.processes
    descriptors := [(0, .null), (1, out), (2, err)]
    cwd := e.cwd }

/-- The exit code that an end gives; a run that is ended from outside has none. -/
def exitCode? : Ending → Option Int
  | .exited code => some code
  | .killed _ | .endless => none

/-- Whether a run of the given length is ended by the limit, which is in milliseconds. -/
def exceeds (limit : Nat) (ending : Ending) (elapsed : Nat) : Bool :=
  ending = .endless || limit ≤ elapsed

/-- What a process wrote, as text; what went to its second channel comes last. -/
def textOf (out err : List UInt8) : String := String.ofList (Utf8.lossy out ++ Utf8.lossy err)

/-- Starts a command and waits for its end. -/
def run (m : Machine) (e : Environment) (limit : Option Nat) (c : CommandLine) :
    Except Error Captured × Machine :=
  match Launch.find (m.place e) e.searchPath.toList c.program.toList (c.args.map String.toList) with
  | .error fault => (.error (.spawn c.program fault.message), m)
  | .ok program =>
      let (out, m) := m.addPipe []
      let (err, m) := m.addPipe []
      let (ending, sh) := Shell.launch depth program (m.launcher e out err)
      let after := sh.machine
      match limit.filter (exceeds · ending (after.clock - m.clock)) with
      | some limit => (.error (.timeout c.program (limit / 1000)), after)
      | none =>
          let text := textOf (after.contents out) (after.contents err)
          (.ok ⟨text, exitCode? ending⟩, after)

/-- Runs commands on a machine, each as soon as it is asked for. -/
def runner (e : Environment) (limit : Option Nat) : TimedRunner Machine where
  run c m := let (result, m) := m.run e limit c; ((result, 0), m)

end Machine
end LintDesk
