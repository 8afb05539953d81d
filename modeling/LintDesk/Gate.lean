import LintDesk.Text.Search
import LintDesk.CommandLine
import LintDesk.Captured

/-! # The availability gate

The interpreter is probed once, before anything else runs; later checks repeat the answer.
-/

namespace LintDesk

/-- Runs commands. What a run gives may depend on the runs before it, which the state records. -/
structure Runner (σ : Type) where
  run : CommandLine → σ → Except Error Captured × σ

/-- How to probe an interpreter: a command, and a text that its output has to contain. -/
structure Probe where
  program : String
  args : List String
  marker : String
deriving DecidableEq, Repr

namespace Probe

/-- Asks the interpreter for its version and expects the banner. -/
def ofInterpreter (interpreter : String) : Probe where
  program := interpreter
  args := ["-v"]
  marker := "PHP"

def command (p : Probe) : CommandLine := ⟨p.program, p.args⟩

/-- What the result of the probe command says against the interpreter; the exit code counts for
nothing. -/
def fault? (p : Probe) : Except Error Captured → Option String
  | .ok out =>
      if Text.contains out.text p.marker then none
      else some ("output does not contain " ++ ticked p.marker)
  | .error e => some e.message

end Probe

/-- A probe, and the answer of the check that ran it: what stands against the interpreter, if
anything. -/
structure Gate where
  probe : Probe
  answer : Option (Option String) := none

namespace Gate

/-- Whether the interpreter is available, as far as it is known. -/
def isAvailable? (g : Gate) : Option Bool := g.answer.map Option.isNone

/-- The result that a check gives for an answer of the probe. -/
def verdict (g : Gate) : Option String → Except Error Unit
  | none => .ok ()
  | some reason => .error (.toolUnavailable g.probe.program reason)

/-- Probes the interpreter unless that has been done, and tells whether it can be used. -/
def check {σ : Type} (g : Gate) (runner : Runner σ) (s : σ) : Except Error Unit × Gate × σ :=
  match g.answer with
  | some a => (g.verdict a, g, s)
  | none =>
      let (result, s) := runner.run g.probe.command s
      let a := g.probe.fault? result
      (g.verdict a, { g with answer := some a }, s)

end Gate
end LintDesk
