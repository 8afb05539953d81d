import LintDesk.CommandLine
import LintDesk.Captured
import LintDesk.Registry
import LintDesk.Store

/-! # Jobs

A request to analyze a file becomes one job for each enabled analyzer. When the command of a job
has been run, the job is settled: its output is read and published in the store, unless the run
failed or the store already holds a newer result.
-/

namespace LintDesk

/-- What a coordinator works with. -/
structure Settings where
  interpreter : String
  vendor : String
  analyzers : List Analyzer

/-- The first item that also stands further to the front. -/
def firstRepeated (seen : List String) : List String → Option String
  | [] => none
  | x :: xs => if seen.contains x then some x else firstRepeated (x :: seen) xs

theorem firstRepeated_eq_none_iff {seen xs : List String} :
    firstRepeated seen xs = none ↔ xs.Nodup ∧ ∀ x ∈ xs, x ∉ seen := by
  induction xs generalizing seen with
  | nil => simp [firstRepeated]
  | cons x xs ih =>
    by_cases hx : x ∈ seen
    · simp [firstRepeated, hx]
    · simp only [firstRepeated, List.contains_iff_mem, hx, if_false, ih, List.nodup_cons,
        List.mem_cons, forall_eq_or_imp, not_or]
      grind

/-- Settings whose analyzers have different ids, with a report reader for each of them. -/
structure Coordinator where
  settings : Settings
  registry : Registry
  distinct : (settings.analyzers.map (·.id)).Nodup
  registered : ∀ a ∈ settings.analyzers, registry.contains a.id = true

namespace Coordinator

/-- A coordinator with the given report readers. -/
def withRegistry (settings : Settings) (registry : Registry) : Except Error Coordinator :=
  let ids := settings.analyzers.map (·.id)
  match hrep : firstRepeated [] ids with
  | some id => .error (.duplicateAnalyzer id)
  | none =>
      match hmiss : ids.find? fun id => !registry.contains id with
      | some id => .error (.unknownAnalyzer id)
      | none => .ok
          { settings, registry
            distinct := (firstRepeated_eq_none_iff.mp hrep).1
            registered := fun a ha => by
              simpa using List.find?_eq_none.mp hmiss a.id (List.mem_map_of_mem ha) }

/-- A coordinator whose report readers come from the rules of the analyzers. -/
def ofSettings (settings : Settings) : Except Error Coordinator := do
  withRegistry settings (← Registry.ofAnalyzers settings.analyzers)

def enabled (c : Coordinator) : List Analyzer := c.settings.analyzers.filter (·.enabled)

end Coordinator

namespace Settings

def context (s : Settings) (file : String) : TemplateContext := ⟨s.interpreter, s.vendor, file⟩

/-- The command line of each enabled analyzer for a file. -/
def commands (s : Settings) (file : String) : List (String × CommandLine) :=
  (s.analyzers.filter (·.enabled)).map fun a => (a.id, a.materialize (s.context file))

end Settings

/-- What became of a job. -/
inductive Outcome where
  /-- The slot now holds this many diagnostics of the job. -/
  | updated (count : Nat)
  /-- The slot already held the result of a newer request. -/
  | superseded
  /-- The run failed; the slot is as it was. -/
  | failed (reason : String)
deriving DecidableEq, Repr

/-- One analyzer's part of a request. -/
structure Job where
  analyzer : String
  sequence : Nat
  exitCodes : List Int
  command : CommandLine
deriving DecidableEq, Repr

namespace Job

/-- The text of a run that counts for the job. -/
def accepted (j : Job) (result : Except Error Captured) : Except Error String :=
  result.bind (·.accept j.command.program j.exitCodes)

/-- Settles a job with the result of its run. -/
def settle (j : Job) (registry : Registry) (result : Except Error Captured) (store : Store) :
    Outcome × Store :=
  match j.accepted result with
  | .error e => (.failed e.message, store)
  | .ok text =>
      let ds := registry.read j.analyzer text
      match store.setIfNewer j.analyzer j.sequence ds with
      | (true, store) => (.updated ds.length, store)
      | (false, store) => (.superseded, store)

end Job

namespace Coordinator

/-- The job of an analyzer in the request with the given number. -/
def job (c : Coordinator) (sequence : Nat) (file : String) (a : Analyzer) : Job :=
  ⟨a.id, sequence, a.exitCodes, a.materialize (c.settings.context file)⟩

/-- The jobs of the request with the given number: the enabled analyzers and the commands for the
file are paired by their places. -/
def jobs (c : Coordinator) (sequence : Nat) (file : String) : List Job :=
  (c.enabled.zip (c.settings.commands file)).map fun (a, id, command) =>
    ⟨id, sequence, a.exitCodes, command⟩

/-- Each command is paired with the analyzer that it is for. -/
theorem jobs_eq_map (c : Coordinator) (sequence : Nat) (file : String) :
    c.jobs sequence file = c.enabled.map (c.job sequence file) := by
  have hcommands : c.settings.commands file =
      c.enabled.map fun a => (a.id, a.materialize (c.settings.context file)) := rfl
  rw [jobs, hcommands]
  induction c.enabled with
  | nil => rfl
  | cons a as ih => exact congrArg (_ :: ·) ih

end Coordinator

end LintDesk
