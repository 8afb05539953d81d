import LintDesk.Proofs.Session

/-! # What a session does, and what it runs

A runner can be made to write down the commands that it is given. It answers as before, so that a
session over it goes as it would have gone, and what has been written down in the end are the
commands that the session has run.
-/

namespace LintDesk

variable {σ : Type}

/-! ## Recorded runs -/

/-- The runner, with the commands that it runs written down in their order. -/
def TimedRunner.recorded (r : TimedRunner σ) : TimedRunner (σ × List CommandLine) where
  run c s := let (reply, state) := r.run c s.1; (reply, (state, s.2 ++ [c]))

/-- The timeline, with its commands written down from now on, behind those that have been. -/
def Timeline.record (t : Timeline σ) (log : List CommandLine) :
    Timeline (σ × List CommandLine) where
  runner := t.runner.recorded
  state := (t.state, log)
  desk := t.desk
  clock := t.clock
  queued := t.queued
  flights := t.flights

namespace Session

/-- The session, with its commands written down from now on, behind those that have been. -/
def record (s : Session σ) (log : List CommandLine) : Session (σ × List CommandLine) :=
  ⟨s.timeline.record log⟩

/-! ## Actions -/

/-- What can be done with a session. -/
inductive Action where
  | handle (t : Trigger)
  | listen (ts : List Trigger)
  | wait (sequence : Nat)
  | sleep (time : Nat)
  | check (root : String) (files : List String)
  | write (id : String) (ds : List Diagnostic)

/-- The triggers that come with an action; a file that is checked counts as saved. -/
def Action.triggers : Action → List Trigger
  | handle t => [t]
  | listen ts => ts
  | check _ files => files.map .saved
  | wait _ | sleep _ | write .. => []

def act (s : Session σ) : Action → Session σ
  | .handle t => s.handle t
  | .listen ts => s.listen ts
  | .wait n => (s.wait n).2
  | .sleep time => s.sleep time
  | .check root files => (s.check root files).2
  | .write id ds => s.write id ds

/-- The session after some actions. -/
def follow (s : Session σ) (actions : List Action) : Session σ := actions.foldl act s

/-- The commands that are run while a session goes through some actions. -/
def executed (s : Session σ) (actions : List Action) : List CommandLine :=
  ((s.record []).follow actions).timeline.state.2

theorem Reachable.follow {s : Session σ} (h : s.Reachable) (actions : List Action) :
    (s.follow actions).Reachable := by
  induction actions generalizing s with
  | nil => exact h
  | cons a actions ih =>
    refine ih ?_
    cases a with
    | handle t => exact h.handle t
    | listen ts => exact h.listen ts
    | wait n => exact h.wait n
    | sleep time => exact h.sleep time
    | check root files => exact h.check root files
    | write id ds => exact h.write id ds

end Session
end LintDesk
