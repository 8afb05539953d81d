import LintDesk.Proofs.Timeline

/-! # The sessions there are

A session begins with a desk that has taken no request yet, and goes on by the operations of a
session. Nothing but these leads to a session, so that what they keep holds of all.
-/

namespace LintDesk.Session

variable {σ : Type} {s : Session σ}

/-- The sessions that there are. -/
inductive Reachable : Session σ → Prop
  | fresh (c : Coordinator) (runner : TimedRunner σ) (store : Store) (state : σ) :
      Reachable ⟨{ runner := runner, state := state, desk := .fresh c store }⟩
  | handle {s : Session σ} (h : Reachable s) (t : Trigger) : Reachable (s.handle t)
  | listen {s : Session σ} (h : Reachable s) (ts : List Trigger) : Reachable (s.listen ts)
  | wait {s : Session σ} (h : Reachable s) (n : Nat) : Reachable (s.wait n).2
  | sleep {s : Session σ} (h : Reachable s) (time : Nat) : Reachable (s.sleep time)
  | write {s : Session σ} (h : Reachable s) (id : String) (ds : List Diagnostic) :
      Reachable (s.write id ds)

theorem reachable_start {gate : Gate} {settings : Settings} {runner : TimedRunner σ}
    {store : Store} {state : σ} (h : (start gate settings runner store state).1 = .ok s) :
    s.Reachable := by
  rw [start] at h
  split at h
  · cases h
  · split at h
    · cases h
    · obtain rfl := Except.ok.inj h
      exact .fresh ..

theorem Reachable.checkFiles (h : s.Reachable) (root : String) (files : List String) :
    (s.checkFiles root files).2.Reachable := by
  induction files generalizing s with
  | nil => exact h
  | cons file files ih => exact ih ((h.handle (.saved file)).wait _)

theorem Reachable.check (h : s.Reachable) (root : String) (files : List String) :
    (s.check root files).2.Reachable := h.checkFiles root files

/-- Every run of a session that has not ended is queued or under way. -/
theorem Reachable.sound (h : s.Reachable) : s.timeline.Sound s.timeline.queued := by
  induction h with
  | fresh c runner store state => exact ⟨Desk.sound_fresh c store, nofun, nofun⟩
  | handle _ t ih => exact ih.request t.path
  | @listen s _ ts ih =>
    have hfold : ∀ (ts : List Trigger) (t : Timeline σ), t.Sound t.queued →
        (ts.foldl (fun t trigger => t.request trigger.path) t).Sound
          (ts.foldl (fun t trigger => t.request trigger.path) t).queued := by
      intro ts
      induction ts with
      | nil => exact fun t h => h
      | cons trigger ts ih => exact fun t h => ih _ (h.request trigger.path)
    obtain ⟨-, -, hsound⟩ := (hfold ts s.timeline ih).startQueued
    exact hsound.mono (List.nil_subset _)
  | wait _ n ih =>
    obtain ⟨-, -, hsound, -⟩ := ih.wait n
    exact hsound
  | sleep _ time ih => exact ih.sleep time
  | write _ id ds ih => exact ⟨ih.desk.step (.write id ds), ih.covered, ih.flown⟩

end LintDesk.Session
