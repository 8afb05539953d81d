import LintDesk.Proofs.Latest

/-! # What becomes of a run

A run fails if its result says nothing about the file, and is superseded if a run of the same
analyzer for a later request has already ended well. Otherwise its diagnostics are in the slot of
its analyzer. Plain writes have no part in that, and nothing but the last case leaves a trace in
the store.
-/

namespace LintDesk

namespace Analyzer

/-- A result that says nothing about the file: the runner has failed, the process was killed, or
its exit code is none of those that the analyzer accepts. -/
def Rejects (a : Analyzer) : Except Error Captured → Prop
  | .error _ => True
  | .ok ⟨_, none⟩ => True
  | .ok ⟨_, some code⟩ => code ∉ a.exitCodes

instance (a : Analyzer) : DecidablePred a.Rejects
  | .error _ => inferInstanceAs (Decidable True)
  | .ok ⟨_, none⟩ => inferInstanceAs (Decidable True)
  | .ok ⟨_, some code⟩ => inferInstanceAs (Decidable (code ∉ a.exitCodes))

/-- A run of the analyzer for a later request than the one with the number `n` has ended well. -/
def Overtaken (a : Analyzer) (n : Nat) (runs : List EndedRun) : Prop :=
  ∃ run ∈ runs, run.job.analyzer = a.id ∧ ¬a.Rejects run.result ∧ n < run.job.sequence

instance (a : Analyzer) (n : Nat) (runs : List EndedRun) : Decidable (a.Overtaken n runs) :=
  inferInstanceAs (Decidable (∃ run ∈ runs, _ ∧ _ ∧ _))

theorem rejects_iff {a : Analyzer} {job : Job} {result : Except Error Captured}
    (h : job.exitCodes = a.exitCodes) :
    a.Rejects result ↔ (EndedRun.mk job result).text? = none := by
  rcases result with e | ⟨text, _ | code⟩
  · exact iff_of_true trivial rfl
  · exact iff_of_true trivial rfl
  · simp [Rejects, EndedRun.text?, h]

end Analyzer

namespace Desk

variable {c : Coordinator} {history : List DeskEvent} {a : Analyzer}

theorem rejects_iff_of_mem_endedRuns (ha : a ∈ c.enabled) {run : EndedRun}
    (hrun : run ∈ (fresh c).endedRuns history) (hid : run.job.analyzer = a.id) :
    a.Rejects run.result ↔ run.text? = none := by
  refine Analyzer.rejects_iff ?_
  refine (sound_after_fresh c .empty history).exitCodes_eq (job_mem_of_mem_endedRuns hrun) ?_ hid
  rwa [coordinator_after_fresh]

/-- The number of a slot tells whether a run for a request has been overtaken. -/
theorem lt_sequence_iff_overtaken (ha : a ∈ c.enabled) {n : Nat} :
    n < ((fresh c).after history).store.sequence a.id ↔
      a.Overtaken n ((fresh c).endedRuns history) := by
  rw [lt_sequence_after_iff]
  constructor
  · rintro ⟨run, hrun, htext, hid, hlt⟩
    exact ⟨run, hrun, hid, mt (rejects_iff_of_mem_endedRuns ha hrun hid).mp htext, hlt⟩
  · rintro ⟨run, hrun, hid, hok, hlt⟩
    exact ⟨run, hrun, mt (rejects_iff_of_mem_endedRuns ha hrun hid).mpr hok, hid, hlt⟩

end Desk

/-- What becomes of a run under way when it ends. It stays so for ever, it is decided by the result
and by what the other runs of the analyzer have come to before, and only a run that counts changes
the store, at the slot of its analyzer. -/
theorem outcome_of_run (c : Coordinator) (history : List DeskEvent) {place : Nat} {job : Job}
    (h : ((Desk.fresh c).after history).tickets[place]? = some ⟨job, none⟩)
    (result : Except Error Captured) :
    let d := (Desk.fresh c).after history
    let d' := d.complete place result
    let runs := (Desk.fresh c).endedRuns history
    ∃ a ∈ c.enabled, a.id = job.analyzer ∧ ∃ outcome,
      (∀ later, (d'.after later).tickets[place]? = some ⟨job, some outcome⟩) ∧
      ((∃ reason, outcome = .failed reason) ↔ a.Rejects result) ∧
      (outcome = .superseded ↔ ¬a.Rejects result ∧ a.Overtaken job.sequence runs) ∧
      (¬a.Rejects result → ¬a.Overtaken job.sequence runs →
        ∃ text code, result = .ok ⟨text, some code⟩ ∧
          outcome = .updated (c.registry.read a.id text).length ∧
          d'.store.slot? a.id = some ⟨job.sequence, c.registry.read a.id text⟩) ∧
      ((∃ reason, outcome = .failed reason) ∨ outcome = .superseded → d'.store = d.store) ∧
      ∀ n, outcome = .updated n → ∀ id, id ≠ a.id → d'.store.slot? id = d.store.slot? id := by
  intro d d' runs
  have hcoord : d.coordinator = c := Desk.coordinator_after_fresh ..
  have hjob : job ∈ d.jobs := Desk.mem_jobs_of_getElem? h
  obtain ⟨a, ha, file, hja⟩ := (Desk.sound_after_fresh c .empty history).exists_analyzer hjob
  rw [Desk.coordinator_after_fresh] at ha hja
  have hid : a.id = job.analyzer := congrArg Job.analyzer hja
  have hreject : a.Rejects result ↔ (EndedRun.mk job result).text? = none :=
    Analyzer.rejects_iff (congrArg Job.exitCodes hja.symm)
  have hstore : d'.store = (job.settle c.registry result d.store).2 := by
    rw [← hcoord]
    exact congrArg Desk.store (Desk.complete_of_open h result)
  have hticket : ∀ later, (d'.after later).tickets[place]? =
      some ⟨job, some (job.settle c.registry result d.store).1⟩ := fun later => by
    rw [← hcoord]
    exact Desk.settled_after (Desk.tickets_complete_self h result) later
  refine ⟨a, ha, hid, _, hticket, ?_⟩
  have hover : job.sequence < d.store.sequence job.analyzer ↔ a.Overtaken job.sequence runs := by
    rw [← hid]
    exact Desk.lt_sequence_iff_overtaken ha
  rcases job.settle_cases c.registry result d.store with
    ⟨ht, e, -, hs⟩ | ⟨text, ht, hlt, hs⟩ | ⟨text, ht, hge, hs⟩
  · simp [hstore, hs, hreject, ht]
  · simp [hstore, hs, hreject, ht, hover.mp hlt]
  · have hnot : ¬a.Overtaken job.sequence runs := mt hover.mpr (Nat.not_lt.mpr hge)
    obtain ⟨code, hresult⟩ := EndedRun.exists_code_of_text? ht
    simp only [hstore, hs, hreject, ht]
    refine ⟨by simp, by simp [hnot], fun _ _ => ?_, by simp, fun n _ id hne => ?_⟩
    · exact ⟨text, code, hresult, by rw [hid], by rw [hid]; exact Store.slot?_put_self ..⟩
    · exact Store.slot?_put_of_ne _ _ (hid ▸ hne.symm)

/-- A run that comes too late leaves the store alone, although a plain write has come in between.
The run of the other analyzer counts, and leaves what it has reported in its own slot only. -/
theorem outcome_of_run_overtaken :
    let history : List DeskEvent :=
      [.request "a.php", .request "b.php", .complete 2 (.ok ⟨"7", some 0⟩), .write "alpha" []]
    let d := (Desk.fresh .numbers).after history
    let job : Job := ⟨"alpha", 1, [0], ⟨"php", ["a.php"]⟩⟩
    let other : Job := ⟨"beta", 2, [0, 1], ⟨"php", ["b.php"]⟩⟩
    let d' := d.complete 3 (.ok ⟨"5\n6", some 1⟩)
    d.tickets[0]? = some ⟨job, none⟩ ∧
      (d.complete 0 (.ok ⟨"3", some 0⟩)).tickets[0]? = some ⟨job, some .superseded⟩ ∧
      (d.complete 0 (.ok ⟨"3", some 0⟩)).store = d.store ∧
      d.tickets[3]? = some ⟨other, none⟩ ∧ d'.tickets[3]? = some ⟨other, some (.updated 2)⟩ ∧
      d'.store.slot? "beta" =
        some ⟨2, [⟨"issue", ⟨4, 0⟩, .warning⟩, ⟨"issue", ⟨5, 0⟩, .warning⟩]⟩ ∧
      d'.store.slot? "alpha" = d.store.slot? "alpha" := by
  intro history d job other d'
  have hopen : d.tickets[0]? = some ⟨job, none⟩ := by rfl
  have hopen' : d.tickets[3]? = some ⟨other, none⟩ := by rfl
  obtain ⟨-, -, -, outcome, hticket, -, -, -, hsame, -⟩ :=
    outcome_of_run .numbers history hopen (.ok ⟨"3", some 0⟩)
  obtain rfl : .superseded = outcome :=
    Option.some.inj (congrArg Ticket.outcome (Option.some.inj (hticket [])))
  obtain ⟨a, ha, hid, outcome', hticket', -, -, hcounts, -, hframe⟩ :=
    outcome_of_run .numbers history hopen' (.ok ⟨"5\n6", some 1⟩)
  let beta : Analyzer :=
    { id := "beta", name := "Beta", args := [Analyzer.fileHole], exitCodes := [0, 1] }
  obtain rfl : a = beta := Coordinator.enabled_inj ha (by decide) hid
  obtain ⟨text, code, hresult, rfl, hslot⟩ := hcounts (by decide) (by decide)
  cases hresult
  have hread : Coordinator.numbers.registry.read "beta" "5\n6" =
      [⟨"issue", ⟨4, 0⟩, .warning⟩, ⟨"issue", ⟨5, 0⟩, .warning⟩] := by decide
  rw [hread] at hslot hticket' hframe
  exact ⟨hopen, hticket [], hsame (.inr rfl), hopen', hticket' [], hslot,
    hframe 2 rfl "alpha" (by decide)⟩

end LintDesk
