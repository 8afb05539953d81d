import LintDesk.Proofs.Desk

/-! # The newest result wins

As long as nobody but the runs writes to the store, each slot holds what the newest of the runs
reported that have ended well for its analyzer, in whatever order they ended. So a slot never goes
back to an older request, and the order in which runs end cannot be seen in the end.
-/

namespace LintDesk

/-- A history in which nobody but the runs writes to the store. -/
def RunsOnly (history : List DeskEvent) : Prop := ∀ id ds, .write id ds ∉ history

/-- Of the runs that have ended well for an analyzer, the one for the newest request. -/
structure IsLatest (runs : List EndedRun) (id : String) (run : EndedRun) (text : String) :
    Prop where
  mem : run ∈ runs
  analyzer : run.job.analyzer = id
  text : run.text? = some text
  newest : ∀ r ∈ runs, r.job.analyzer = id → r.text? ≠ none → r.job.sequence ≤ run.job.sequence

namespace StoreEvent

variable {registry : Registry} {id : String} {slot : Slot}

/-- An event that is no plain write to a slot leaves it as it is, or it is the end of a run whose
report the slot now holds. -/
theorem slot?_apply_cases (s : Store) {e : StoreEvent} (he : ∀ ds, e ≠ written id ds) :
    (e.apply registry s).slot? id = s.slot? id ∨
      ∃ run text, e = ended run ∧ run.job.analyzer = id ∧ run.text? = some text ∧
        (e.apply registry s).slot? id = some ⟨run.job.sequence, registry.read id text⟩ := by
  by_cases hid : e.target = id
  · cases e with
    | written k ds => exact absurd (congrArg (written · ds) hid) (he ds)
    | ended run =>
      obtain ⟨job, result⟩ := run
      obtain rfl : job.analyzer = id := hid
      rcases job.settle_cases registry result s with
        ⟨-, e, -, hs⟩ | ⟨_, -, -, hs⟩ | ⟨text, htext, -, hs⟩
      · exact .inl (by rw [apply, hs])
      · exact .inl (by rw [apply, hs])
      · exact .inr ⟨_, text, rfl, rfl, htext, by rw [apply, hs, Store.slot?_put_self]⟩
  · exact .inl (slot?_apply_of_ne registry hid)

/-- As long as there is no plain write to it, a slot holds what it held or what one of the runs has
reported. -/
theorem slot?_foldl_cases (s : Store) {es : List StoreEvent} (hes : ∀ ds, written id ds ∉ es) :
    (es.foldl (apply registry) s).slot? id = s.slot? id ∨
      ∃ run text, ended run ∈ es ∧ run.job.analyzer = id ∧ run.text? = some text ∧
        (es.foldl (apply registry) s).slot? id =
          some ⟨run.job.sequence, registry.read id text⟩ := by
  induction es generalizing s with
  | nil => exact .inl rfl
  | cons e es ih =>
    rw [List.foldl_cons]
    rcases ih (e.apply registry s) fun ds hmem => hes ds (List.mem_cons_of_mem _ hmem) with
      hsame | ⟨run, text, hmem, hrest⟩
    · rw [hsame]
      have he : ∀ ds, e ≠ written id ds := fun ds h => hes ds (h ▸ List.mem_cons_self)
      refine (slot?_apply_cases s he).imp_right ?_
      rintro ⟨run, text, rfl, hrest⟩
      exact ⟨run, text, List.mem_cons_self, hrest⟩
    · exact .inr ⟨run, text, List.mem_cons_of_mem _ hmem, hrest⟩

/-- What a slot of a store that only runs have written to holds, one of the runs has reported. -/
theorem exists_run_of_slot? {es : List StoreEvent} (hes : ∀ k ds, written k ds ∉ es)
    (h : (es.foldl (apply registry) .empty).slot? id = some slot) :
    ∃ run text, ended run ∈ es ∧ run.job.analyzer = id ∧ run.text? = some text ∧
      slot = ⟨run.job.sequence, registry.read id text⟩ := by
  rcases slot?_foldl_cases .empty (hes id) with hempty | ⟨run, text, hmem, hid, htext, hslot⟩
  · rw [hempty] at h
    cases h
  · exact ⟨run, text, hmem, hid, htext, Option.some.inj (h.symm.trans hslot)⟩

end StoreEvent

namespace Desk

variable {c : Coordinator} {history : List DeskEvent} {id : String} {slot : Slot}

theorem written_mem_storeEvents {d : Desk} {ds : List Diagnostic}
    (h : .written id ds ∈ d.storeEvents history) : .write id ds ∈ history := by
  induction history generalizing d with
  | nil => cases h
  | cons e history ih =>
    rcases List.mem_append.mp h with h | h
    · cases e with
      | request file => cases h
      | write k ds' =>
        obtain ⟨rfl, rfl⟩ : id = k ∧ ds = ds' := by simpa [storeEvent?] using h
        exact List.mem_cons_self
      | complete place result =>
        rcases d.open_or_not place with ⟨job, hopen⟩ | hopen
        · simp [storeEvent?_complete_of_open hopen] at h
        · simp [storeEvent?_complete_of_not_open hopen] at h
    · exact List.mem_cons_of_mem _ (ih h)

theorem store_after_fresh (c : Coordinator) (store : Store) (history : List DeskEvent) :
    ((fresh c store).after history).store =
      ((fresh c store).storeEvents history).foldl (StoreEvent.apply c.registry) store :=
  store_after _ _

theorem lt_sequence_after_iff {n : Nat} : n < ((fresh c).after history).store.sequence id ↔
    ∃ run ∈ (fresh c).endedRuns history,
      run.text? ≠ none ∧ run.job.analyzer = id ∧ n < run.job.sequence := by
  rw [store_after_fresh, StoreEvent.lt_sequence_foldl_iff]
  simp [ended_mem_storeEvents_iff]

theorem isLatest_of_slot? (h : RunsOnly history)
    (hslot : ((fresh c).after history).store.slot? id = some slot) :
    ∃ run text, IsLatest ((fresh c).endedRuns history) id run text ∧
      slot = ⟨run.job.sequence, c.registry.read id text⟩ := by
  have hseq := Store.sequence_of_slot? hslot
  rw [store_after_fresh] at hslot
  obtain ⟨run, text, hmem, hid, htext, rfl⟩ := StoreEvent.exists_run_of_slot?
    (fun k ds hw => h k ds (written_mem_storeEvents hw)) hslot
  refine ⟨run, text, ⟨ended_mem_storeEvents_iff.mp hmem, hid, htext, ?_⟩, rfl⟩
  intro r hr hrid hrtext
  by_contra hlt
  have := lt_sequence_after_iff.mpr ⟨r, hr, hrtext, hrid, Nat.lt_of_not_le hlt⟩
  exact absurd hseq (Nat.ne_of_gt this)

theorem slot?_of_isLatest {run : EndedRun} {text : String} (h : RunsOnly history)
    (hl : IsLatest ((fresh c).endedRuns history) id run text) :
    ((fresh c).after history).store.slot? id =
      some ⟨run.job.sequence, c.registry.read id text⟩ := by
  have hrun : run.text? ≠ none := by simp [hl.text]
  have hpos : 0 < ((fresh c).after history).store.sequence id :=
    lt_sequence_after_iff.mpr ⟨run, hl.mem, hrun, hl.analyzer,
      ((sound_after_fresh c .empty history).numbered _ (job_mem_of_mem_endedRuns hl.mem)).1⟩
  cases hslot : ((fresh c).after history).store.slot? id with
  | none => simp [Store.sequence, hslot] at hpos
  | some slot =>
    obtain ⟨r, t, hr, rfl⟩ := isLatest_of_slot? h hslot
    -- Both runs are the newest one, and there is one run for each request.
    have hseq : r.job.sequence = run.job.sequence :=
      Nat.le_antisymm (hl.newest r hr.mem hr.analyzer (by simp [hr.text]))
        (hr.newest run hl.mem hl.analyzer hrun)
    have hkey : r.job.key = run.job.key := Prod.ext (hr.analyzer.trans hl.analyzer.symm) hseq
    obtain rfl := (sound_fresh c .empty).endedRuns_unique hr.mem hl.mem hkey
    rw [Option.some.inj (hr.text.symm.trans hl.text)]

theorem slot?_eq_none_iff (h : RunsOnly history) :
    ((fresh c).after history).store.slot? id = none ↔
      ∀ run ∈ (fresh c).endedRuns history, run.job.analyzer = id → run.text? = none := by
  constructor
  · intro hnone run hrun hid
    by_contra htext
    have hpos := (sound_after_fresh c .empty history).numbered _ (job_mem_of_mem_endedRuns hrun)
    have hlt := (lt_sequence_after_iff (c := c)).mpr ⟨run, hrun, htext, hid, hpos.1⟩
    simp [Store.sequence, hnone] at hlt
  · intro hall
    by_contra hsome
    obtain ⟨slot, hslot⟩ := Option.ne_none_iff_exists'.mp hsome
    obtain ⟨run, text, hl, -⟩ := isLatest_of_slot? h hslot
    have htext := hl.text
    rw [hall run hl.mem hl.analyzer] at htext
    cases htext

theorem mem_snapshot_iff_isLatest (h : RunsOnly history) {ds : List Diagnostic} :
    (id, ds) ∈ ((fresh c).after history).store.snapshot ↔
      ∃ run text, IsLatest ((fresh c).endedRuns history) id run text ∧
        ds = c.registry.read id text := by
  rw [Store.mem_snapshot_iff]
  constructor
  · rintro ⟨n, hslot⟩
    obtain ⟨run, text, hl, hds⟩ := isLatest_of_slot? h hslot
    exact ⟨run, text, hl, congrArg Slot.diagnostics hds⟩
  · rintro ⟨run, text, hl, rfl⟩
    exact ⟨run.job.sequence, slot?_of_isLatest h hl⟩

/-- The request of a slot never gets older. -/
theorem sequence_after_mono (c : Coordinator) (history later : List DeskEvent) (id : String) :
    ((fresh c).after history).store.sequence id ≤
      ((fresh c).after (history ++ later)).store.sequence id := by
  by_contra hlt
  obtain ⟨run, hrun, hrest⟩ := lt_sequence_after_iff.mp (Nat.lt_of_not_le hlt)
  have hmem : run ∈ (fresh c).endedRuns (history ++ later) := by
    rw [endedRuns_append]
    exact List.mem_append_left _ hrun
  exact Nat.lt_irrefl _ (lt_sequence_after_iff.mpr ⟨run, hmem, hrest⟩)

theorem slot?_after_later {later : List DeskEvent} (h : RunsOnly history) (hl : RunsOnly later)
    (hslot : ((fresh c).after history).store.slot? id = some slot) :
    ∃ newer, ((fresh c).after (history ++ later)).store.slot? id = some newer ∧
      slot.sequence ≤ newer.sequence := by
  have hboth : RunsOnly (history ++ later) := by
    intro k ds hmem
    rcases List.mem_append.mp hmem with hmem | hmem
    · exact h k ds hmem
    · exact hl k ds hmem
  have hmono := sequence_after_mono c history later id
  cases hnewer : ((fresh c).after (history ++ later)).store.slot? id with
  | none =>
    obtain ⟨run, text, hlatest, -⟩ := isLatest_of_slot? h hslot
    have hmem : run ∈ (fresh c).endedRuns (history ++ later) := by
      rw [endedRuns_append]
      exact List.mem_append_left _ hlatest.mem
    have htext := (slot?_eq_none_iff hboth).mp hnewer run hmem hlatest.analyzer
    rw [hlatest.text] at htext
    cases htext
  | some newer =>
    rw [Store.sequence_of_slot? hslot, Store.sequence_of_slot? hnewer] at hmono
    exact ⟨newer, rfl, hmono⟩

/-- The slots after a history depend on the runs that have ended in it, not on their order. -/
theorem slot?_congr {other : List DeskEvent} (h : RunsOnly history) (ho : RunsOnly other)
    (hruns : ∀ run, run ∈ (fresh c).endedRuns other ↔ run ∈ (fresh c).endedRuns history) :
    ((fresh c).after other).store.slot? id = ((fresh c).after history).store.slot? id := by
  cases hslot : ((fresh c).after history).store.slot? id with
  | none =>
    rw [slot?_eq_none_iff h] at hslot
    exact (slot?_eq_none_iff ho).mpr fun run hrun => hslot run ((hruns run).mp hrun)
  | some slot =>
    obtain ⟨run, text, hl, rfl⟩ := isLatest_of_slot? h hslot
    exact slot?_of_isLatest ho
      ⟨(hruns run).mpr hl.mem, hl.analyzer, hl.text, fun r hr => hl.newest r ((hruns r).mp hr)⟩

end Desk

/-- At every moment a slot holds what the newest run reported that has ended well for its analyzer,
and there is none if there is no such run; this is what a reader gets, of one slot and of all of
them. So no slot goes back to an older request, and of two histories in which the same runs have
ended the same way a reader sees the same. -/
theorem slots_hold_latest_runs (c : Coordinator) {history : List DeskEvent}
    (h : RunsOnly history) :
    let d := (Desk.fresh c).after history
    let runs := (Desk.fresh c).endedRuns history
    (∀ id slot, d.store.slot? id = some slot ↔ ∃ run text, IsLatest runs id run text ∧
      slot = ⟨run.job.sequence, c.registry.read id text⟩) ∧
    (∀ id, id ∉ d.store.snapshot.map (·.1) ↔
      ∀ run ∈ runs, run.job.analyzer = id → run.text? = none) ∧
    (∀ id ds, (id, ds) ∈ d.store.snapshot ↔
      ∃ run text, IsLatest runs id run text ∧ ds = c.registry.read id text) ∧
    (∀ id, (∀ run text, IsLatest runs id run text →
        d.store.get id = c.registry.read id text) ∧
      ((∀ run ∈ runs, run.job.analyzer = id → run.text? = none) → d.store.get id = [])) ∧
    (∀ later, RunsOnly later → ∀ id slot, d.store.slot? id = some slot →
      ∃ newer, (d.after later).store.slot? id = some newer ∧ slot.sequence ≤ newer.sequence) ∧
    ∀ other, RunsOnly other → (∀ run, run ∈ (Desk.fresh c).endedRuns other ↔ run ∈ runs) →
      ((Desk.fresh c).after other).store.snapshot = d.store.snapshot := by
  intro d runs
  refine ⟨fun id slot => ⟨Desk.isLatest_of_slot? h, ?_⟩, fun id => ?_,
    fun id ds => Desk.mem_snapshot_iff_isLatest h, fun id => ⟨?_, ?_⟩, ?_, ?_⟩
  · rintro ⟨run, text, hl, rfl⟩
    exact Desk.slot?_of_isLatest h hl
  · rw [Store.mem_snapshot_ids_iff, ← Desk.slot?_eq_none_iff h, Option.eq_none_iff_forall_ne_some,
      not_exists]
  · intro run text hl
    exact Store.get_of_slot? (Desk.slot?_of_isLatest h hl)
  · intro hnone
    rw [Store.get, (Desk.slot?_eq_none_iff h).mpr hnone]
    rfl
  · intro later hl id slot hslot
    rw [← Desk.after_append]
    exact Desk.slot?_after_later h hl hslot
  · intro other ho hruns
    exact Store.snapshot_congr fun id => Desk.slot?_congr h ho hruns

/-- The run for the second request ends first, the one for the first request comes too late, and
the other analyzer has failed. -/
theorem slots_hold_latest_runs_overtaken :
    let history : List DeskEvent :=
      [.request "a.php", .request "b.php", .complete 2 (.ok ⟨"7", some 0⟩),
        .complete 0 (.ok ⟨"3", some 0⟩), .complete 1 (.ok ⟨"5", some 9⟩)]
    let d := (Desk.fresh .numbers).after history
    let issue : Diagnostic := ⟨"issue", ⟨6, 0⟩, .warning⟩
    RunsOnly history ∧ d.store.slot? "alpha" = some ⟨2, [issue]⟩ ∧
      d.store.get "alpha" = [issue] ∧ ("alpha", [issue]) ∈ d.store.snapshot ∧
      "beta" ∉ d.store.snapshot.map (·.1) ∧ d.store.get "beta" = [] := by
  intro history d issue
  have h : RunsOnly history := by simp [RunsOnly, history]
  have hread : Coordinator.numbers.registry.read "alpha" "7" = [issue] := by decide
  obtain ⟨hlatest, habsent, hsnapshot, hget, -⟩ := slots_hold_latest_runs .numbers h
  have hl : IsLatest ((Desk.fresh .numbers).endedRuns history) "alpha" _ "7" :=
    ⟨List.mem_cons_self, rfl, rfl, by decide⟩
  have hbeta : ∀ run ∈ (Desk.fresh .numbers).endedRuns history,
      run.job.analyzer = "beta" → run.text? = none := by decide
  refine ⟨h, ?_, ((hget "alpha").1 _ _ hl).trans hread, ?_, (habsent "beta").mpr hbeta,
    (hget "beta").2 hbeta⟩
  · rw [← hread]
    exact (hlatest "alpha" _).mpr ⟨_, "7", hl, rfl⟩
  · rw [← hread]
    exact (hsnapshot "alpha" _).mpr ⟨_, "7", hl, rfl⟩

end LintDesk
