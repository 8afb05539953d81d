import Mathlib.Data.List.Destutter
import LintDesk.Proofs.Desk

/-! # Analyzers do not interfere

All analyzers share one store and one counter of requests, and their runs end in any order. Still,
what happens to the slot of an analyzer, and what becomes of its runs, depends on its own runs and
on the plain writes to its own slot alone: the history can be replaced by those of its events that
are about the slot.
-/

namespace LintDesk

namespace StoreEvent

variable {registry : Registry} {s t : Store} {id : String}

/-- The stores at all moments while some events happen, the one before them included. -/
def moments (registry : Registry) (s : Store) : List StoreEvent → List Store
  | [] => [s]
  | e :: es => s :: moments registry (e.apply registry s) es

/-- What becomes of the runs that end while some events happen. -/
def verdicts (registry : Registry) (s : Store) : List StoreEvent → List (Job × Outcome)
  | [] => []
  | ended run :: es =>
      (run.job, (run.job.settle registry run.result s).1) ::
        verdicts registry ((ended run).apply registry s) es
  | written id ds :: es => verdicts registry ((written id ds).apply registry s) es

/-! ## One slot at a time -/

/-- What becomes of a run, and what it leaves in the slot of its analyzer, depends on this slot
alone. -/
theorem settle_congr (registry : Registry) {j : Job} (result : Except Error Captured)
    (h : s.slot? j.analyzer = t.slot? j.analyzer) :
    (j.settle registry result s).1 = (j.settle registry result t).1 ∧
      (j.settle registry result s).2.slot? j.analyzer =
        (j.settle registry result t).2.slot? j.analyzer := by
  have hseq : s.sequence j.analyzer = t.sequence j.analyzer := by simp [Store.sequence, h]
  rcases j.settle_cases registry result s with
    ⟨ht, e, he, hs⟩ | ⟨text, ht, hlt, hs⟩ | ⟨text, ht, hge, hs⟩
  · obtain ⟨e', he', hs'⟩ := Job.settle_of_failed ht registry t
    obtain rfl := Except.error.inj (he.symm.trans he')
    simp [hs, hs', h]
  · simp [hs, Job.settle_of_stale ht registry (hseq ▸ hlt), h]
  · simp [hs, Job.settle_of_current ht registry (hseq ▸ hge)]

theorem slot?_apply_congr (registry : Registry) {e : StoreEvent} (hid : e.target = id)
    (h : s.slot? id = t.slot? id) :
    (e.apply registry s).slot? id = (e.apply registry t).slot? id := by
  subst hid
  cases e with
  | ended run => exact (settle_congr registry run.result h).2
  | written k ds =>
    have h : s.slot? k = t.slot? k := h
    simp [apply, target, Store.slot?_set, Store.sequence, h]

/-- The verdicts on the runs of an analyzer need only the events of its slot. -/
theorem verdicts_filter (es : List StoreEvent) (h : s.slot? id = t.slot? id) :
    (verdicts registry s es).filter (·.1.analyzer == id) =
      verdicts registry t (es.filter (·.target == id)) := by
  induction es generalizing s t with
  | nil => rfl
  | cons e es ih =>
    by_cases hid : e.target = id
    · have hstep := ih (slot?_apply_congr registry hid h)
      cases e with
      | ended run =>
        have hid : run.job.analyzer = id := hid
        have ho := (settle_congr registry run.result (hid ▸ h)).1
        simp [verdicts, target, hid, hstep, ho]
      | written k ds =>
        have hid : k = id := hid
        simpa [verdicts, target, hid] using hstep
    · have hstep := ih ((slot?_apply_of_ne registry hid).trans h)
      cases e with
      | ended run =>
        have hid : run.job.analyzer ≠ id := hid
        simpa [verdicts, target, hid] using hstep
      | written k ds =>
        have hid : k ≠ id := hid
        simpa [verdicts, target, hid] using hstep

theorem verdicts_append (es fs : List StoreEvent) : verdicts registry s (es ++ fs) =
    verdicts registry s es ++ verdicts registry (es.foldl (apply registry) s) fs := by
  induction es generalizing s with
  | nil => rfl
  | cons e es ih => cases e <;> simp [verdicts, ih]

theorem map_fst_verdicts (es : List StoreEvent) :
    (verdicts registry s es).map (·.1) = (es.filterMap run?).map (·.job) := by
  induction es generalizing s with
  | nil => rfl
  | cons e es ih => cases e <;> simp [verdicts, List.filterMap_cons, run?, ih]

end StoreEvent

namespace Desk

variable {d : Desk} {id : String}

/-- The desks at all moments of a history, the one before it included. -/
def moments (d : Desk) : List DeskEvent → List Desk
  | [] => [d]
  | e :: history => d :: (d.step e).moments history

/-- What a slot holds one after another in a history. -/
def contents (d : Desk) (id : String) (history : List DeskEvent) : List (Option Slot) :=
  ((d.moments history).map (·.store.slot? id)).destutter (· ≠ ·)

/-- What happens to the slot of an analyzer in a history: how its runs end, and the plain
writes. -/
def slotEvents (d : Desk) (id : String) (history : List DeskEvent) : List StoreEvent :=
  (d.storeEvents history).filter (·.target == id)

/-- The tickets of the runs of one analyzer, in the order of dispatch. -/
def ticketsOf (d : Desk) (id : String) : List Ticket :=
  d.tickets.filter (·.job.analyzer == id)

/-! ## The contents of a slot -/

theorem destutter_cons_cons_eq {α : Type} [DecidableEq α] (x y : α) (l : List α) :
    (x :: y :: l).destutter (· ≠ ·) =
      if x = y then (y :: l).destutter (· ≠ ·) else x :: (y :: l).destutter (· ≠ ·) := by
  by_cases h : x = y
  · simp [List.destutter_cons', h]
  · simp [List.destutter_cons', h]

theorem exists_moments_eq (d : Desk) (history : List DeskEvent) :
    ∃ ds, d.moments history = d :: ds := by
  cases history with
  | nil => exact ⟨_, rfl⟩
  | cons e history => exact ⟨_, rfl⟩

theorem contents_cons (d : Desk) (id : String) (e : DeskEvent) (history : List DeskEvent) :
    d.contents id (e :: history) =
      if d.store.slot? id = (d.step e).store.slot? id then (d.step e).contents id history
      else d.store.slot? id :: (d.step e).contents id history := by
  obtain ⟨ds, hds⟩ := (d.step e).exists_moments_eq history
  simp only [contents, moments, hds, List.map_cons]
  exact destutter_cons_cons_eq ..

/-- An event at a desk is about a slot, or it leaves the slot as it is. -/
theorem slot?_step_cases (d : Desk) (e : DeskEvent) (id : String) :
    (∃ se, se.target = id ∧ d.storeEvent? e = some se) ∨
      (d.storeEvent? e).toList.filter (·.target == id) = [] ∧
        (d.step e).store.slot? id = d.store.slot? id := by
  rw [store_step]
  cases hse : d.storeEvent? e with
  | none => exact .inr ⟨rfl, rfl⟩
  | some se =>
    by_cases hid : se.target = id
    · exact .inl ⟨se, hid, rfl⟩
    · exact .inr ⟨by simp [hid], StoreEvent.slot?_apply_of_ne _ hid⟩

/-- What a slot holds one after another is decided by the events of the slot. -/
theorem contents_eq {t : Store} (h : d.store.slot? id = t.slot? id) (history : List DeskEvent) :
    d.contents id history =
      ((StoreEvent.moments d.coordinator.registry t (d.slotEvents id history)).map
        (·.slot? id)).destutter (· ≠ ·) := by
  induction history generalizing d t with
  | nil => simp [contents, moments, slotEvents, StoreEvent.moments, h]
  | cons e history ih =>
    rw [contents_cons]
    rcases d.slot?_step_cases e id with ⟨se, hid, hse⟩ | ⟨hnil, hsame⟩
    · have hstep : (d.step e).store.slot? id =
          (se.apply d.coordinator.registry t).slot? id := by
        rw [store_step, hse]
        exact StoreEvent.slot?_apply_congr _ hid h
      have hevents : d.slotEvents id (e :: history) =
          se :: (d.step e).slotEvents id history := by
        simp [slotEvents, storeEvents, hse, hid]
      rw [ih hstep, hevents, StoreEvent.moments, List.map_cons, coordinator_step, hstep, h]
      cases hrest : (d.step e).slotEvents id history with
      | nil => exact (destutter_cons_cons_eq ..).symm
      | cons _ _ => exact (destutter_cons_cons_eq ..).symm
    · have hevents : d.slotEvents id (e :: history) = (d.step e).slotEvents id history := by
        simp [slotEvents, storeEvents, hnil]
      rw [if_pos hsame.symm, ih (hsame.trans h), hevents, coordinator_step]

/-! ## The verdicts on the runs -/

/-- The verdicts on the runs that end in a history, in the order in which they end. -/
def verdicts (d : Desk) (history : List DeskEvent) : List (Job × Outcome) :=
  StoreEvent.verdicts d.coordinator.registry d.store (d.storeEvents history)

theorem verdicts_append (d : Desk) (h₁ h₂ : List DeskEvent) :
    d.verdicts (h₁ ++ h₂) = d.verdicts h₁ ++ (d.after h₁).verdicts h₂ := by
  simp only [verdicts, storeEvents_append, StoreEvent.verdicts_append, coordinator_after,
    store_after]

@[simp] theorem verdicts_request (d : Desk) (file : String) : d.verdicts [.request file] = [] :=
  rfl

@[simp] theorem verdicts_write (d : Desk) (id : String) (ds : List Diagnostic) :
    d.verdicts [.write id ds] = [] := rfl

theorem verdicts_complete_of_open {place : Nat} {job : Job}
    (h : d.tickets[place]? = some ⟨job, none⟩) (result : Except Error Captured) :
    d.verdicts [.complete place result] =
      [(job, (job.settle d.coordinator.registry result d.store).1)] := by
  simp [verdicts, storeEvents, storeEvent?_complete_of_open h, StoreEvent.verdicts]

theorem verdicts_complete_of_not_open {place : Nat}
    (h : ∀ job, d.tickets[place]? ≠ some ⟨job, none⟩) (result : Except Error Captured) :
    d.verdicts [.complete place result] = [] := by
  simp [verdicts, storeEvents, storeEvent?_complete_of_not_open h, StoreEvent.verdicts]

theorem job_mem_of_mem_verdicts {history : List DeskEvent} {v : Job × Outcome}
    (h : v ∈ d.verdicts history) : v.1 ∈ (d.after history).jobs := by
  have hv := List.mem_map_of_mem (f := (·.1)) h
  rw [verdicts, StoreEvent.map_fst_verdicts] at hv
  obtain ⟨run, hrun, hjob⟩ := List.mem_map.mp hv
  exact hjob ▸ job_mem_of_mem_endedRuns hrun

/-- A ticket says what the verdict on its run is. -/
theorem outcome_eq_lookup (c : Coordinator) (store : Store) (history : List DeskEvent) {place : Nat}
    {ticket : Ticket}
    (h : ((fresh c store).after history).tickets[place]? = some ticket) :
    ticket.outcome = ((fresh c store).verdicts history).lookup ticket.job := by
  induction history using List.reverseRecOn generalizing place ticket with
  | nil => simp [fresh] at h
  | append_singleton history e ih =>
    have hsound := sound_after_fresh c store history
    rw [verdicts_append, List.lookup_append]
    rw [after_append] at h
    generalize hd : (fresh c store).after history = d at h ih hsound
    cases e with
    | write k ds =>
      rw [verdicts_write, List.lookup_nil, Option.or_none]
      exact ih h
    | request file =>
      rw [verdicts_request, List.lookup_nil, Option.or_none]
      rcases Nat.lt_or_ge place d.tickets.length with hlt | hge
      · rw [after_cons, after_nil, step, request, List.getElem?_append_left hlt] at h
        exact ih h
      · -- The job is a new one, and no run of it has ended.
        rw [after_cons, after_nil, step, request, List.getElem?_append_right hge,
          List.getElem?_map] at h
        obtain ⟨job, hjob, rfl⟩ := Option.map_eq_some_iff.mp h
        have hnew := Coordinator.sequence_of_mem_jobs (List.mem_of_getElem? hjob)
        refine (List.lookup_eq_none_iff.mpr fun v hv => ?_).symm
        have hold := hsound.numbered v.1 (hd ▸ job_mem_of_mem_verdicts hv)
        refine bne_iff_ne.mpr ?_
        rintro rfl
        omega
    | complete p result =>
      rw [after_cons, after_nil, step] at h
      rcases d.open_or_not p with ⟨job, hopen⟩ | hopen
      · rw [verdicts_complete_of_open hopen]
        by_cases hp : p = place
        · subst hp
          rw [tickets_complete_self hopen] at h
          obtain rfl := Option.some.inj h
          have hnone : ((fresh c store).verdicts history).lookup job = none := (ih hopen).symm
          simp [hnone]
        · have hold : d.tickets[place]? = some ticket := by
            rw [complete_of_open hopen] at h
            simpa [List.getElem?_set_ne hp] using h
          have hne : ticket.job ≠ job := fun e =>
            hp (hsound.place_unique hopen hold (by rw [e]))
          have hlast : [(job, (job.settle d.coordinator.registry result d.store).1)].lookup
              ticket.job = none := by simp [hne]
          rw [ih hold, hlast, Option.or_none]
      · rw [complete_of_not_open hopen] at h
        rw [verdicts_complete_of_not_open hopen, List.lookup_nil, Option.or_none]
        exact ih h

theorem tickets_eq_map_jobs (c : Coordinator) (store : Store) (history : List DeskEvent) :
    ((fresh c store).after history).tickets =
      (c.jobsFrom 0 (requestedFiles history)).map fun j =>
        ⟨j, ((fresh c store).verdicts history).lookup j⟩ := by
  have hjobs : c.jobsFrom 0 (requestedFiles history) = ((fresh c store).after history).jobs :=
    (jobs_after (fresh c store) history).symm
  rw [hjobs, jobs, List.map_map]
  refine List.ext_getElem? fun place => ?_
  rw [List.getElem?_map]
  cases h : ((fresh c store).after history).tickets[place]? with
  | none => rfl
  | some ticket =>
    have ho := outcome_eq_lookup c store history h
    simp [← ho]

theorem lookup_filter {id : String} {job : Job} (h : job.analyzer = id)
    (vs : List (Job × Outcome)) : (vs.filter (·.1.analyzer == id)).lookup job = vs.lookup job := by
  induction vs with
  | nil => rfl
  | cons v vs ih =>
    obtain ⟨j, o⟩ := v
    by_cases hj : job = j
    · subst hj
      simp [h]
    · have hj : (job == j) = false := beq_eq_false_iff_ne.mpr hj
      by_cases hid : j.analyzer = id <;> simp [List.lookup_cons, hid, hj, ih]

/-- What becomes of the runs of an analyzer is decided by the requests and by the events of its
slot. -/
theorem ticketsOf_eq {c : Coordinator} {store t : Store} (h : store.slot? id = t.slot? id)
    (history : List DeskEvent) : ((fresh c store).after history).ticketsOf id =
      ((c.jobsFrom 0 (requestedFiles history)).filter (·.analyzer == id)).map fun j =>
        ⟨j, (StoreEvent.verdicts c.registry t ((fresh c store).slotEvents id history)).lookup
          j⟩ := by
  rw [ticketsOf, tickets_eq_map_jobs, List.filter_map]
  refine List.map_congr_left fun j hj => ?_
  have hid : j.analyzer = id := by simpa using (List.mem_filter.mp hj).2
  rw [slotEvents, ← StoreEvent.verdicts_filter _ h, lookup_filter hid]
  rfl

/-! ## Analyzers that are not enabled -/

/-- Nothing but a plain write changes the slot of an analyzer that is not enabled. -/
theorem slot?_step_of_not_enabled (hd : d.Sound)
    (hid : ∀ a ∈ d.coordinator.enabled, a.id ≠ id) {e : DeskEvent} (he : ∀ ds, e ≠ .write id ds) :
    (d.step e).store.slot? id = d.store.slot? id := by
  rcases d.slot?_step_cases e id with ⟨se, htarget, hse⟩ | ⟨-, hsame⟩
  · cases e with
    | request file => cases hse
    | write k ds =>
      obtain rfl := Option.some.inj hse
      exact absurd (congrArg (DeskEvent.write · ds) htarget) (he ds)
    | complete place result =>
      rcases d.open_or_not place with ⟨job, hopen⟩ | hopen
      · rw [storeEvent?_complete_of_open hopen] at hse
        obtain rfl := Option.some.inj hse
        have hjob : job ∈ d.jobs := mem_jobs_of_getElem? hopen
        obtain ⟨a, ha, file, hja⟩ := hd.exists_analyzer hjob
        exact absurd ((congrArg Job.analyzer hja).trans htarget) (hid a ha)
      · rw [storeEvent?_complete_of_not_open hopen] at hse
        cases hse
  · exact hsame

end Desk

/-- Two histories with the same requests in which the runs of an analyzer end the same way, in the
same order among each other and the plain writes to its slot, cannot be told apart at its slot and
from what becomes of its runs, whatever the other analyzers and their slots do. The slot of an
analyzer that is not enabled changes by plain writes only. -/
theorem analyzers_isolated (c : Coordinator) (id : String) :
    (∀ (s₁ s₂ : Store) (h₁ h₂ : List DeskEvent), s₁.slot? id = s₂.slot? id →
      requestedFiles h₁ = requestedFiles h₂ →
      (Desk.fresh c s₁).slotEvents id h₁ = (Desk.fresh c s₂).slotEvents id h₂ →
      (Desk.fresh c s₁).contents id h₁ = (Desk.fresh c s₂).contents id h₂ ∧
        ((Desk.fresh c s₁).after h₁).ticketsOf id = ((Desk.fresh c s₂).after h₂).ticketsOf id) ∧
    ((∀ a ∈ c.enabled, a.id ≠ id) → ∀ (s : Store) (history : List DeskEvent) (e : DeskEvent),
      (∀ ds, e ≠ .write id ds) →
      ((Desk.fresh c s).after (history ++ [e])).store.slot? id =
        ((Desk.fresh c s).after history).store.slot? id) := by
  constructor
  · intro s₁ s₂ h₁ h₂ hslot hfiles hevents
    constructor
    · have hself : (Desk.fresh c s₂).store.slot? id = s₂.slot? id := rfl
      rw [Desk.contents_eq (d := .fresh c s₁) hslot, Desk.contents_eq hself, hevents]
      rfl
    · rw [Desk.ticketsOf_eq hslot h₁, Desk.ticketsOf_eq rfl h₂, hfiles, hevents]
  · intro hid s history e he
    rw [Desk.after_append]
    refine Desk.slot?_step_of_not_enabled (Desk.sound_after_fresh c s history) ?_ he
    rwa [Desk.coordinator_after_fresh]

/-- The other analyzer runs in time or too late, and its slot is written to or not. -/
theorem analyzers_isolated_numbers :
    let h₁ : List DeskEvent :=
      [.request "a.php", .request "b.php", .complete 1 (.ok ⟨"5", some 1⟩),
        .complete 2 (.ok ⟨"7", some 0⟩), .complete 0 (.ok ⟨"3", some 0⟩)]
    let h₂ : List DeskEvent :=
      [.request "a.php", .write "beta" [], .request "b.php", .complete 2 (.ok ⟨"7", some 0⟩),
        .complete 3 (.error (.timeout "php" 5)), .complete 0 (.ok ⟨"3", some 0⟩)]
    let d := Desk.fresh .numbers
    d.slotEvents "alpha" h₁ = d.slotEvents "alpha" h₂ ∧
      d.contents "alpha" h₁ = d.contents "alpha" h₂ ∧
      (d.after h₁).ticketsOf "alpha" = (d.after h₂).ticketsOf "alpha" ∧
      (∀ a ∈ Coordinator.numbers.enabled, a.id ≠ "gamma") ∧
      (d.after (h₁ ++ [.request "c.php"])).store.slot? "gamma" =
        (d.after h₁).store.slot? "gamma" := by
  intro h₁ h₂ d
  have hevents : d.slotEvents "alpha" h₁ = d.slotEvents "alpha" h₂ := by rfl
  have hgamma : ∀ a ∈ Coordinator.numbers.enabled, a.id ≠ "gamma" := by decide
  obtain ⟨hcontents, htickets⟩ :=
    (analyzers_isolated .numbers "alpha").1 .empty .empty h₁ h₂ rfl rfl hevents
  exact ⟨hevents, hcontents, htickets, hgamma,
    (analyzers_isolated .numbers "gamma").2 hgamma .empty h₁ (.request "c.php") nofun⟩

end LintDesk
