import Mathlib.Data.List.Nodup
import Mathlib.Data.List.Induction
import LintDesk.Desk
import LintDesk.Proofs.Store

/-! # Histories of a desk

A request leaves the store alone. All that the store sees of a history are the runs that come to
their end and the plain writes, in their order; the store after the history is what these events
make of the one before it. The tickets keep the books: every run of a job ends once at most, and no
two jobs belong to one analyzer and one request.
-/

namespace LintDesk

/-! ## Runs that have ended -/

/-- A run that has come to its end, with what it gave. -/
structure EndedRun where
  job : Job
  result : Except Error Captured

/-- The text of a run that exited with one of the codes accepted for its job. -/
def EndedRun.text? (r : EndedRun) : Option String :=
  match r.result with
  | .ok ⟨text, some code⟩ => if code ∈ r.job.exitCodes then some text else none
  | _ => none

theorem EndedRun.exists_code_of_text? {run : EndedRun} {text : String} (h : run.text? = some text) :
    ∃ code, run.result = .ok ⟨text, some code⟩ := by
  obtain ⟨job, result⟩ := run
  rcases result with e | ⟨out, _ | code⟩
  · cases h
  · cases h
  · simp only [text?] at h
    split at h
    · obtain rfl := Option.some.inj h
      exact ⟨code, rfl⟩
    · cases h

namespace Job

variable {j : Job} {result : Except Error Captured} {text : String}

/-- The analyzer and the request that a job belongs to. -/
def key (j : Job) : String × Nat := (j.analyzer, j.sequence)

theorem accepted_eq_ok_iff :
    j.accepted result = .ok text ↔ (EndedRun.mk j result).text? = some text := by
  rcases result with e | ⟨out, _ | code⟩
  · exact ⟨nofun, nofun⟩
  · exact ⟨nofun, nofun⟩
  · by_cases h : code ∈ j.exitCodes <;>
      simp [accepted, Except.bind, Captured.accept, EndedRun.text?, h]

theorem settle_of_failed (h : (EndedRun.mk j result).text? = none) (registry : Registry)
    (s : Store) : ∃ e, j.accepted result = .error e ∧
      j.settle registry result s = (.failed e.message, s) := by
  cases ha : j.accepted result with
  | error e => exact ⟨e, rfl, by simp [settle, ha]⟩
  | ok text => rw [accepted_eq_ok_iff.mp ha] at h; cases h

theorem settle_of_stale (h : (EndedRun.mk j result).text? = some text) (registry : Registry)
    {s : Store} (hs : j.sequence < s.sequence j.analyzer) :
    j.settle registry result s = (.superseded, s) := by
  simp [settle, accepted_eq_ok_iff.mpr h, Store.setIfNewer, hs]

theorem settle_of_current (h : (EndedRun.mk j result).text? = some text) (registry : Registry)
    {s : Store} (hs : s.sequence j.analyzer ≤ j.sequence) :
    j.settle registry result s =
      (.updated (registry.read j.analyzer text).length,
        s.put j.analyzer ⟨j.sequence, registry.read j.analyzer text⟩) := by
  simp [settle, accepted_eq_ok_iff.mpr h, Store.setIfNewer, Nat.not_lt.mpr hs]

/-- A run fails, comes too late, or counts; only in the last case the store changes. -/
theorem settle_cases (j : Job) (registry : Registry) (result : Except Error Captured) (s : Store) :
    ((EndedRun.mk j result).text? = none ∧ ∃ e, j.accepted result = .error e ∧
      j.settle registry result s = (.failed e.message, s)) ∨
    (∃ text, (EndedRun.mk j result).text? = some text ∧ j.sequence < s.sequence j.analyzer ∧
      j.settle registry result s = (.superseded, s)) ∨
    ∃ text, (EndedRun.mk j result).text? = some text ∧ s.sequence j.analyzer ≤ j.sequence ∧
      j.settle registry result s = (.updated (registry.read j.analyzer text).length,
        s.put j.analyzer ⟨j.sequence, registry.read j.analyzer text⟩) := by
  cases ht : (EndedRun.mk j result).text? with
  | none => exact .inl ⟨rfl, settle_of_failed ht registry s⟩
  | some text =>
    rcases Nat.lt_or_ge j.sequence (s.sequence j.analyzer) with hlt | hge
    · exact .inr (.inl ⟨text, rfl, hlt, settle_of_stale ht registry hlt⟩)
    · exact .inr (.inr ⟨text, rfl, hge, settle_of_current ht registry hge⟩)

end Job

/-! ## Events of the store -/

/-- What can change the store: a run comes to its end, or there is a plain write. -/
inductive StoreEvent where
  | ended (run : EndedRun)
  | written (id : String) (ds : List Diagnostic)

namespace StoreEvent

/-- The slot that an event is about. -/
def target : StoreEvent → String
  | ended run => run.job.analyzer
  | written id _ => id

def run? : StoreEvent → Option EndedRun
  | ended run => some run
  | written .. => none

/-- The store after an event. -/
def apply (registry : Registry) (s : Store) : StoreEvent → Store
  | ended run => (run.job.settle registry run.result s).2
  | written id ds => s.set id ds

variable {registry : Registry} {s : Store} {id : String}

/-- An event leaves the slots that it is not about alone. -/
theorem slot?_apply_of_ne (registry : Registry) {e : StoreEvent} (h : e.target ≠ id) :
    (e.apply registry s).slot? id = s.slot? id := by
  cases e with
  | written k ds => simp [apply, Store.slot?_set, show k ≠ id from h]
  | ended run =>
    obtain ⟨job, result⟩ := run
    rcases job.settle_cases registry result s with ⟨-, e, -, hs⟩ | ⟨_, -, -, hs⟩ | ⟨_, -, -, hs⟩
    · simp [apply, hs]
    · simp [apply, hs]
    · simp only [apply, hs]
      exact Store.slot?_put_of_ne _ _ h

/-- After any events the request of a slot is the newest one among those that the slot had before
and those whose runs have ended well. -/
theorem lt_sequence_foldl_iff {n : Nat} {es : List StoreEvent} :
    n < (es.foldl (apply registry) s).sequence id ↔ n < s.sequence id ∨
      ∃ run, ended run ∈ es ∧ run.text? ≠ none ∧ run.job.analyzer = id ∧ n < run.job.sequence := by
  induction es generalizing s with
  | nil => simp
  | cons e es ih =>
    rw [List.foldl_cons, ih]
    cases e with
    | written k ds => simp [apply]
    | ended run =>
      obtain ⟨job, result⟩ := run
      simp only [List.mem_cons, ended.injEq, or_and_right, exists_or, exists_eq_left, apply,
        ← or_assoc]
      refine or_congr_left ?_
      rcases job.settle_cases registry result s with
        ⟨ht, e, -, hs⟩ | ⟨text, ht, hlt, hs⟩ | ⟨text, ht, hge, hs⟩
      · simp [hs, ht]
      · simp only [hs, ht]
        grind
      · simp only [hs, ht, Store.sequence_put]
        grind

end StoreEvent

/-! ## What the store sees of a history -/

/-- The files that are asked for in a history. -/
def requestedFiles : List DeskEvent → List String
  | [] => []
  | .request file :: history => file :: requestedFiles history
  | _ :: history => requestedFiles history

/-- A history in which nothing happens but that runs end. -/
def CompletionsOnly (history : List DeskEvent) : Prop :=
  ∀ e ∈ history, ∃ place result, e = .complete place result

theorem CompletionsOnly.append {h₁ h₂ : List DeskEvent} (h : CompletionsOnly h₁)
    (h' : CompletionsOnly h₂) : CompletionsOnly (h₁ ++ h₂) := fun e he =>
  (List.mem_append.mp he).elim (h e) (h' e)

theorem CompletionsOnly.requestedFiles_eq {history : List DeskEvent} (h : CompletionsOnly history) :
    requestedFiles history = [] := by
  induction history with
  | nil => rfl
  | cons e history ih =>
    obtain ⟨place, result, rfl⟩ := h e List.mem_cons_self
    exact ih fun e he => h e (List.mem_cons_of_mem _ he)

namespace Desk

variable {d : Desk}

/-- What the store sees of an event at a desk. Only a run under way can come to its end. -/
def storeEvent? (d : Desk) : DeskEvent → Option StoreEvent
  | .request _ => none
  | .complete place result =>
      match d.tickets[place]? with
      | some ⟨job, none⟩ => some (.ended ⟨job, result⟩)
      | _ => none
  | .write id ds => some (.written id ds)

/-- What the store sees of a history. -/
def storeEvents (d : Desk) : List DeskEvent → List StoreEvent
  | [] => []
  | e :: history => (d.storeEvent? e).toList ++ (d.step e).storeEvents history

/-- The runs that come to their end in a history, in the order in which they do. -/
def endedRuns (d : Desk) (history : List DeskEvent) : List EndedRun :=
  (d.storeEvents history).filterMap StoreEvent.run?

@[simp] theorem after_nil (d : Desk) : d.after [] = d := rfl

@[simp] theorem after_cons (d : Desk) (e : DeskEvent) (history : List DeskEvent) :
    d.after (e :: history) = (d.step e).after history := rfl

theorem after_append (d : Desk) (h₁ h₂ : List DeskEvent) :
    d.after (h₁ ++ h₂) = (d.after h₁).after h₂ := List.foldl_append

@[simp] theorem storeEvents_nil (d : Desk) : d.storeEvents [] = [] := rfl

theorem storeEvents_append (d : Desk) (h₁ h₂ : List DeskEvent) :
    d.storeEvents (h₁ ++ h₂) = d.storeEvents h₁ ++ (d.after h₁).storeEvents h₂ := by
  induction h₁ generalizing d with
  | nil => rfl
  | cons e h₁ ih => simp [storeEvents, ih]

theorem endedRuns_append (d : Desk) (h₁ h₂ : List DeskEvent) :
    d.endedRuns (h₁ ++ h₂) = d.endedRuns h₁ ++ (d.after h₁).endedRuns h₂ := by
  simp [endedRuns, storeEvents_append]

@[simp] theorem endedRuns_nil (d : Desk) : d.endedRuns [] = [] := rfl

theorem ended_mem_storeEvents_iff {run : EndedRun} {history : List DeskEvent} :
    .ended run ∈ d.storeEvents history ↔ run ∈ d.endedRuns history := by
  simp only [endedRuns, List.mem_filterMap]
  refine ⟨fun h => ⟨_, h, rfl⟩, ?_⟩
  rintro ⟨_ | _, hmem, h⟩
  · cases h; exact hmem
  · cases h

/-! ## Single steps -/

theorem complete_of_open {place : Nat} {job : Job} (h : d.tickets[place]? = some ⟨job, none⟩)
    (result : Except Error Captured) : d.complete place result =
      { d with
        store := (job.settle d.coordinator.registry result d.store).2
        tickets := d.tickets.set place
          ⟨job, some (job.settle d.coordinator.registry result d.store).1⟩ } := by
  simp [complete, h]

theorem tickets_complete_self {place : Nat} {job : Job}
    (h : d.tickets[place]? = some ⟨job, none⟩) (result : Except Error Captured) :
    (d.complete place result).tickets[place]? =
      some ⟨job, some (job.settle d.coordinator.registry result d.store).1⟩ := by
  obtain ⟨hlt, -⟩ := List.getElem?_eq_some_iff.mp h
  simp [complete_of_open h, hlt]

theorem complete_of_not_open {place : Nat} (h : ∀ job, d.tickets[place]? ≠ some ⟨job, none⟩)
    (result : Except Error Captured) : d.complete place result = d := by
  unfold complete
  split
  · next job hj => exact absurd hj (h job)
  · rfl

theorem storeEvent?_complete_of_open {place : Nat} {job : Job}
    (h : d.tickets[place]? = some ⟨job, none⟩) (result : Except Error Captured) :
    d.storeEvent? (.complete place result) = some (.ended ⟨job, result⟩) := by
  simp [storeEvent?, h]

theorem storeEvent?_complete_of_not_open {place : Nat}
    (h : ∀ job, d.tickets[place]? ≠ some ⟨job, none⟩) (result : Except Error Captured) :
    d.storeEvent? (.complete place result) = none := by
  simp only [storeEvent?]

/-- At a place there is a run under way, or there is not. -/
theorem open_or_not (d : Desk) (place : Nat) :
    (∃ job, d.tickets[place]? = some ⟨job, none⟩) ∨
      ∀ job, d.tickets[place]? ≠ some ⟨job, none⟩ := by
  by_cases h : ∃ job, d.tickets[place]? = some ⟨job, none⟩
  · exact .inl h
  · exact .inr fun job hj => h ⟨job, hj⟩

@[simp] theorem coordinator_step (d : Desk) (e : DeskEvent) :
    (d.step e).coordinator = d.coordinator := by
  cases e with
  | request file => rfl
  | write id ds => rfl
  | complete place result =>
    rcases d.open_or_not place with ⟨job, h⟩ | h
    · simp [step, complete_of_open h]
    · simp [step, complete_of_not_open h]

@[simp] theorem coordinator_after (d : Desk) (history : List DeskEvent) :
    (d.after history).coordinator = d.coordinator := by
  induction history generalizing d with
  | nil => rfl
  | cons e history ih => rw [after_cons, ih, coordinator_step]

@[simp] theorem coordinator_after_fresh (c : Coordinator) (store : Store)
    (history : List DeskEvent) : ((fresh c store).after history).coordinator = c :=
  coordinator_after _ _

theorem store_step (d : Desk) (e : DeskEvent) : (d.step e).store =
    (d.storeEvent? e).toList.foldl (StoreEvent.apply d.coordinator.registry) d.store := by
  cases e with
  | request file => rfl
  | write id ds => rfl
  | complete place result =>
    rcases d.open_or_not place with ⟨job, h⟩ | h
    · simp [step, complete_of_open h, storeEvent?_complete_of_open h, StoreEvent.apply]
    · simp [step, complete_of_not_open h, storeEvent?_complete_of_not_open h]

/-- The store after a history is what the events that it sees make of it. -/
theorem store_after (d : Desk) (history : List DeskEvent) : (d.after history).store =
    (d.storeEvents history).foldl (StoreEvent.apply d.coordinator.registry) d.store := by
  induction history generalizing d with
  | nil => rfl
  | cons e history ih =>
    rw [after_cons, ih, coordinator_step, store_step, storeEvents, List.foldl_append]

end Desk

/-! ## The jobs of requests -/

namespace Coordinator

theorem nodup_enabled_ids (c : Coordinator) : (c.enabled.map (·.id)).Nodup :=
  c.distinct.sublist (List.filter_sublist.map _)

theorem enabled_inj {c : Coordinator} {a b : Analyzer} (ha : a ∈ c.enabled) (hb : b ∈ c.enabled)
    (h : a.id = b.id) : a = b := List.inj_on_of_nodup_map c.nodup_enabled_ids ha hb h

theorem mem_jobs_iff {c : Coordinator} {n : Nat} {file : String} {j : Job} :
    j ∈ c.jobs n file ↔ ∃ a ∈ c.enabled, c.job n file a = j := by
  rw [jobs_eq_map, List.mem_map]

theorem sequence_of_mem_jobs {c : Coordinator} {n : Nat} {file : String} {j : Job}
    (h : j ∈ c.jobs n file) : j.sequence = n := by
  obtain ⟨a, -, rfl⟩ := mem_jobs_iff.mp h
  rfl

theorem nodup_keys_jobs (c : Coordinator) (n : Nat) (file : String) :
    ((c.jobs n file).map Job.key).Nodup := by
  have h : (c.jobs n file).map Job.key = (c.enabled.map (·.id)).map fun id => (id, n) := by
    simp [jobs_eq_map, job, Job.key, Function.comp_def]
  rw [h]
  exact c.nodup_enabled_ids.map fun _ _ h => congrArg Prod.fst h

/-- The jobs of requests for some files, the first of which has the number `n + 1`. -/
def jobsFrom (c : Coordinator) (n : Nat) : List String → List Job
  | [] => []
  | file :: files => c.jobs (n + 1) file ++ c.jobsFrom (n + 1) files

/-- For each file there is the command of each enabled analyzer, filled in for this file. -/
theorem mem_jobsFrom_iff {c : Coordinator} {n : Nat} {files : List String} {j : Job} :
    j ∈ c.jobsFrom n files ↔ ∃ (i : Nat) (file : String), files[i]? = some file ∧
      ∃ a ∈ c.enabled,
        j = ⟨a.id, n + i + 1, a.exitCodes, a.materialize (c.settings.context file)⟩ := by
  induction files generalizing n with
  | nil => simp [jobsFrom]
  | cons file files ih =>
    have hindex (i : Nat) : n + (i + 1) + 1 = n + 1 + i + 1 := by omega
    rw [jobsFrom, List.mem_append, mem_jobs_iff, ih]
    constructor
    · rintro (⟨a, ha, rfl⟩ | ⟨i, other, hother, a, ha, rfl⟩)
      · exact ⟨0, file, rfl, a, ha, rfl⟩
      · exact ⟨i + 1, other, hother, a, ha, by rw [hindex]⟩
    · rintro ⟨i, other, hother, a, ha, rfl⟩
      cases i with
      | zero =>
        obtain rfl : file = other := Option.some.inj hother
        exact .inl ⟨a, ha, rfl⟩
      | succ i => exact .inr ⟨i, other, hother, a, ha, by rw [hindex]⟩

end Coordinator

namespace Desk

variable {d : Desk}

/-- The jobs that have been dispatched, in the order of their dispatch. -/
def jobs (d : Desk) : List Job := d.tickets.map (·.job)

theorem mem_jobs_of_getElem? {place : Nat} {ticket : Ticket}
    (h : d.tickets[place]? = some ticket) : ticket.job ∈ d.jobs :=
  List.mem_map_of_mem (List.mem_of_getElem? h)

theorem jobs_request (d : Desk) (file : String) :
    (d.request file).jobs = d.jobs ++ d.coordinator.jobs (d.requests + 1) file := by
  simp [jobs, request, Function.comp_def]

@[simp] theorem jobs_complete (d : Desk) (place : Nat) (result : Except Error Captured) :
    (d.complete place result).jobs = d.jobs := by
  rcases d.open_or_not place with ⟨job, h⟩ | h
  · obtain ⟨hlt, hget⟩ := List.getElem?_eq_some_iff.mp h
    refine List.ext_getElem? fun i => ?_
    simp only [complete_of_open h, jobs, List.getElem?_map, List.getElem?_set]
    split
    · next e => subst e; simp [hlt, hget]
    · rfl
  · rw [complete_of_not_open h]

@[simp] theorem requests_complete (d : Desk) (place : Nat) (result : Except Error Captured) :
    (d.complete place result).requests = d.requests := by
  rcases d.open_or_not place with ⟨job, h⟩ | h
  · rw [complete_of_open h]
  · rw [complete_of_not_open h]

/-- The jobs after a history are those of its requests, whatever else has happened. -/
theorem jobs_after (d : Desk) (history : List DeskEvent) : (d.after history).jobs =
    d.jobs ++ d.coordinator.jobsFrom d.requests (requestedFiles history) := by
  induction history generalizing d with
  | nil => simp [requestedFiles, Coordinator.jobsFrom]
  | cons e history ih =>
    rw [after_cons, ih, coordinator_step]
    cases e with
    | request file =>
      rw [requestedFiles, Coordinator.jobsFrom, ← List.append_assoc, ← jobs_request]
      rfl
    | complete place result => simp [step, requestedFiles]
    | write id ds => rfl

theorem requests_after (d : Desk) (history : List DeskEvent) :
    (d.after history).requests = d.requests + (requestedFiles history).length := by
  induction history generalizing d with
  | nil => rfl
  | cons e history ih =>
    rw [after_cons, ih]
    cases e with
    | request file => exact (Nat.add_right_comm d.requests 1 _).trans rfl
    | complete place result => simp [step, requestedFiles]
    | write id ds => rfl

/-- No request is taken while nothing happens but that runs end. -/
theorem requests_after_completions (d : Desk) {history : List DeskEvent}
    (h : CompletionsOnly history) : (d.after history).requests = d.requests := by
  rw [requests_after, h.requestedFiles_eq, List.length_nil, Nat.add_zero]

/-- What holds of the jobs of every desk: each is one of its coordinator's jobs for a request that
has been taken, and no two belong to one analyzer and one request. -/
structure Sound (d : Desk) : Prop where
  issued : ∀ j ∈ d.jobs, ∃ file, j ∈ d.coordinator.jobs j.sequence file
  numbered : ∀ j ∈ d.jobs, 0 < j.sequence ∧ j.sequence ≤ d.requests
  keys : (d.jobs.map Job.key).Nodup

theorem sound_fresh (c : Coordinator) (store : Store) : (fresh c store).Sound where
  issued := nofun
  numbered := nofun
  keys := List.nodup_nil

theorem Sound.request (h : d.Sound) (file : String) : (d.request file).Sound where
  issued := by
    intro j hj
    rw [jobs_request] at hj
    rcases List.mem_append.mp hj with hj | hj
    · exact h.issued j hj
    · exact ⟨file, (Coordinator.sequence_of_mem_jobs hj).symm ▸ hj⟩
  numbered := by
    intro j hj
    rw [jobs_request] at hj
    rcases List.mem_append.mp hj with hj | hj
    · exact ⟨(h.numbered j hj).1, Nat.le_succ_of_le (h.numbered j hj).2⟩
    · rw [Coordinator.sequence_of_mem_jobs hj]
      exact ⟨Nat.succ_pos _, Nat.le_refl _⟩
  keys := by
    rw [jobs_request, List.map_append]
    refine h.keys.append (d.coordinator.nodup_keys_jobs _ file) ?_
    rintro ⟨id, n⟩ hold hnew
    obtain ⟨i, hi, hik⟩ := List.mem_map.mp hold
    obtain ⟨j, hj, hjk⟩ := List.mem_map.mp hnew
    -- The new jobs have a number that no earlier job has.
    have hle := (h.numbered i hi).2
    have hn := Coordinator.sequence_of_mem_jobs hj
    have hin : i.sequence = n := congrArg Prod.snd hik
    have hjn : j.sequence = n := congrArg Prod.snd hjk
    omega

theorem Sound.complete (h : d.Sound) (place : Nat) (result : Except Error Captured) :
    (d.complete place result).Sound where
  issued := by
    rw [jobs_complete]
    intro j hj
    rw [show (d.complete place result).coordinator = d.coordinator from
      coordinator_step d (.complete place result)]
    exact h.issued j hj
  numbered := by rw [jobs_complete, requests_complete]; exact h.numbered
  keys := by rw [jobs_complete]; exact h.keys

theorem Sound.step (h : d.Sound) (e : DeskEvent) : (d.step e).Sound := by
  cases e with
  | request file => exact h.request file
  | complete place result => exact h.complete place result
  | write id ds => exact ⟨h.issued, h.numbered, h.keys⟩

theorem Sound.after (h : d.Sound) (history : List DeskEvent) : (d.after history).Sound := by
  induction history generalizing d with
  | nil => exact h
  | cons e history ih => exact ih (h.step e)

theorem sound_after_fresh (c : Coordinator) (store : Store) (history : List DeskEvent) :
    ((fresh c store).after history).Sound := (sound_fresh c store).after history

theorem Sound.exists_analyzer (h : d.Sound) {j : Job} (hj : j ∈ d.jobs) :
    ∃ a ∈ d.coordinator.enabled, ∃ file, d.coordinator.job j.sequence file a = j := by
  obtain ⟨file, hfile⟩ := h.issued j hj
  obtain ⟨a, ha, hja⟩ := Coordinator.mem_jobs_iff.mp hfile
  exact ⟨a, ha, file, hja⟩

/-- A job goes by the exit codes of its own analyzer. -/
theorem Sound.exitCodes_eq (h : d.Sound) {j : Job} (hj : j ∈ d.jobs) {a : Analyzer}
    (ha : a ∈ d.coordinator.enabled) (hid : j.analyzer = a.id) : j.exitCodes = a.exitCodes := by
  obtain ⟨b, hb, file, hjb⟩ := h.exists_analyzer hj
  obtain rfl := Coordinator.enabled_inj hb ha ((congrArg Job.analyzer hjb).trans hid)
  exact (congrArg Job.exitCodes hjb).symm

/-- A job is at one place only. -/
theorem Sound.place_unique (h : d.Sound) {p q : Nat} {t u : Ticket}
    (hp : d.tickets[p]? = some t) (hq : d.tickets[q]? = some u) (hjob : t.job.key = u.job.key) :
    p = q := by
  have hp' : (d.jobs.map Job.key)[p]? = some t.job.key := by simp [jobs, hp]
  have hq' : (d.jobs.map Job.key)[q]? = some t.job.key := by simp [jobs, hq, hjob]
  obtain ⟨hlt, -⟩ := List.getElem?_eq_some_iff.mp hp'
  exact (List.getElem?_inj hlt h.keys).mp (hp'.trans hq'.symm)

/-- What has been settled stays settled. -/
theorem settled_after {place : Nat} {job : Job} {o : Outcome}
    (h : d.tickets[place]? = some ⟨job, some o⟩) (history : List DeskEvent) :
    (d.after history).tickets[place]? = some ⟨job, some o⟩ := by
  induction history generalizing d with
  | nil => exact h
  | cons e history ih =>
    refine ih ?_
    obtain ⟨hlt, -⟩ := List.getElem?_eq_some_iff.mp h
    cases e with
    | request file => simpa [step, Desk.request, List.getElem?_append_left hlt] using h
    | write id ds => exact h
    | complete p result =>
      rcases d.open_or_not p with ⟨job', hp⟩ | hp
      · have hne : p ≠ place := by
          rintro rfl
          rw [hp] at h
          cases h
        simpa [step, complete_of_open hp, List.getElem?_set_ne hne] using h
      · rwa [step, complete_of_not_open hp]

/-! ## Every run ends once -/

@[simp] theorem endedRuns_request (d : Desk) (file : String) :
    d.endedRuns [.request file] = [] := rfl

@[simp] theorem endedRuns_write (d : Desk) (id : String) (ds : List Diagnostic) :
    d.endedRuns [.write id ds] = [] := rfl

theorem endedRuns_complete_of_open {place : Nat} {job : Job}
    (h : d.tickets[place]? = some ⟨job, none⟩) (result : Except Error Captured) :
    d.endedRuns [.complete place result] = [⟨job, result⟩] := by
  simp [endedRuns, storeEvents, storeEvent?_complete_of_open h, StoreEvent.run?]

theorem endedRuns_complete_of_not_open {place : Nat}
    (h : ∀ job, d.tickets[place]? ≠ some ⟨job, none⟩) (result : Except Error Captured) :
    d.endedRuns [.complete place result] = [] := by
  simp [endedRuns, storeEvents, storeEvent?_complete_of_not_open h]

theorem settled_of_mem_endedRuns {history : List DeskEvent} {run : EndedRun}
    (h : run ∈ d.endedRuns history) :
    ∃ (place : Nat) (o : Outcome), (d.after history).tickets[place]? = some ⟨run.job, some o⟩ := by
  induction history generalizing d with
  | nil => cases h
  | cons e history ih =>
    rw [← List.singleton_append, endedRuns_append] at h
    rcases List.mem_append.mp h with h | h
    · cases e with
      | request file => cases h
      | write id ds => cases h
      | complete place result =>
        rcases d.open_or_not place with ⟨job, hopen⟩ | hopen
        · rw [endedRuns_complete_of_open hopen] at h
          obtain rfl := List.mem_singleton.mp h
          exact ⟨place, _, settled_after (tickets_complete_self hopen result) history⟩
        · rw [endedRuns_complete_of_not_open hopen] at h
          cases h
    · exact ih h

theorem job_mem_of_mem_endedRuns {history : List DeskEvent} {run : EndedRun}
    (h : run ∈ d.endedRuns history) : run.job ∈ (d.after history).jobs := by
  obtain ⟨place, o, hget⟩ := settled_of_mem_endedRuns h
  exact mem_jobs_of_getElem? hget

theorem Sound.nodup_endedRuns (hd : d.Sound) (history : List DeskEvent) :
    ((d.endedRuns history).map (·.job.key)).Nodup := by
  induction history using List.reverseRecOn with
  | nil => exact List.nodup_nil
  | append_singleton history e ih =>
    rw [endedRuns_append, List.map_append]
    cases e with
    | request file => simpa using ih
    | write id ds => simpa using ih
    | complete place result =>
      rcases (d.after history).open_or_not place with ⟨job, hopen⟩ | hopen
      · rw [endedRuns_complete_of_open hopen]
        refine ih.append (List.nodup_singleton _) ?_
        -- A run that ended before has a settled ticket, and the one that ends now has not.
        intro key hold hnew
        obtain rfl := List.mem_singleton.mp hnew
        obtain ⟨run, hrun, hkey⟩ := List.mem_map.mp hold
        obtain ⟨p, o, hp⟩ := settled_of_mem_endedRuns hrun
        obtain rfl := (hd.after history).place_unique hp hopen hkey
        rw [hopen] at hp
        cases hp
      · rw [endedRuns_complete_of_not_open hopen]
        simpa using ih

/-- There is one run at most for an analyzer and a request. -/
theorem Sound.endedRuns_unique (hd : d.Sound) {history : List DeskEvent} {r s : EndedRun}
    (hr : r ∈ d.endedRuns history) (hs : s ∈ d.endedRuns history) (h : r.job.key = s.job.key) :
    r = s :=
  List.inj_on_of_nodup_map (hd.nodup_endedRuns history) hr hs h

end Desk

/-! ## A small coordinator -/

/-- A rule that takes a number for the line of an issue. -/
def numberRule : CompiledRule where
  regex := ⟨.group 1 (some "line") (.rep (.set ⟨[(48, 57)]⟩) 1 none true)⟩
  message := "issue"
  severity := none

/-- Two analyzers that print the numbers of bad lines, and a third one that is not enabled. -/
def Coordinator.numbers : Coordinator where
  settings :=
    { interpreter := "php"
      vendor := "/vendor"
      analyzers := [
        { id := "alpha", name := "Alpha", args := [Analyzer.fileHole] },
        { id := "beta", name := "Beta", args := [Analyzer.fileHole], exitCodes := [0, 1] },
        { id := "gamma", name := "Gamma", args := [Analyzer.fileHole], enabled := false }] }
  registry :=
    ⟨[("alpha", ⟨[numberRule]⟩), ("beta", ⟨[numberRule]⟩), ("gamma", ⟨[numberRule]⟩)]⟩
  distinct := by decide
  registered := by decide

end LintDesk
