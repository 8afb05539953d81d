import Mathlib.Data.List.Induction
import Mathlib.Data.List.Nodup
import LintDesk.Session
import LintDesk.Proofs.Desk

/-! # Traffic at a desk

Triggers reach a desk in two ways: they are handled at once, or a listener takes them from a channel
where others have put them. The runs that they call for start at any later time and end at any time
after that, in any order, and whoever has asked for them may have gone. The books of the desk come
out even all the same: at every moment each command that is due has been run once or is outstanding.
-/

namespace LintDesk

/-- What can happen at a desk that is open to triggers. -/
inductive TrafficEvent where
  | handle (t : Trigger)
  /-- A trigger is put into the channel. -/
  | send (t : Trigger)
  /-- The listener takes the first trigger from the channel. -/
  | receive
  /-- The handle of a request is given up, because nobody waits for it any more. -/
  | release (sequence : Nat)
  /-- The run of the job with the given place starts. -/
  | start (place : Nat)
  /-- A run that has started ends. -/
  | finish (place : Nat) (result : Except Error Captured)
  | write (id : String) (ds : List Diagnostic)

/-- A desk with the triggers on their way to it and the books on what has been done for them. -/
structure Traffic where
  desk : Desk
  channel : List Trigger := []
  /-- The requests whose handles are kept; no run depends on them. -/
  handles : List Nat := []
  /-- The triggers that requests were made for, with the numbers of these. -/
  dispatched : List (Nat × Trigger) := []
  /-- The places of the jobs whose runs have started. -/
  started : List Nat := []
  /-- The commands that have been run. -/
  executed : List CommandLine := []

/-- The commands that some triggers call for: one for each of them and each enabled analyzer. -/
def Settings.due (s : Settings) (ts : List Trigger) : List CommandLine :=
  ts.flatMap fun t => (s.analyzers.filter (·.enabled)).map (·.materialize (s.context t.path))

/-- No run is waiting or under way. -/
def Desk.Idle (d : Desk) : Prop := ∀ ticket ∈ d.tickets, ticket.outcome ≠ none

instance (d : Desk) : Decidable d.Idle :=
  inferInstanceAs (Decidable (∀ ticket ∈ d.tickets, ticket.outcome ≠ none))

namespace Traffic

def fresh (c : Coordinator) (store : Store) : Traffic := { desk := .fresh c store }

/-- Makes a request for a trigger. -/
def dispatch (w : Traffic) (t : Trigger) : Traffic :=
  let desk := w.desk.request t.path
  { w with desk := desk, dispatched := w.dispatched ++ [(desk.requests, t)] }

/-- Starts the run of a job, unless it has been started. -/
def start (w : Traffic) (place : Nat) : Traffic :=
  match w.desk.jobs[place]? with
  | none => w
  | some job =>
      if place ∈ w.started then w
      else { w with started := w.started ++ [place], executed := w.executed ++ [job.command] }

/-- Ends the run of a job, if it has been started. -/
def finish (w : Traffic) (place : Nat) (result : Except Error Captured) : Traffic :=
  if place ∈ w.started then { w with desk := w.desk.complete place result } else w

def step (w : Traffic) : TrafficEvent → Traffic
  | .handle t =>
      let w := w.dispatch t
      { w with handles := w.desk.requests :: w.handles }
  | .send t => { w with channel := w.channel ++ [t] }
  | .receive =>
      match w.channel with
      | [] => w
      | t :: rest => { w.dispatch t with channel := rest }
  | .release n => { w with handles := w.handles.erase n }
  | .start place => w.start place
  | .finish place result => w.finish place result
  | .write id ds => { w with desk := w.desk.write id ds }

def after (w : Traffic) (events : List TrafficEvent) : Traffic := events.foldl step w

/-- The places of the jobs whose runs have not started. -/
def waiting (w : Traffic) : List Nat :=
  (List.range w.desk.jobs.length).filter (· ∉ w.started)

/-- The commands of the jobs at some places. -/
def commandsAt (w : Traffic) (places : List Nat) : List CommandLine :=
  places.filterMap fun place => (w.desk.jobs[place]?).map (·.command)

/-- The triggers that are handled in the course of some events. -/
def handled : List TrafficEvent → List Trigger
  | [] => []
  | .handle t :: events => t :: handled events
  | _ :: events => handled events

/-- The triggers that are put into the channel in the course of some events. -/
def sent : List TrafficEvent → List Trigger
  | [] => []
  | .send t :: events => t :: sent events
  | _ :: events => sent events

variable {c : Coordinator} {w : Traffic} {events : List TrafficEvent} {place : Nat}

@[simp] theorem after_nil (w : Traffic) : w.after [] = w := rfl

@[simp] theorem after_cons (w : Traffic) (e : TrafficEvent) (events : List TrafficEvent) :
    w.after (e :: events) = (w.step e).after events := rfl

theorem after_append (w : Traffic) (es fs : List TrafficEvent) :
    w.after (es ++ fs) = (w.after es).after fs := List.foldl_append

/-! ## No trigger is lost -/

theorem handled_append (es fs : List TrafficEvent) :
    handled (es ++ fs) = handled es ++ handled fs := by
  induction es with
  | nil => rfl
  | cons e es ih => cases e <;> simp [handled, ih]

theorem sent_append (es fs : List TrafficEvent) : sent (es ++ fs) = sent es ++ sent fs := by
  induction es with
  | nil => rfl
  | cons e es ih => cases e <;> simp [sent, ih]

/-- A list is filled from two others, each of which gives its triggers in their order. -/
inductive Mixture : List Trigger → List Trigger → List Trigger → Prop
  | nil : Mixture [] [] []
  | left {xs ys zs : List Trigger} (h : Mixture xs ys zs) (t : Trigger) :
      Mixture (xs ++ [t]) ys (zs ++ [t])
  | right {xs ys zs : List Trigger} (h : Mixture xs ys zs) (t : Trigger) :
      Mixture xs (ys ++ [t]) (zs ++ [t])

@[simp] theorem dispatched_start (w : Traffic) (place : Nat) :
    (w.start place).dispatched = w.dispatched := by
  rw [start]
  split
  · rfl
  · split <;> rfl

@[simp] theorem channel_start (w : Traffic) (place : Nat) :
    (w.start place).channel = w.channel := by
  rw [start]
  split
  · rfl
  · split <;> rfl

@[simp] theorem dispatched_finish (w : Traffic) (place : Nat) (result : Except Error Captured) :
    (w.finish place result).dispatched = w.dispatched := by
  rw [finish]
  split <;> rfl

@[simp] theorem channel_finish (w : Traffic) (place : Nat) (result : Except Error Captured) :
    (w.finish place result).channel = w.channel := by
  rw [finish]
  split <;> rfl

/-- The triggers that requests have been made for are those that were handled and those that the
channel has passed on, which are the first ones that were put into it. -/
theorem exists_received (c : Coordinator) (store : Store) (events : List TrafficEvent) :
    ∃ received, sent events = received ++ ((fresh c store).after events).channel ∧
      Mixture (handled events) received (((fresh c store).after events).dispatched.map (·.2)) := by
  induction events using List.reverseRecOn with
  | nil => exact ⟨[], rfl, .nil⟩
  | append_singleton events e ih =>
    obtain ⟨received, hsent, hmix⟩ := ih
    rw [after_append, handled_append, sent_append]
    generalize (fresh c store).after events = w at hsent hmix
    cases e with
    | handle t =>
      refine ⟨received, by simpa [sent, step, dispatch] using hsent, ?_⟩
      simpa [handled, step, dispatch] using hmix.left t
    | send t =>
      refine ⟨received, ?_, by simpa [handled, step] using hmix⟩
      simp [sent, step, hsent]
    | receive =>
      cases hchannel : w.channel with
      | nil =>
        rw [hchannel] at hsent
        refine ⟨received, by simpa [sent, step, hchannel] using hsent, ?_⟩
        simpa [handled, step, hchannel] using hmix
      | cons t rest =>
        rw [hchannel] at hsent
        refine ⟨received ++ [t], by simpa [sent, step, hchannel] using hsent, ?_⟩
        simpa [handled, step, hchannel, dispatch] using hmix.right t
    | release _ | start _ | finish _ _ | write _ _ =>
      exact ⟨received, by simpa [sent, step] using hsent, by simpa [handled, step] using hmix⟩

/-! ## The books -/

/-- What the books say at all times. -/
structure Books (c : Coordinator) (w : Traffic) : Prop where
  coordinator : w.desk.coordinator = c
  requests : w.desk.requests = w.dispatched.length
  numbers : w.dispatched.map (·.1) = List.range' 1 w.dispatched.length
  jobs : w.desk.jobs = w.dispatched.flatMap fun request => c.jobs request.1 request.2.path
  bound : ∀ place ∈ w.started, place < w.desk.jobs.length
  nodup : w.started.Nodup
  executed : w.executed = w.commandsAt w.started
  settled : ∀ place job o, w.desk.tickets[place]? = some ⟨job, some o⟩ → place ∈ w.started

theorem books_fresh (c : Coordinator) (store : Store) : (fresh c store).Books c where
  coordinator := rfl
  requests := rfl
  numbers := rfl
  jobs := rfl
  bound := nofun
  nodup := List.nodup_nil
  executed := rfl
  settled := nofun

/-- The commands of jobs that are there do not change when others come. -/
theorem commandsAt_dispatch (w : Traffic) (t : Trigger) {places : List Nat}
    (h : ∀ place ∈ places, place < w.desk.jobs.length) :
    (w.dispatch t).commandsAt places = w.commandsAt places := by
  refine List.filterMap_congr fun place hplace => ?_
  rw [dispatch, Desk.jobs_request, List.getElem?_append_left (h place hplace)]

theorem Books.dispatch (h : w.Books c) (t : Trigger) : (w.dispatch t).Books c where
  coordinator := h.coordinator
  requests := by
    rw [Traffic.dispatch, List.length_append, List.length_singleton, ← h.requests]
    rfl
  numbers := by
    rw [Traffic.dispatch, List.map_append, h.numbers, List.length_append, List.length_singleton,
      List.range'_concat, Nat.one_mul, ← h.requests, Nat.add_comm 1]
    rfl
  jobs := by
    rw [Traffic.dispatch, Desk.jobs_request, h.coordinator, h.jobs, List.flatMap_append,
      List.flatMap_singleton]
    rfl
  bound := by
    intro place hplace
    rw [Traffic.dispatch, Desk.jobs_request, List.length_append]
    exact Nat.lt_add_right _ (h.bound place hplace)
  nodup := h.nodup
  executed := h.executed.trans (commandsAt_dispatch w t h.bound).symm
  settled := by
    intro place job o hsettled
    rcases Nat.lt_or_ge place w.desk.tickets.length with hlt | hge
    · refine h.settled place job o ?_
      simpa [Traffic.dispatch, Desk.request, List.getElem?_append_left hlt] using hsettled
    · simp [Traffic.dispatch, Desk.request, List.getElem?_append_right hge] at hsettled

theorem Books.start (h : w.Books c) (place : Nat) : (w.start place).Books c := by
  rw [Traffic.start]
  split
  · exact h
  · next job hjob =>
    split
    · exact h
    · next hnew =>
      refine ⟨h.coordinator, h.requests, h.numbers, h.jobs, ?_, ?_, ?_, ?_⟩
      · intro p hp
        rcases List.mem_append.mp hp with hp | hp
        · exact h.bound p hp
        · rw [List.mem_singleton.mp hp]
          exact (List.getElem?_eq_some_iff.mp hjob).1
      · refine h.nodup.append (List.nodup_singleton _) fun p hp hlast => ?_
        rw [List.mem_singleton.mp hlast] at hp
        exact hnew hp
      · simp only [commandsAt, List.filterMap_append]
        rw [h.executed]
        simp [commandsAt, hjob]
      · intro p job' o hp
        exact List.mem_append_left _ (h.settled p job' o hp)

theorem Books.finish (h : w.Books c) (place : Nat) (result : Except Error Captured) :
    (w.finish place result).Books c := by
  rw [Traffic.finish]
  split
  · next hstarted =>
    refine ⟨?_, ?_, h.numbers, ?_, ?_, h.nodup, ?_, ?_⟩
    · exact (Desk.coordinator_step w.desk (.complete place result)).trans h.coordinator
    · exact (Desk.requests_complete ..).trans h.requests
    · exact (Desk.jobs_complete ..).trans h.jobs
    · simpa using h.bound
    · simpa [commandsAt] using h.executed
    · intro p job o hp
      rcases w.desk.open_or_not place with ⟨job', hopen⟩ | hopen
      · by_cases hne : place = p
        · exact hne ▸ hstarted
        · refine h.settled p job o ?_
          simpa [Desk.complete_of_open hopen, List.getElem?_set_ne hne] using hp
      · rw [Desk.complete_of_not_open hopen] at hp
        exact h.settled p job o hp
  · exact h

theorem Books.step (h : w.Books c) (e : TrafficEvent) : (w.step e).Books c := by
  cases e with
  | handle t =>
    have hd := h.dispatch t
    exact ⟨hd.coordinator, hd.requests, hd.numbers, hd.jobs, hd.bound, hd.nodup, hd.executed,
      hd.settled⟩
  | receive =>
    rw [Traffic.step]
    split
    · exact h
    · next t rest hchannel =>
      have hd := h.dispatch t
      exact ⟨hd.coordinator, hd.requests, hd.numbers, hd.jobs, hd.bound, hd.nodup, hd.executed,
        hd.settled⟩
  | start place => exact h.start place
  | finish place result => exact h.finish place result
  | send _ | release _ | write _ _ =>
    exact ⟨h.coordinator, h.requests, h.numbers, h.jobs, h.bound, h.nodup, h.executed, h.settled⟩

theorem Books.after (h : w.Books c) (events : List TrafficEvent) : (w.after events).Books c := by
  induction events generalizing w with
  | nil => exact h
  | cons e events ih => exact ih (h.step e)

theorem books_after_fresh (c : Coordinator) (store : Store) (events : List TrafficEvent) :
    ((fresh c store).after events).Books c := (books_fresh c store).after events

/-! ## Every command is run once -/

/-- The runs that have started and those that have not are all there are. -/
theorem Books.started_append_waiting_perm (h : w.Books c) :
    (w.started ++ w.waiting).Perm (List.range w.desk.jobs.length) := by
  have hdisjoint : List.Disjoint w.started w.waiting := fun place hstarted hwaiting => by
    simp [waiting, hstarted] at hwaiting
  have hnodup : (w.started ++ w.waiting).Nodup :=
    h.nodup.append (List.nodup_range.filter _) hdisjoint
  refine (List.perm_ext_iff_of_nodup hnodup List.nodup_range).mpr fun place => ?_
  rw [List.mem_append, waiting, List.mem_filter, List.mem_range]
  constructor
  · rintro (hstarted | ⟨hlt, -⟩)
    · exact h.bound place hstarted
    · exact hlt
  · intro hlt
    by_cases hstarted : place ∈ w.started
    · exact .inl hstarted
    · exact .inr ⟨hlt, by simpa using hstarted⟩

/-- All places in turn give the whole list. -/
theorem filterMap_range_getElem? {α β : Type} (f : α → β) (l : List α) :
    (List.range l.length).filterMap (fun i => l[i]?.map f) = l.map f := by
  induction l using List.reverseRecOn with
  | nil => rfl
  | append_singleton l a ih =>
    have hfront : (List.range l.length).filterMap (fun i => (l ++ [a])[i]?.map f) = l.map f := by
      rw [← ih]
      refine List.filterMap_congr fun i hi => ?_
      rw [List.getElem?_append_left (List.mem_range.mp hi)]
    rw [List.length_append, List.length_singleton, List.range_succ, List.filterMap_append, hfront]
    simp

theorem commandsAt_range (w : Traffic) :
    w.commandsAt (List.range w.desk.jobs.length) = w.desk.jobs.map (·.command) :=
  filterMap_range_getElem? Job.command w.desk.jobs

/-- The jobs of all requests have the commands that the triggers call for. -/
theorem Books.map_command_jobs (h : w.Books c) :
    w.desk.jobs.map (·.command) = c.settings.due (w.dispatched.map (·.2)) := by
  rw [h.jobs, List.map_flatMap, Settings.due, List.flatMap_map]
  refine List.flatMap_congr fun request _ => ?_
  rw [Coordinator.jobs_eq_map, List.map_map]
  rfl

/-- The commands that have been run and those that are outstanding are the ones that are due. -/
theorem Books.executed_perm (h : w.Books c) :
    (w.executed ++ w.commandsAt w.waiting).Perm (c.settings.due (w.dispatched.map (·.2))) := by
  calc w.executed ++ w.commandsAt w.waiting
      = w.commandsAt (w.started ++ w.waiting) := by
        rw [h.executed, commandsAt, commandsAt, commandsAt, List.filterMap_append]
    _ |>.Perm (w.commandsAt (List.range w.desk.jobs.length)) :=
        h.started_append_waiting_perm.filterMap _
    _ = c.settings.due (w.dispatched.map (·.2)) := by
        rw [commandsAt_range, h.map_command_jobs]

/-- When no run is waiting or under way nothing is outstanding. -/
theorem Books.waiting_eq_nil (h : w.Books c) (hidle : w.desk.Idle) : w.waiting = [] := by
  refine List.filter_eq_nil_iff.mpr fun place hplace => ?_
  have hlt : place < w.desk.tickets.length := by
    simpa [Desk.jobs] using List.mem_range.mp hplace
  have hticket := List.getElem?_eq_getElem hlt
  obtain ⟨o, ho⟩ := Option.ne_none_iff_exists'.mp (hidle _ (List.getElem_mem hlt))
  have hstarted := h.settled place w.desk.tickets[place].job o (by rw [hticket, ← ho])
  simpa using hstarted

theorem Books.executed_perm_of_idle (h : w.Books c) (hidle : w.desk.Idle) :
    w.executed.Perm (c.settings.due (w.dispatched.map (·.2))) := by
  have hperm := h.executed_perm
  rw [h.waiting_eq_nil hidle, commandsAt, List.filterMap_nil, List.append_nil] at hperm
  exact hperm

end Traffic
end LintDesk
