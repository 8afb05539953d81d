import Mathlib.Algebra.Order.BigOperators.Group.List
import Mathlib.Algebra.Order.Group.Nat
import LintDesk.Proofs.Actions
import LintDesk.Proofs.Registration
import LintDesk.Proofs.Traffic

/-! # What the triggers of a session come to

A session takes triggers, and runs commands while somebody waits. Whatever is done with it is
traffic at its desk: every operation comes down to requests, runs that start and runs that end. So
the books of the desk hold for the commands that a session runs, as its runner has written them
down.
-/

namespace LintDesk

variable {σ : Type}

namespace Timeline

variable {t : Timeline σ} {place delay : Nat} {ticket : Ticket} {result : Except Error Captured}
  {state : σ}

/-- The runs of a request are queued behind the others; their places are new. -/
theorem exists_queued_request (t : Timeline σ) (file : String) :
    ∃ new, (t.request file).queued = t.queued ++ new ∧ new.Nodup ∧
      ∀ place ∈ new, t.desk.jobs.length ≤ place ∧ place < (t.desk.request file).jobs.length := by
  refine ⟨_, rfl, List.nodup_range.map fun _ _ => Nat.add_left_cancel, fun place hplace => ?_⟩
  obtain ⟨k, hk, rfl⟩ := List.mem_map.mp hplace
  have hlt := List.mem_range.mp hk
  simp only [Desk.jobs, List.length_map]
  omega

theorem start_of_instant (h : t.desk.tickets[place]? = some ticket)
    (hrun : t.runner.run ticket.job.command t.state = ((result, 0), state)) :
    t.start place = { t with state := state, desk := t.desk.complete place result } := by
  simp only [start, h, hrun, if_true]

theorem start_of_delayed (h : t.desk.tickets[place]? = some ticket)
    (hrun : t.runner.run ticket.job.command t.state = ((result, delay + 1), state)) :
    t.start place =
      { t with
        state := state
        flights := t.flights ++ [⟨t.clock + (delay + 1), place, result⟩] } := by
  simp only [start, h, hrun, Nat.succ_ne_zero, if_false]

/-- A run that starts is written down, and starts as it would have started otherwise. -/
theorem record_start (h : t.desk.tickets[place]? = some ticket) (log : List CommandLine) :
    (t.record log).start place = (t.start place).record (log ++ [ticket.job.command]) := by
  have hrecord : (t.record log).desk.tickets[place]? = some ticket := h
  rcases hrun : t.runner.run ticket.job.command t.state with ⟨⟨result, _ | delay⟩, state⟩
  all_goals
    have hrun' := congrArg (fun r => (r.1, (r.2, log ++ [ticket.job.command]))) hrun
  · rw [start_of_instant h hrun, start_of_instant hrecord hrun']
    rfl
  · rw [start_of_delayed h hrun, start_of_delayed hrecord hrun']
    rfl

end Timeline

namespace Traffic

variable {c : Coordinator} {w : Traffic} {pending : List Nat} {ts : List Trigger}
  {t t' : Timeline σ} {u u' : List CommandLine → Timeline (σ × List CommandLine)}

/-! ## Timelines as traffic -/

/-- The traffic is what goes on in a timeline when the runs at some places, besides those that are
queued, are still to start. With every `log`, `u log` is the timeline as it goes on when its
commands are written down behind that log. -/
structure Mirrors (c : Coordinator) (w : Traffic) (t : Timeline σ)
    (u : List CommandLine → Timeline (σ × List CommandLine)) (pending : List Nat) : Prop where
  books : w.Books c
  /-- The commands that are written down are the ones in the books. -/
  twin : ∀ log, u log = t.record (log ++ w.executed)
  desk : t.desk = w.desk
  /-- The listener leaves nothing in the channel. -/
  channel : w.channel = []
  nodup : (pending ++ t.queued).Nodup
  unstarted : ∀ place ∈ pending ++ t.queued, place ∉ w.started
  bound : ∀ place ∈ pending ++ t.queued, place < w.desk.jobs.length
  flown : ∀ f ∈ t.flights, f.place ∈ w.started

/-- By some events the traffic comes to mirror a timeline; on the way requests are made for the
triggers `ts`. -/
def CatchesUp (c : Coordinator) (w : Traffic) (ts : List Trigger) (t : Timeline σ)
    (u : List CommandLine → Timeline (σ × List CommandLine)) (pending : List Nat) : Prop :=
  ∃ events, (w.after events).dispatched.map (·.2) = w.dispatched.map (·.2) ++ ts ∧
    (w.after events).Mirrors c t u pending

theorem Mirrors.flights_eq (h : w.Mirrors c t u pending) (log : List CommandLine) :
    (u log).flights = t.flights := by
  rw [h.twin log]
  rfl

theorem Mirrors.catchesUp (h : w.Mirrors c t u pending) : w.CatchesUp c [] t u pending :=
  ⟨[], (List.append_nil _).symm, h⟩

theorem CatchesUp.trans {ts' : List Trigger} {pending' : List Nat}
    (h : w.CatchesUp c ts t u pending)
    (hnext : ∀ w' : Traffic, w'.Mirrors c t u pending → w'.CatchesUp c ts' t' u' pending') :
    w.CatchesUp c (ts ++ ts') t' u' pending' := by
  obtain ⟨events, hts, hmirrors⟩ := h
  obtain ⟨events', hts', hmirrors'⟩ := hnext _ hmirrors
  refine ⟨events ++ events', ?_, ?_⟩
  · rw [after_append, hts', hts, List.append_assoc]
  · rw [after_append]
    exact hmirrors'

theorem mirrors_fresh (c : Coordinator) (store : Store) (runner : TimedRunner σ) (state : σ) :
    (fresh c store).Mirrors c { runner := runner, state := state, desk := .fresh c store }
      (Timeline.record { runner := runner, state := state, desk := .fresh c store }) [] where
  books := books_fresh c store
  twin log := by rw [fresh, List.append_nil]
  desk := rfl
  channel := rfl
  nodup := List.nodup_nil
  unstarted := nofun
  bound := nofun
  flown := nofun

/-- The runs of a new request are not among those that are waiting or have started. -/
theorem Mirrors.request {w' : Traffic} {file : String} (h : w.Mirrors c t u pending)
    (hbooks : w'.Books c) (hdesk : w'.desk = w.desk.request file) (hchannel : w'.channel = [])
    (hstarted : w'.started = w.started) (hexecuted : w'.executed = w.executed) :
    w'.Mirrors c (t.request file) (fun log => (u log).request file) pending := by
  obtain ⟨new, hqueued, hnew, hplaces⟩ := t.exists_queued_request file
  rw [h.desk, ← hdesk] at hplaces
  have happend : pending ++ (t.request file).queued = pending ++ t.queued ++ new := by
    rw [hqueued, List.append_assoc]
  refine ⟨hbooks, fun log => ?_, ?_, hchannel, ?_, ?_, ?_, ?_⟩
  · rw [h.twin log, hexecuted]
    rfl
  · rw [hdesk, ← h.desk]
    rfl
  · rw [happend]
    refine h.nodup.append hnew fun place hold hplace => ?_
    exact absurd (h.bound place hold) (Nat.not_lt.mpr (hplaces place hplace).1)
  · intro place hplace
    rw [hstarted]
    rw [happend] at hplace
    rcases List.mem_append.mp hplace with hold | hplace
    · exact h.unstarted place hold
    · exact fun hmem => absurd (h.books.bound place hmem) (Nat.not_lt.mpr (hplaces place hplace).1)
  · intro place hplace
    rw [happend] at hplace
    rcases List.mem_append.mp hplace with hold | hplace
    · rw [hdesk, Desk.jobs_request, List.length_append]
      exact Nat.lt_add_right _ (h.bound place hold)
    · exact (hplaces place hplace).2
  · intro f hf
    rw [hstarted]
    exact h.flown f hf

theorem start_of_new {place : Nat} {job : Job} (hjob : w.desk.jobs[place]? = some job)
    (hnew : place ∉ w.started) : w.start place =
      { w with started := w.started ++ [place], executed := w.executed ++ [job.command] } := by
  rw [start, hjob]
  exact if_neg hnew

/-- A run that has started is no longer pending. -/
theorem Mirrors.launch {place : Nat} {job : Job} (h : w.Mirrors c t u (place :: pending))
    (hjob : w.desk.jobs[place]? = some job)
    (htwin : ∀ log, u' log = t'.record (log ++ (w.executed ++ [job.command])))
    (hdesk : t'.desk = t.desk) (hqueued : t'.queued = t.queued)
    (hflights : ∀ f ∈ t'.flights, f ∈ t.flights ∨ f.place = place) :
    (w.start place).Mirrors c t' u' pending := by
  have hnew : place ∉ w.started := h.unstarted place List.mem_cons_self
  obtain ⟨hplace, hnodup⟩ := List.nodup_cons.mp h.nodup
  have hbooks := h.books.start place
  rw [start_of_new hjob hnew] at hbooks ⊢
  rw [← hqueued] at hplace hnodup
  refine ⟨hbooks, htwin, hdesk.trans h.desk, h.channel, hnodup, ?_, ?_, ?_⟩
  · intro p hp hmem
    rcases List.mem_append.mp hmem with hmem | hmem
    · exact h.unstarted p (List.mem_cons_of_mem _ (hqueued ▸ hp)) hmem
    · exact hplace (List.mem_singleton.mp hmem ▸ hp)
  · exact fun p hp => h.bound p (List.mem_cons_of_mem _ (hqueued ▸ hp))
  · intro f hf
    rcases hflights f hf with hf | hf
    · exact List.mem_append_left _ (h.flown f hf)
    · exact List.mem_append_right _ (List.mem_singleton.mpr hf)

theorem Mirrors.finish {place : Nat} {result : Except Error Captured}
    (h : w.Mirrors c t u pending) (hstarted : place ∈ w.started)
    (htwin : ∀ log, u' log = t'.record (log ++ w.executed))
    (hdesk : t'.desk = t.desk.complete place result) (hqueued : t'.queued = t.queued)
    (hflights : t'.flights ⊆ t.flights) : (w.finish place result).Mirrors c t' u' pending := by
  have hbooks := h.books.finish place result
  have hfinish : w.finish place result = { w with desk := w.desk.complete place result } :=
    if_pos hstarted
  rw [hfinish] at hbooks ⊢
  refine ⟨hbooks, htwin, ?_, h.channel, ?_, ?_, ?_, fun f hf => h.flown f (hflights hf)⟩
  · rw [hdesk, h.desk]
  · rw [hqueued]
    exact h.nodup
  · rw [hqueued]
    exact h.unstarted
  · rw [hqueued, Desk.jobs_complete]
    exact h.bound

/-- A run that takes no time ends when it starts. -/
theorem Mirrors.start {place : Nat} (h : w.Mirrors c t u (place :: pending)) :
    w.CatchesUp c [] (t.start place) (fun log => (u log).start place) pending := by
  have hlt : place < t.desk.tickets.length := by
    simpa [h.desk, Desk.jobs] using h.bound place List.mem_cons_self
  obtain ⟨ticket, hticket⟩ : ∃ ticket, t.desk.tickets[place]? = some ticket :=
    ⟨_, List.getElem?_eq_getElem hlt⟩
  have hjob : w.desk.jobs[place]? = some ticket.job := by simp [← h.desk, Desk.jobs, hticket]
  have hstart := start_of_new hjob (h.unstarted place List.mem_cons_self)
  have htwin : ∀ log, (u log).start place =
      (t.start place).record (log ++ (w.executed ++ [ticket.job.command])) := fun log => by
    rw [h.twin log, Timeline.record_start hticket, List.append_assoc]
  rcases hrun : t.runner.run ticket.job.command t.state with ⟨⟨result, _ | delay⟩, state⟩
  · have hinstant := Timeline.start_of_instant hticket hrun
    refine ⟨[.start place, .finish place result], by simp [Traffic.step], ?_⟩
    have hlaunch : (w.start place).Mirrors c { t with state := state }
        (fun log => Timeline.record { t with state := state }
          (log ++ (w.executed ++ [ticket.job.command]))) pending :=
      h.launch hjob (fun _ => rfl) rfl rfl (fun _ hf => .inl hf)
    refine hlaunch.finish ?_ (fun log => ?_) ?_ ?_ ?_
    · rw [hstart]
      exact List.mem_append_right _ List.mem_cons_self
    · rw [htwin, hstart]
    all_goals rw [hinstant]
    exact List.Subset.refl _
  · have hdelayed := Timeline.start_of_delayed hticket hrun
    refine ⟨[.start place], by simp [Traffic.step], h.launch hjob htwin ?_ ?_ (fun f hf => ?_)⟩
    · rw [hdelayed]
    · rw [hdelayed]
    · rw [hdelayed] at hf
      rcases List.mem_append.mp hf with hf | hf
      · exact .inl hf
      · rw [List.mem_singleton.mp hf]
        exact .inr rfl

/-- A run that is under way has started. -/
theorem Mirrors.land {f : Flight} (h : w.Mirrors c t u pending) (hf : f ∈ t.flights) :
    w.CatchesUp c [] (t.land f) (fun log => (u log).land f) pending := by
  refine ⟨[.finish f.place f.result], ?_, ?_⟩
  · simp [Traffic.step]
  · refine h.finish (h.flown f hf) (fun log => ?_) rfl rfl (List.filter_subset_self _)
    rw [h.twin log]
    rfl

/-! ## Waiting -/

theorem Mirrors.startAll {queue : List Nat} (h : w.Mirrors c t u queue) :
    w.CatchesUp c [] (queue.foldl Timeline.start t)
      (fun log => queue.foldl Timeline.start (u log)) [] := by
  -- What is left of the queue is pending.
  induction queue generalizing w t u with
  | nil => exact h.catchesUp
  | cons place queue ih => exact h.start.trans fun w' h' => ih h'

theorem Mirrors.startQueued (h : w.Mirrors c t u []) :
    w.CatchesUp c [] t.startQueued (fun log => (u log).startQueued) [] := by
  have hu : (fun log => (u log).startQueued) =
      fun log => t.queued.foldl Timeline.start { u log with queued := [] } := by
    funext log
    rw [h.twin log]
    rfl
  have hdequeued : w.Mirrors c { t with queued := [] } (fun log => { u log with queued := [] })
      t.queued := by
    have happend : t.queued ++ [] = t.queued := List.append_nil _
    refine ⟨h.books, fun log => ?_, h.desk, h.channel, ?_, ?_, ?_, h.flown⟩
    · rw [h.twin log]
      rfl
    · exact happend.symm ▸ h.nodup
    · exact happend.symm ▸ h.unstarted
    · exact happend.symm ▸ h.bound
  rw [hu]
  exact hdequeued.startAll

theorem Mirrors.landUntil (h : w.Mirrors c t u pending) {done : Timeline σ → Bool}
    {done' : Timeline (σ × List CommandLine) → Bool}
    (hdone : ∀ t log, done' (t.record log) = done t) (n : Nat) :
    w.CatchesUp c [] (t.landUntil done n) (fun log => (u log).landUntil done' n) pending := by
  induction n generalizing w t u with
  | zero => exact h.catchesUp
  | succ n ih =>
    -- With and without the log the same flight lands next, and the goal is reached at once.
    have hdone' : ∀ log, done' (u log) = done t := fun log => by rw [h.twin log, hdone]
    simp only [Timeline.landUntil, hdone', h.flights_eq]
    by_cases hnow : done t = true
    · simpa only [if_pos hnow] using h.catchesUp
    · simp only [if_neg hnow]
      cases hearliest : Timeline.earliest t.flights with
      | none => exact h.catchesUp
      | some f => exact (h.land (Timeline.mem_of_earliest hearliest)).trans fun w' h' => ih h'

theorem Mirrors.wait (h : w.Mirrors c t u []) (n : Nat) :
    w.CatchesUp c [] (t.wait n).2 (fun log => ((u log).wait n).2) [] := by
  have hdesk : ∀ log, (u log).desk = t.desk := fun log => by
    rw [h.twin log]
    rfl
  simp only [Timeline.wait, hdesk]
  cases t.desk.outcomes? n with
  | some outcomes => exact h.catchesUp
  | none =>
    refine h.startQueued.trans fun w' h' => ?_
    simp only [h'.flights_eq]
    exact h'.landUntil (fun _ _ => rfl) _

theorem Mirrors.clock (h : w.Mirrors c t u pending) (f : Nat → Nat) :
    w.Mirrors c { t with clock := f t.clock } (fun log => { u log with clock := f (u log).clock })
      pending where
  books := h.books
  twin log := by
    rw [h.twin log]
    rfl
  desk := h.desk
  channel := h.channel
  nodup := h.nodup
  unstarted := h.unstarted
  bound := h.bound
  flown := h.flown

theorem Mirrors.sleep (h : w.Mirrors c t u []) (time : Nat) :
    w.CatchesUp c [] (t.sleep time) (fun log => (u log).sleep time) [] := by
  have hclock : ∀ log, (u log).clock = t.clock := fun log => by
    rw [h.twin log]
    rfl
  simp only [Timeline.sleep, hclock]
  refine h.startQueued.trans fun w' h' => ?_
  simp only [h'.flights_eq]
  let past (τ : Type) (t' : Timeline τ) : Bool :=
    (Timeline.earliest t'.flights).all (t.clock + time < ·.due)
  have hpast : ∀ (t' : Timeline σ) log, past _ (t'.record log) = past σ t' := fun _ _ => rfl
  have hland := h'.landUntil hpast t.startQueued.flights.length
  refine hland.trans fun w'' h'' => ?_
  exact (h''.clock (max · (t.clock + time))).catchesUp

/-! ## Sessions -/

theorem Mirrors.handle (h : w.Mirrors c t u []) (trigger : Trigger) :
    w.CatchesUp c [trigger] (t.request trigger.path)
      (fun log => (u log).request trigger.path) [] := by
  refine ⟨[.handle trigger], ?_, ?_⟩
  · simp [Traffic.step, dispatch]
  · exact h.request (h.books.step (.handle trigger)) rfl h.channel rfl rfl

/-- A listener takes the triggers from the channel one by one. -/
theorem Mirrors.requestAll (h : w.Mirrors c t u []) (triggers : List Trigger) :
    w.CatchesUp c triggers (triggers.foldl (fun t trigger => t.request trigger.path) t)
      (fun log => triggers.foldl (fun t trigger => t.request trigger.path) (u log)) [] := by
  induction triggers generalizing w t u with
  | nil => exact h.catchesUp
  | cons trigger triggers ih =>
    have hfirst : w.CatchesUp c [trigger] (t.request trigger.path)
        (fun log => (u log).request trigger.path) [] := by
      have hafter : w.after [.send trigger, .receive] =
          { w.dispatch trigger with channel := [] } := by
        simp [Traffic.step, h.channel, dispatch]
      refine ⟨[.send trigger, .receive], ?_, ?_⟩
      · rw [hafter, dispatch, List.map_append]
        rfl
      · have hbooks := h.books.after [.send trigger, .receive]
        rw [hafter] at hbooks ⊢
        exact h.request hbooks rfl rfl rfl rfl
    exact hfirst.trans fun w' h' => ih h'

variable {s : Session σ} {v : List CommandLine → Session (σ × List CommandLine)}

theorem Mirrors.checkFiles (h : w.Mirrors c s.timeline (fun log => (v log).timeline) [])
    (root : String) (files : List String) :
    w.CatchesUp c (files.map .saved) (s.checkFiles root files).2.timeline
      (fun log => ((v log).checkFiles root files).2.timeline) [] := by
  induction files generalizing w s v with
  | nil => exact h.catchesUp
  | cons file files ih =>
    have hfile : w.CatchesUp c [.saved file] (s.checkFile root file).2.timeline
        (fun log => ((v log).checkFile root file).2.timeline) [] := by
      refine (h.handle (.saved file)).trans fun w' h' => ?_
      have hrequests : ∀ log, ((v log).handle (.saved file)).desk.requests =
          (s.handle (.saved file)).desk.requests := fun log =>
        congrArg (·.desk.requests) (h'.twin log)
      simp only [Session.checkFile, hrequests]
      exact h'.wait _
    exact hfile.trans fun w' h' => ih h'

theorem Mirrors.act (h : w.Mirrors c s.timeline (fun log => (v log).timeline) [])
    (a : Session.Action) :
    w.CatchesUp c a.triggers (s.act a).timeline (fun log => ((v log).act a).timeline) [] := by
  cases a with
  | handle trigger => exact h.handle trigger
  | listen triggers =>
    have hall := (h.requestAll triggers).trans fun w' h' => h'.startQueued
    rw [List.append_nil] at hall
    exact hall
  | wait n => exact h.wait n
  | sleep time => exact h.sleep time
  | check root files => exact h.checkFiles root files
  | write id ds =>
    refine ⟨[.write id ds], (List.append_nil _).symm, ?_⟩
    refine ⟨h.books.step (.write id ds), fun log => ?_, ?_, h.channel, h.nodup, h.unstarted,
      h.bound, h.flown⟩
    · exact congrArg (fun t => (Session.write ⟨t⟩ id ds).timeline) (h.twin log)
    · exact congrArg (·.write id ds) h.desk

/-- Whatever is done with a session, it comes down to traffic at its desk. -/
theorem Mirrors.follow (h : w.Mirrors c s.timeline (fun log => (v log).timeline) [])
    (actions : List Session.Action) :
    w.CatchesUp c (actions.flatMap (·.triggers)) (s.follow actions).timeline
      (fun log => ((v log).follow actions).timeline) [] := by
  induction actions generalizing w s v with
  | nil => exact h.catchesUp
  | cons a actions ih =>
    rw [List.flatMap_cons]
    exact (h.act a).trans fun w' h' => ih h'

end Traffic

/-! ## Every run comes to its end -/

namespace Timeline

variable {t : Timeline σ}

theorem flights_landUntil_subset (done : Timeline σ → Bool) (n : Nat) (t : Timeline σ) :
    (t.landUntil done n).flights ⊆ t.flights := by
  induction n generalizing t with
  | zero => exact List.Subset.refl _
  | succ n ih =>
    rw [landUntil]
    split
    · exact List.Subset.refl _
    · split
      · exact List.Subset.refl _
      · exact List.Subset.trans (ih _) (List.filter_subset_self _)

/-- Whoever sleeps long enough sees all runs end. -/
theorem Sound.exists_sleep_idle (h : t.Sound t.queued) : ∃ time, (t.sleep time).desk.Idle := by
  obtain ⟨-, -, hstart⟩ := h.startQueued
  let time := (t.startQueued.flights.map (·.due)).sum
  let past (t' : Timeline σ) : Bool := (earliest t'.flights).all (t.clock + time < ·.due)
  have hland : (t.startQueued.landUntil past t.startQueued.flights.length).flights = [] := by
    rcases landUntil_done past (Nat.le_refl t.startQueued.flights.length) with hpast | hnil
    · refine earliest_eq_none_iff.mp ?_
      cases hearliest : earliest (t.startQueued.landUntil past _).flights with
      | none => rfl
      | some f =>
        have hlate : t.clock + time < f.due := by simpa [past, hearliest] using hpast
        have hmem := flights_landUntil_subset past _ _ (mem_of_earliest hearliest)
        have hdue : f.due ≤ time := List.le_sum_of_mem (List.mem_map_of_mem hmem)
        omega
    · exact hnil
  obtain ⟨-, -, hsound⟩ := hstart.landUntil past t.startQueued.flights.length
  refine ⟨time, fun ticket hticket hopen => ?_⟩
  obtain ⟨place, hplace⟩ := List.mem_iff_getElem?.mp hticket
  obtain ⟨job, outcome⟩ := ticket
  obtain rfl : outcome = none := hopen
  exact hsound.ne_open hland place job hplace

end Timeline

namespace Session

variable {gate gate' : Gate} {settings : Settings} {runner : TimedRunner σ} {store : Store}
  {state state' : σ} {s : Session σ}

theorem exists_of_start (h : start gate settings runner store state = (.ok s, gate', state')) :
    ∃ c, Coordinator.ofSettings settings = .ok c ∧
      s = ⟨{ runner := runner, state := state', desk := .fresh c store }⟩ := by
  rw [start] at h
  split at h
  · cases h
  · split at h
    · cases h
    · next c hc =>
      cases h
      exact ⟨c, hc, rfl⟩

/-- What a session over a desk without requests does is traffic at the desk. -/
theorem exists_traffic_follow (c : Coordinator) (runner : TimedRunner σ) (store : Store) (state : σ)
    (actions : List Action) :
    let s : Session σ := ⟨{ runner := runner, state := state, desk := .fresh c store }⟩
    ∃ events, let w := (Traffic.fresh c store).after events
      w.Books c ∧ w.desk = (s.follow actions).desk ∧ w.channel = [] ∧
        w.dispatched.map (·.2) = actions.flatMap (·.triggers) ∧
        w.executed = s.executed actions ∧
        ∀ log, (s.record log).follow actions =
          (s.follow actions).record (log ++ s.executed actions) := by
  intro s
  have hfresh := Traffic.mirrors_fresh c store runner state
  obtain ⟨events, hts, hmirrors⟩ := Traffic.Mirrors.follow (s := s) (v := s.record) hfresh actions
  have htwin : ∀ log, (s.record log).follow actions =
      (s.follow actions).record (log ++ ((Traffic.fresh c store).after events).executed) :=
    fun log => congrArg Session.mk (hmirrors.twin log)
  have hexecuted : ((Traffic.fresh c store).after events).executed = s.executed actions := by
    rw [executed, htwin]
    rfl
  exact ⟨events, hmirrors.books, hmirrors.desk.symm, hmirrors.channel, hts, hexecuted,
    hexecuted ▸ htwin⟩

/-- A session runs no command that its triggers do not call for. -/
theorem executed_subset_due (h : start gate settings runner store state = (.ok s, gate', state'))
    (actions : List Action) : s.executed actions ⊆ settings.due (actions.flatMap (·.triggers)) := by
  obtain ⟨c, hc, rfl⟩ := exists_of_start h
  obtain ⟨events, hbooks, -, -, hts, hexecuted, -⟩ :=
    exists_traffic_follow c runner store state' actions
  rw [← hexecuted, ← hts, ← Coordinator.settings_of_ofSettings hc]
  exact fun command hcommand => hbooks.executed_perm.subset (List.mem_append_left _ hcommand)

end Session

/-- A desk takes its requests for the triggers that have come in, under the numbers from one, and
each command that is due has been run once or is outstanding. So it is for all that can happen at
the desk of a session, and for what the session does itself; and in the end all runs have ended. -/
theorem triggers_run_once {gate gate' : Gate} {settings : Settings} {runner : TimedRunner σ}
    {store : Store} {state state' : σ} {s : Session σ}
    (h : Session.start gate settings runner store state = (.ok s, gate', state')) :
    let fresh := Traffic.fresh s.desk.coordinator store
    (∀ events, let w := fresh.after events
      w.desk.requests = w.dispatched.length ∧
      w.dispatched.map (·.1) = List.range' 1 w.dispatched.length ∧
      (∃ received, Traffic.sent events = received ++ w.channel ∧
        Traffic.Mixture (Traffic.handled events) received (w.dispatched.map (·.2))) ∧
      (w.executed ++ w.commandsAt w.waiting).Perm (settings.due (w.dispatched.map (·.2))) ∧
      (w.desk.Idle → w.executed.Perm (settings.due (w.dispatched.map (·.2))))) ∧
    ∀ actions : List Session.Action, let ts := actions.flatMap (·.triggers)
      (∃ events, let w := fresh.after events
        w.desk = (s.follow actions).desk ∧ w.channel = [] ∧ w.dispatched.map (·.2) = ts ∧
        w.executed = s.executed actions) ∧
      ((s.follow actions).desk.Idle → (s.executed actions).Perm (settings.due ts)) ∧
      ∃ time, ((s.follow actions).sleep time).desk.Idle := by
  have hreachable : s.Reachable := Session.reachable_start (congrArg Prod.fst h)
  obtain ⟨c, hc, rfl⟩ := Session.exists_of_start h
  obtain rfl := Coordinator.settings_of_ofSettings hc
  refine ⟨fun events => ?_, fun actions => ?_⟩
  · have hbooks := Traffic.books_after_fresh c store events
    refine ⟨hbooks.requests, hbooks.numbers, Traffic.exists_received c store events,
      hbooks.executed_perm, hbooks.executed_perm_of_idle⟩
  · obtain ⟨events, hbooks, hdesk, hchannel, hts, hexecuted, -⟩ :=
      Session.exists_traffic_follow c runner store state' actions
    refine ⟨⟨events, hdesk, hchannel, hts, hexecuted⟩, fun hidle => ?_, ?_⟩
    · rw [← hdesk] at hidle
      rw [← hexecuted, ← hts]
      exact hbooks.executed_perm_of_idle hidle
    · exact (hreachable.follow actions).sound.exists_sleep_idle

/-- A runner that answers the probe, and takes its time over one of the files only. -/
def TimedRunner.oneSlow : TimedRunner Unit where
  run c s :=
    if c.args = ["-v"] then ((.ok ⟨"PHP 8", some 0⟩, 0), s)
    else if c.args = ["slow.php"] then ((.ok ⟨"3", some 0⟩, 4), s)
    else ((.ok ⟨"7", some 1⟩, 0), s)

/-- The analyzers of the small coordinator, set up without a rule to read their output by. -/
def Coordinator.unread : Coordinator where
  settings := numbers.settings
  registry := ⟨[("alpha", ⟨[]⟩), ("beta", ⟨[]⟩), ("gamma", ⟨[]⟩)]⟩
  distinct := by decide
  registered := by decide

/-- The runs of the first request end after those of the second one, and nobody waits for the third
one. -/
theorem triggers_run_once_oneSlow :
    let s : Session Unit := ⟨{ runner := .oneSlow, state := (), desk := .fresh .unread }⟩
    let actions : List Session.Action :=
      [.handle (.saved "slow.php"), .listen [.focused "fast.php", .saved "slow.php"], .wait 2,
        .sleep 9]
    Session.start ⟨.ofInterpreter "php", none⟩ Coordinator.unread.settings .oneSlow .empty () =
        (.ok s, ⟨.ofInterpreter "php", some none⟩, ()) ∧
      (s.follow actions).desk.Idle ∧
      (s.executed actions).Perm
        [⟨"php", ["slow.php"]⟩, ⟨"php", ["slow.php"]⟩, ⟨"php", ["fast.php"]⟩,
          ⟨"php", ["fast.php"]⟩, ⟨"php", ["slow.php"]⟩, ⟨"php", ["slow.php"]⟩] := by
  have hs : Session.start ⟨.ofInterpreter "php", none⟩ Coordinator.unread.settings .oneSlow .empty
      () = (.ok ⟨{ runner := .oneSlow, state := (), desk := .fresh .unread }⟩,
        ⟨.ofInterpreter "php", some none⟩, ()) := by rfl
  intro s actions
  have hidle : (s.follow actions).desk.Idle := by decide
  obtain ⟨-, hfollow⟩ := triggers_run_once hs
  obtain ⟨-, hperm, -⟩ := hfollow actions
  exact ⟨hs, hidle, hperm hidle⟩

end LintDesk
