import LintDesk.Check
import LintDesk.Proofs.Desk

/-! # Runs come to their end

A run that has not ended is queued or under way, at every moment of a session. So whoever waits for
a request sees all of its runs end, and what else changes meanwhile is that older runs end, too.
-/

namespace LintDesk

namespace Desk

variable {d : Desk} {place p : Nat} {job : Job} {result : Except Error Captured}

/-- When a run has ended, the other runs under way are those from before. -/
theorem open_of_open_complete (h : (d.complete place result).tickets[p]? = some ⟨job, none⟩) :
    d.tickets[p]? = some ⟨job, none⟩ ∧ p ≠ place := by
  rcases d.open_or_not place with ⟨job', hopen⟩ | hopen
  · by_cases hp : p = place
    · subst hp
      rw [tickets_complete_self hopen] at h
      cases h
    · rw [complete_of_open hopen] at h
      exact ⟨by simpa [List.getElem?_set_ne (Ne.symm hp)] using h, hp⟩
  · rw [complete_of_not_open hopen] at h
    refine ⟨h, ?_⟩
    rintro rfl
    exact hopen job h

theorem getElem?_jobs_request (file : String) (h : d.jobs[p]? = some job) :
    (d.request file).jobs[p]? = some job := by
  obtain ⟨hlt, -⟩ := List.getElem?_eq_some_iff.mp h
  rw [jobs_request, List.getElem?_append_left hlt, h]

theorem exists_outcomes (h : ∀ (p : Nat) (job : Job), d.tickets[p]? ≠ some ⟨job, none⟩) (n : Nat) :
    ∃ outcomes, d.outcomes? n = some outcomes := by
  have hall : ∀ ticket ∈ d.ofRequest n, ticket.outcome ≠ none := by
    rintro ⟨job, _ | o⟩ hmem
    · obtain ⟨p, hp⟩ := List.mem_iff_getElem?.mp (List.mem_filter.mp hmem).1
      exact absurd hp (h p job)
    · nofun
  rw [outcomes?]
  generalize d.ofRequest n = tickets at hall
  induction tickets with
  | nil => exact ⟨[], rfl⟩
  | cons ticket tickets ih =>
    obtain ⟨o, ho⟩ := Option.ne_none_iff_exists'.mp (hall ticket List.mem_cons_self)
    obtain ⟨os, hos⟩ := ih fun t ht => hall t (List.mem_cons_of_mem _ ht)
    exact ⟨(ticket.job.analyzer, o) :: os, by simp [ho, hos]⟩

end Desk

variable {σ : Type}

/-- What a runner may give for a command. -/
def TimedRunner.Gives (r : TimedRunner σ) (command : CommandLine)
    (result : Except Error Captured) : Prop := ∃ s, (r.run command s).1.1 = result

namespace Timeline

variable {t t' t'' : Timeline σ} {waiting : List Nat}

/-- What holds of the runs at all times, if those at some places are waiting for their start: all
other runs that have not ended are under way, and will give what the runner gave. -/
structure Sound (t : Timeline σ) (waiting : List Nat) : Prop where
  desk : t.desk.Sound
  covered : ∀ place job, t.desk.tickets[place]? = some ⟨job, none⟩ →
    place ∈ waiting ∨ ∃ f ∈ t.flights, f.place = place
  flown : ∀ f ∈ t.flights,
    ∃ job, t.desk.jobs[f.place]? = some job ∧ t.runner.Gives job.command f.result

theorem Sound.mono {waiting' : List Nat} (h : t.Sound waiting) (hw : waiting ⊆ waiting') :
    t.Sound waiting' where
  desk := h.desk
  covered place job hopen := (h.covered place job hopen).imp_left (hw ·)
  flown := h.flown

/-- When nothing is waiting or under way all runs have ended. -/
theorem Sound.ne_open (h : t.Sound []) (hflights : t.flights = []) (place : Nat) (job : Job) :
    t.desk.tickets[place]? ≠ some ⟨job, none⟩ := by
  intro hopen
  rcases h.covered place job hopen with hmem | ⟨f, hf, -⟩
  · cases hmem
  · rw [hflights] at hf
    cases hf

/-- From one timeline to another by runs that end. -/
structure Leads (t t' : Timeline σ) (history : List DeskEvent) : Prop where
  runner : t'.runner = t.runner
  desk : t'.desk = t.desk.after history
  completions : CompletionsOnly history
  given : ∀ run ∈ t.desk.endedRuns history, t.runner.Gives run.job.command run.result

/-- Nothing has ended. -/
theorem Leads.idle (hrunner : t'.runner = t.runner) (hdesk : t'.desk = t.desk) : t.Leads t' [] where
  runner := hrunner
  desk := hdesk
  completions _ h := absurd h List.not_mem_nil
  given _ h := absurd h List.not_mem_nil

theorem Leads.refl (t : Timeline σ) : t.Leads t [] := .idle rfl rfl

theorem Leads.trans {h₁ h₂ : List DeskEvent} (h : t.Leads t' h₁) (h' : t'.Leads t'' h₂) :
    t.Leads t'' (h₁ ++ h₂) where
  runner := h'.runner.trans h.runner
  desk := by rw [h'.desk, h.desk, Desk.after_append]
  completions := h.completions.append h'.completions
  given := by
    intro run hrun
    rw [Desk.endedRuns_append, ← h.desk] at hrun
    rcases List.mem_append.mp hrun with hrun | hrun
    · exact h.given run hrun
    · exact h.runner ▸ h'.given run hrun

theorem Leads.complete {place : Nat} {job : Job} {result : Except Error Captured}
    (hjob : t.desk.jobs[place]? = some job) (hgives : t.runner.Gives job.command result)
    (hrunner : t'.runner = t.runner) (hdesk : t'.desk = t.desk.complete place result) :
    t.Leads t' [.complete place result] where
  runner := hrunner
  desk := hdesk
  completions e he := ⟨place, result, List.mem_singleton.mp he⟩
  given := by
    intro run hrun
    rcases t.desk.open_or_not place with ⟨job', hopen⟩ | hopen
    · rw [Desk.endedRuns_complete_of_open hopen] at hrun
      obtain rfl := List.mem_singleton.mp hrun
      obtain rfl : job' = job := by simpa [Desk.jobs, hopen] using hjob
      exact hgives
    · rw [Desk.endedRuns_complete_of_not_open hopen] at hrun
      cases hrun

/-! ## Single steps -/

theorem Sound.request (h : t.Sound t.queued) (file : String) :
    (t.request file).Sound (t.request file).queued where
  desk := h.desk.request file
  covered := by
    intro place job hopen
    rcases Nat.lt_or_ge place t.desk.tickets.length with hlt | hge
    · have hold : t.desk.tickets[place]? = some ⟨job, none⟩ := by
        simpa [Timeline.request, Desk.request, List.getElem?_append_left hlt] using hopen
      refine (h.covered place job hold).imp_left fun hmem => ?_
      exact List.mem_append_left _ hmem
    · obtain ⟨hlt, -⟩ := List.getElem?_eq_some_iff.mp hopen
      refine .inl (List.mem_append_right _ (List.mem_map.mpr ?_))
      refine ⟨place - t.desk.tickets.length, ?_, ?_⟩
      · exact List.mem_range.mpr (Nat.sub_lt_sub_right hge hlt)
      · exact Nat.add_sub_cancel' hge
  flown := by
    intro f hf
    obtain ⟨job, hjob, hgives⟩ := h.flown f hf
    exact ⟨job, Desk.getElem?_jobs_request file hjob, hgives⟩

/-- A run ends, and is then neither waiting nor under way. -/
theorem Sound.complete {waiting' : List Nat} {place : Nat} {result : Except Error Captured}
    (h : t.Sound waiting) (hrunner : t'.runner = t.runner)
    (hdesk : t'.desk = t.desk.complete place result)
    (hwaiting : ∀ p ∈ waiting, p ≠ place → p ∈ waiting')
    (hflights : ∀ f ∈ t.flights, f.place ≠ place → f ∈ t'.flights)
    (hsub : t'.flights ⊆ t.flights) : t'.Sound waiting' where
  desk := hdesk ▸ h.desk.complete place result
  covered := by
    intro p job hopen
    rw [hdesk] at hopen
    obtain ⟨hold, hp⟩ := Desk.open_of_open_complete hopen
    rcases h.covered p job hold with hmem | ⟨f, hf, rfl⟩
    · exact .inl (hwaiting p hmem hp)
    · exact .inr ⟨f, hflights f hf hp, rfl⟩
  flown := by
    intro f hf
    rw [hdesk, hrunner, Desk.jobs_complete]
    exact h.flown f (hsub hf)

theorem Sound.start {place : Nat} (h : t.Sound (place :: waiting)) :
    ∃ history, t.Leads (t.start place) history ∧ (t.start place).Sound waiting := by
  have hwaiting : ∀ p ∈ place :: waiting, p ≠ place → p ∈ waiting := fun p hp hne =>
    (List.mem_cons.mp hp).resolve_left hne
  cases hticket : t.desk.tickets[place]? with
  | none =>
    refine ⟨[], ?_, ?_⟩
    · simpa [Timeline.start, hticket] using Leads.refl t
    · simp only [Timeline.start, hticket]
      refine ⟨h.desk, fun p job hopen => ?_, h.flown⟩
      refine (h.covered p job hopen).imp_left fun hmem => hwaiting p hmem ?_
      rintro rfl
      rw [hticket] at hopen
      cases hopen
  | some ticket =>
    have hjob : t.desk.jobs[place]? = some ticket.job := by simp [Desk.jobs, hticket]
    rcases hrun : t.runner.run ticket.job.command t.state with ⟨⟨result, delay⟩, state⟩
    have hgives : t.runner.Gives ticket.job.command result := ⟨t.state, by rw [hrun]⟩
    simp only [Timeline.start, hticket, hrun]
    split
    · exact ⟨_, .complete hjob hgives rfl rfl,
        h.complete rfl rfl hwaiting (fun f hf _ => hf) (List.Subset.refl _)⟩
    · refine ⟨[], .idle rfl rfl, h.desk, fun p job hopen => ?_, fun f hf => ?_⟩
      · rcases h.covered p job hopen with hmem | ⟨f, hf, hp⟩
        · by_cases hp : p = place
          · exact .inr ⟨_, List.mem_append_right _ List.mem_cons_self, hp.symm⟩
          · exact .inl (hwaiting p hmem hp)
        · exact .inr ⟨f, List.mem_append_left _ hf, hp⟩
      · rcases List.mem_append.mp hf with hf | hf
        · exact h.flown f hf
        · obtain rfl := List.mem_singleton.mp hf
          exact ⟨ticket.job, hjob, hgives⟩

theorem Sound.land {f : Flight} (h : t.Sound waiting) (hf : f ∈ t.flights) :
    t.Leads (t.land f) [.complete f.place f.result] ∧ (t.land f).Sound waiting := by
  obtain ⟨job, hjob, hgives⟩ := h.flown f hf
  refine ⟨.complete hjob hgives rfl rfl, h.complete rfl rfl (fun p hp _ => hp) ?_ ?_⟩
  · intro g hg hne
    exact List.mem_filter.mpr ⟨hg, by simpa using hne⟩
  · exact List.filter_subset_self _

/-! ## Waiting -/

theorem Sound.startQueued (h : t.Sound t.queued) :
    ∃ history, t.Leads t.startQueued history ∧ t.startQueued.Sound [] := by
  have hfold : ∀ (queue : List Nat) (t : Timeline σ), t.Sound queue →
      ∃ history, t.Leads (queue.foldl Timeline.start t) history ∧
        (queue.foldl Timeline.start t).Sound [] := by
    intro queue
    induction queue with
    | nil => exact fun t h => ⟨[], .refl t, h⟩
    | cons place queue ih =>
      intro t h
      obtain ⟨es₁, hlead, hstart⟩ := h.start
      obtain ⟨es₂, hleads, hrest⟩ := ih (t.start place) hstart
      exact ⟨es₁ ++ es₂, hlead.trans hleads, hrest⟩
  obtain ⟨es, hlead, hsound⟩ := hfold t.queued { t with queued := [] } ⟨h.desk, h.covered, h.flown⟩
  exact ⟨es, ⟨hlead.runner, hlead.desk, hlead.completions, hlead.given⟩, hsound⟩

theorem mem_of_earliest {fs : List Flight} {f : Flight} (h : earliest fs = some f) : f ∈ fs := by
  induction fs with
  | nil => cases h
  | cons g fs ih =>
    rw [earliest] at h
    cases hrest : earliest fs with
    | none =>
      obtain rfl : g = f := by simpa [hrest] using h
      exact List.mem_cons_self
    | some e =>
      simp only [hrest] at h
      split at h
      · exact List.mem_cons_of_mem _ (ih (hrest.trans h))
      · obtain rfl := Option.some.inj h
        exact List.mem_cons_self

theorem earliest_eq_none_iff {fs : List Flight} : earliest fs = none ↔ fs = [] := by
  cases fs with
  | nil => exact iff_of_true rfl rfl
  | cons f fs =>
    refine iff_of_false ?_ nofun
    rw [earliest]
    split
    · split <;> nofun
    · nofun

theorem Sound.landUntil (h : t.Sound waiting) (done : Timeline σ → Bool) (n : Nat) :
    ∃ history, t.Leads (landUntil done n t) history ∧ (landUntil done n t).Sound waiting := by
  induction n generalizing t with
  | zero => exact ⟨[], .refl t, h⟩
  | succ n ih =>
    rw [Timeline.landUntil]
    split
    · exact ⟨[], .refl t, h⟩
    · split
      · exact ⟨[], .refl t, h⟩
      · next f hf =>
        obtain ⟨hlead, hland⟩ := h.land (mem_of_earliest hf)
        obtain ⟨es, hleads, hrest⟩ := ih hland
        exact ⟨_, hlead.trans hleads, hrest⟩

/-- Flights land until the goal is reached, or all have landed. -/
theorem landUntil_done (done : Timeline σ → Bool) {n : Nat} (h : t.flights.length ≤ n) :
    done (landUntil done n t) = true ∨ (landUntil done n t).flights = [] := by
  induction n generalizing t with
  | zero => exact .inr (List.length_eq_zero_iff.mp (Nat.le_zero.mp h))
  | succ n ih =>
    rw [Timeline.landUntil]
    split
    · next hdone => exact .inl hdone
    · split
      · next hnone => exact .inr (earliest_eq_none_iff.mp hnone)
      · next f hf =>
        refine ih (Nat.le_of_lt_succ (Nat.lt_of_lt_of_le ?_ h))
        exact List.length_filter_lt_length_iff_exists.mpr ⟨f, mem_of_earliest hf, by simp⟩

/-- Whoever waits for a request gets its outcomes, whatever is under way. -/
theorem Sound.wait (h : t.Sound t.queued) (n : Nat) :
    ∃ history, t.Leads (t.wait n).2 history ∧ (t.wait n).2.Sound (t.wait n).2.queued ∧
      (t.wait n).2.desk.outcomes? n = some (t.wait n).1 := by
  rw [Timeline.wait]
  split
  · next outcomes ho => exact ⟨[], .refl t, h, ho⟩
  · obtain ⟨es₁, hlead₁, hstart⟩ := h.startQueued
    let done := fun t : Timeline σ => (t.desk.outcomes? n).isSome
    obtain ⟨es₂, hlead₂, hland⟩ := hstart.landUntil done t.startQueued.flights.length
    have hdone := landUntil_done done (Nat.le_refl t.startQueued.flights.length)
    refine ⟨es₁ ++ es₂, hlead₁.trans hlead₂, hland.mono (List.nil_subset _), ?_⟩
    change (Timeline.landUntil done _ t.startQueued).desk.outcomes? n =
      some (((Timeline.landUntil done _ t.startQueued).desk.outcomes? n).getD [])
    generalize Timeline.landUntil done t.startQueued.flights.length t.startQueued = last
      at hland hdone
    obtain ⟨outcomes, ho⟩ : ∃ outcomes, last.desk.outcomes? n = some outcomes := by
      rcases hdone with hdone | hnil
      · exact Option.isSome_iff_exists.mp hdone
      · exact Desk.exists_outcomes (hland.ne_open hnil) n
    rw [ho, Option.getD_some]

theorem Sound.sleep (h : t.Sound t.queued) (time : Nat) :
    (t.sleep time).Sound (t.sleep time).queued := by
  obtain ⟨-, -, hstart⟩ := h.startQueued
  obtain ⟨-, -, hland⟩ := hstart.landUntil
    (fun u => (earliest u.flights).all (t.clock + time < ·.due)) t.startQueued.flights.length
  exact ⟨hland.desk, (hland.mono (List.nil_subset _)).covered, hland.flown⟩

end Timeline
end LintDesk
