import Mathlib.Data.List.Forall2
import LintDesk.Proofs.Session

/-! # Checks report the runs they have asked for

A check does not report what its runs have given but what it reads in the store when they have
ended, and older runs may end at any moment before that. They come too late: the slot of an analyzer
that has published a result for the newest request is not written to again until the next request.
-/

namespace LintDesk

/-! ## What should be reported -/

namespace EndedRun

/-- What a run has found. -/
def diagnostics (registry : Registry) (run : EndedRun) : List Diagnostic :=
  match run.job.accepted run.result with
  | .ok text => registry.read run.job.analyzer text
  | .error _ => []

/-- Why a run has failed, if it has. -/
def failure? (run : EndedRun) : Option String :=
  match run.job.accepted run.result with
  | .ok _ => none
  | .error e => some e.message

/-- A run that has failed has found nothing. -/
theorem diagnostics_of_failure? {run : EndedRun} {reason : String} (h : run.failure? = some reason)
    (registry : Registry) : run.diagnostics registry = [] := by
  rw [failure?] at h
  rw [diagnostics]
  split at h
  · cases h
  · rfl

end EndedRun

/-- The report of an analyzer on a run of its own. -/
def Analyzer.report (a : Analyzer) (registry : Registry) (run : EndedRun) : AnalyzerReport :=
  ⟨a.id, a.name, run.diagnostics registry, run.failure?⟩

/-- The report on a file that the request with the given number is for, if the runs of its jobs have
given these results. -/
def Coordinator.fileReport (c : Coordinator) (root : String) (gave : Job → Except Error Captured)
    (n : Nat) (file : String) : FileReport :=
  ⟨displayPath file root, c.enabled.map fun a =>
    a.report c.registry ⟨c.job n file a, gave (c.job n file a)⟩⟩

theorem Coordinator.mapIdx_fileReport_cons (c : Coordinator) (root : String)
    (gave : Job → Except Error Captured) (n : Nat) (file : String) (files : List String) :
    ((file :: files).mapIdx fun i f => c.fileReport root gave (n + i + 1) f) =
      c.fileReport root gave (n + 1) file ::
        files.mapIdx fun i f => c.fileReport root gave (n + 1 + i + 1) f := by
  rw [List.mapIdx_cons]
  have hindex : ∀ i, n + (i + 1) + 1 = n + 1 + i + 1 := fun i => by omega
  simp only [hindex, Nat.add_zero]

/-- The names of the analyzers are told by their ids. -/
theorem Coordinator.provider?_id {c : Coordinator} {a : Analyzer} (ha : a ∈ c.enabled) :
    c.provider? a.id = some ⟨a.id, a.name⟩ := by
  have hfind : c.enabled.find? (·.id == a.id) = some a := by
    cases h : c.enabled.find? (·.id == a.id) with
    | none => exact absurd (List.find?_eq_none.mp h a ha) (by simp)
    | some b =>
      have hid : b.id = a.id := by simpa using List.find?_some h
      rw [enabled_inj (List.mem_of_find?_eq_some h) ha hid]
  have hcomp : ((·.id == a.id) ∘ fun a : Analyzer => (⟨a.id, a.name⟩ : Provider)) =
      fun b : Analyzer => b.id == a.id := rfl
  rw [provider?, providers, List.find?_map, hcomp, hfind, Option.map_some]

namespace Desk

variable {d : Desk} {root : String} {history : List DeskEvent} {a : Analyzer} {j : Job}
  {run : EndedRun} {o : Outcome} {place : Nat}

@[simp] theorem coordinator_complete (d : Desk) (place : Nat) (result : Except Error Captured) :
    (d.complete place result).coordinator = d.coordinator :=
  coordinator_step d (.complete place result)

/-! ## Slots of the newest request -/

/-- No slot holds the result of a request that the desk has not taken. -/
def OwnSlots (d : Desk) : Prop := ∀ id, d.store.sequence id ≤ d.requests

theorem OwnSlots.request (h : d.OwnSlots) (file : String) : (d.request file).OwnSlots := fun id =>
  Nat.le_succ_of_le (h id)

theorem OwnSlots.complete (h : d.OwnSlots) (hd : d.Sound) (place : Nat)
    (result : Except Error Captured) : (d.complete place result).OwnSlots := by
  intro id
  rw [requests_complete]
  rcases d.open_or_not place with ⟨job, hopen⟩ | hopen
  · by_contra hlt
    have hstore : (d.complete place result).store =
        [StoreEvent.ended ⟨job, result⟩].foldl (StoreEvent.apply d.coordinator.registry) d.store :=
      congrArg Desk.store (complete_of_open hopen result)
    rw [hstore, Nat.not_le, StoreEvent.lt_sequence_foldl_iff] at hlt
    rcases hlt with hlt | ⟨run, hmem, -, -, hlt⟩
    · exact Nat.not_le_of_lt hlt (h id)
    · obtain rfl := StoreEvent.ended.inj (List.mem_singleton.mp hmem)
      have hjob : job ∈ d.jobs := mem_jobs_of_getElem? hopen
      exact Nat.not_le_of_lt hlt (hd.numbered job hjob).2
  · rw [complete_of_not_open hopen]
    exact h id

/-- What a run that has ended leaves behind at a desk: it has failed for its reason, or its slot
holds what it has found. -/
inductive Shows (d : Desk) (run : EndedRun) : Outcome → Prop
  | failed {reason : String} (h : run.failure? = some reason) : Shows d run (.failed reason)
  | updated {n : Nat} (h : run.failure? = none)
      (hslot : d.store.slot? run.job.analyzer =
        some ⟨run.job.sequence, run.diagnostics d.coordinator.registry⟩) : Shows d run (.updated n)

/-- A run for the newest request is not overtaken. -/
theorem shows_complete_self (hown : d.OwnSlots) (hopen : d.tickets[place]? = some ⟨j, none⟩)
    (hj : j.sequence = d.requests) (result : Except Error Captured) :
    ∃ o, (d.complete place result).tickets[place]? = some ⟨j, some o⟩ ∧
      (d.complete place result).Shows ⟨j, result⟩ o := by
  refine ⟨_, tickets_complete_self hopen result, ?_⟩
  rcases j.settle_cases d.coordinator.registry result d.store with
    ⟨-, e, he, hs⟩ | ⟨text, -, hlt, -⟩ | ⟨text, ht, -, hs⟩
  · rw [hs]
    exact .failed (by simp [EndedRun.failure?, he])
  · exact absurd (hj ▸ hown j.analyzer) (Nat.not_le_of_lt hlt)
  · have hok := Job.accepted_eq_ok_iff.mpr ht
    rw [complete_of_open hopen, hs]
    refine .updated (by simp [EndedRun.failure?, hok]) ?_
    simp [EndedRun.diagnostics, hok]

/-- A run that ends leaves what a run for the newest request has left behind alone: it is a run of
another analyzer, or comes too late. -/
theorem Shows.complete (h : d.Shows run o) (hd : d.Sound) (hrun : run.job.sequence = d.requests)
    {o' : Outcome} (hsettled : d.tickets[place]? = some ⟨run.job, some o'⟩) (p : Nat)
    (result : Except Error Captured) : (d.complete p result).Shows run o := by
  cases h with
  | failed h => exact .failed h
  | updated h hslot =>
    rcases d.open_or_not p with ⟨job, hopen⟩ | hopen
    · refine .updated h ?_
      rw [complete_of_open hopen]
      refine Eq.trans ?_ hslot
      by_cases hid : job.analyzer = run.job.analyzer
      · have hne : job.sequence ≠ run.job.sequence := by
          intro hseq
          obtain rfl := hd.place_unique hopen hsettled (Prod.ext hid hseq)
          rw [hopen] at hsettled
          cases hsettled
        have hjob : job ∈ d.jobs := mem_jobs_of_getElem? hopen
        have hlt : job.sequence < d.store.sequence job.analyzer := by
          rw [hid, Store.sequence_of_slot? hslot]
          exact Nat.lt_of_le_of_ne (hrun ▸ (hd.numbered job hjob).2) hne
        rcases job.settle_cases d.coordinator.registry result d.store with
          ⟨-, e, -, hs⟩ | ⟨_, -, -, hs⟩ | ⟨_, -, hge, -⟩
        · rw [hs]
        · rw [hs]
        · exact absurd hge (Nat.not_le_of_lt hlt)
      · exact StoreEvent.slot?_apply_of_ne d.coordinator.registry (e := .ended ⟨job, result⟩) hid
    · rw [complete_of_not_open hopen]
      exact .updated h hslot

/-- What holds of a desk since its newest request, if these runs have ended since: the runs for this
request that have ended have left behind what they have found. -/
structure Serves (d : Desk) (runs : List EndedRun) : Prop where
  sound : d.Sound
  own : d.OwnSlots
  shown : ∀ (place : Nat) (j : Job) (o : Outcome), d.tickets[place]? = some ⟨j, some o⟩ →
    j.sequence = d.requests → ∃ result, ⟨j, result⟩ ∈ runs ∧ d.Shows ⟨j, result⟩ o

theorem serves_request (hd : d.Sound) (hown : d.OwnSlots) (file : String) :
    (d.request file).Serves [] where
  sound := hd.request file
  own := hown.request file
  shown := by
    intro place j o hsettled hj
    rcases Nat.lt_or_ge place d.tickets.length with hlt | hge
    · -- A job from before belongs to an older request.
      have hold : d.tickets[place]? = some ⟨j, some o⟩ := by
        simpa [Desk.request, List.getElem?_append_left hlt] using hsettled
      have hle := (hd.numbered j (mem_jobs_of_getElem? hold)).2
      exact absurd (hj ▸ hle) (Nat.not_succ_le_self _)
    · simp [Desk.request, List.getElem?_append_right hge] at hsettled

theorem Serves.complete {runs : List EndedRun} (h : d.Serves runs) (p : Nat)
    (result : Except Error Captured) :
    (d.complete p result).Serves (runs ++ d.endedRuns [.complete p result]) where
  sound := h.sound.complete p result
  own := h.own.complete h.sound p result
  shown := by
    intro place j o hsettled hj
    rw [requests_complete] at hj
    rcases d.open_or_not p with ⟨job, hopen⟩ | hopen
    · rw [endedRuns_complete_of_open hopen]
      by_cases hp : p = place
      · subst hp
        have hjob := (tickets_complete_self hopen result).symm.trans hsettled
        obtain rfl : job = j := congrArg Ticket.job (Option.some.inj hjob)
        obtain ⟨o', ho', hshows⟩ := shows_complete_self h.own hopen hj result
        obtain rfl : o' = o :=
          Option.some.inj (congrArg Ticket.outcome (Option.some.inj (ho'.symm.trans hsettled)))
        exact ⟨result, List.mem_append_right _ List.mem_cons_self, hshows⟩
      · have hold : d.tickets[place]? = some ⟨j, some o⟩ := by
          simpa [complete_of_open hopen, List.getElem?_set_ne hp] using hsettled
        obtain ⟨r, hr, hshows⟩ := h.shown place j o hold hj
        exact ⟨r, List.mem_append_left _ hr, hshows.complete h.sound hj hold p result⟩
    · rw [complete_of_not_open hopen] at hsettled ⊢
      obtain ⟨r, hr, hshows⟩ := h.shown place j o hsettled hj
      exact ⟨r, List.mem_append_left _ hr, hshows⟩

theorem Serves.after {runs : List EndedRun} (h : d.Serves runs) (hes : CompletionsOnly history) :
    (d.after history).Serves (runs ++ d.endedRuns history) := by
  induction history generalizing d runs with
  | nil => simpa using h
  | cons e history ih =>
    obtain ⟨p, result, rfl⟩ := hes e List.mem_cons_self
    rw [after_cons, ← List.singleton_append, endedRuns_append, ← List.append_assoc]
    exact ih (h.complete p result) fun e he => hes e (List.mem_cons_of_mem _ he)

/-! ## Reading the reports -/

theorem Shows.analyzerReport (h : d.Shows run o) (ha : a ∈ d.coordinator.enabled)
    (hid : run.job.analyzer = a.id) :
    d.analyzerReport a.id o = a.report d.coordinator.registry run := by
  cases h with
  | @failed reason h =>
    have hnone := EndedRun.diagnostics_of_failure? h d.coordinator.registry
    simp [Desk.analyzerReport, Coordinator.provider?_id ha, Analyzer.report, h, hnone]
  | updated h hslot =>
    rw [hid] at hslot
    simp [Desk.analyzerReport, Coordinator.provider?_id ha, Analyzer.report, h,
      Store.get_of_slot? hslot]

/-- Reports are read off a desk one after another, while runs may end at any moment. -/
inductive Reading : Desk → List (String × Outcome) → List DeskEvent → List AnalyzerReport → Prop
  | done (d : Desk) : Reading d [] [] []
  | complete {d : Desk} {place : Nat} {result : Except Error Captured}
      {outcomes : List (String × Outcome)} {history : List DeskEvent}
      {reports : List AnalyzerReport}
      (h : Reading (d.complete place result) outcomes history reports) :
      Reading d outcomes (.complete place result :: history) reports
  | read {d : Desk} {id : String} {o : Outcome} {outcomes : List (String × Outcome)}
      {history : List DeskEvent} {reports : List AnalyzerReport}
      (h : Reading d outcomes history reports) :
      Reading d ((id, o) :: outcomes) history (d.analyzerReport id o :: reports)

/-- Files are checked one after another, while runs may end at any moment: for each file there is a
request, its outcomes are there at some time, and then the reports are read. -/
inductive Checking (root : String) :
    Desk → List String → List DeskEvent → List FileReport → Prop
  | done (d : Desk) : Checking root d [] [] []
  | complete {d : Desk} {place : Nat} {result : Except Error Captured} {files : List String}
      {history : List DeskEvent} {reports : List FileReport}
      (h : Checking root (d.complete place result) files history reports) :
      Checking root d files (.complete place result :: history) reports
  | file {d : Desk} {file : String} {files : List String} {waiting reading rest : List DeskEvent}
      {outcomes : List (String × Outcome)} {analyzers : List AnalyzerReport}
      {reports : List FileReport} (hwaiting : CompletionsOnly waiting)
      (houtcomes : ((d.request file).after waiting).outcomes? (d.requests + 1) = some outcomes)
      (hreading : Reading ((d.request file).after waiting) outcomes reading analyzers)
      (hrest : Checking root (((d.request file).after waiting).after reading) files rest reports) :
      Checking root d (file :: files) (.request file :: (waiting ++ (reading ++ rest)))
        (⟨displayPath file root, analyzers⟩ :: reports)

theorem Reading.completionsOnly {outcomes : List (String × Outcome)} {reports : List AnalyzerReport}
    (h : d.Reading outcomes history reports) : CompletionsOnly history := by
  induction h with
  | done => nofun
  | complete _ ih => exact List.forall_mem_cons.mpr ⟨⟨_, _, rfl⟩, ih⟩
  | read _ ih => exact ih

/-- A job of the newest request has been settled like this. -/
def Settled (d : Desk) (file : String) (a : Analyzer) (p : String × Outcome) : Prop :=
  p.1 = a.id ∧ ∃ place : Nat,
    d.tickets[place]? = some ⟨d.coordinator.job d.requests file a, some p.2⟩

theorem Settled.complete {file : String} {p : String × Outcome} (h : d.Settled file a p)
    (place : Nat) (result : Except Error Captured) :
    (d.complete place result).Settled file a p := by
  obtain ⟨hid, q, hq⟩ := h
  refine ⟨hid, q, ?_⟩
  rw [coordinator_complete, requests_complete]
  exact settled_after hq [.complete place result]

/-- The jobs of the newest request, when the desk has waited. -/
theorem jobs_ofRequest (hd : d.Sound) (file : String) (hes : CompletionsOnly history) :
    (((d.request file).after history).ofRequest (d.requests + 1)).map (·.job) =
      d.coordinator.jobs (d.requests + 1) file := by
  have hjobs : ((d.request file).after history).jobs =
      d.jobs ++ d.coordinator.jobs (d.requests + 1) file := by
    rw [jobs_after, hes.requestedFiles_eq, Coordinator.jobsFrom, List.append_nil, jobs_request]
  have hold : d.jobs.filter (·.sequence == d.requests + 1) = [] := by
    refine List.filter_eq_nil_iff.mpr fun j hj => ?_
    have := (hd.numbered j hj).2
    simpa using Nat.ne_of_lt (Nat.lt_succ_of_le this)
  have hnew : (d.coordinator.jobs (d.requests + 1) file).filter (·.sequence == d.requests + 1) =
      d.coordinator.jobs (d.requests + 1) file :=
    List.filter_eq_self.mpr fun j hj => by simp [Coordinator.sequence_of_mem_jobs hj]
  calc (((d.request file).after history).ofRequest (d.requests + 1)).map (·.job)
      = ((d.request file).after history).jobs.filter (·.sequence == d.requests + 1) :=
        by rw [jobs, List.filter_map]; rfl
    _ = d.coordinator.jobs (d.requests + 1) file := by
        rw [hjobs, List.filter_append, hold, hnew, List.nil_append]

/-- The outcomes of the tickets for the jobs of some analyzers. -/
theorem forall₂_outcomes {n : Nat} {file : String} {c : Coordinator} {as : List Analyzer}
    {tickets : List Ticket} {outcomes : List (String × Outcome)}
    (hjobs : tickets.map (·.job) = as.map (c.job n file))
    (h : (tickets.mapM fun t => t.outcome.map (t.job.analyzer, ·)) = some outcomes) :
    List.Forall₂ (fun a p => p.1 = a.id ∧ ⟨c.job n file a, some p.2⟩ ∈ tickets) as outcomes := by
  induction as generalizing tickets outcomes with
  | nil =>
    obtain rfl := List.map_eq_nil_iff.mp hjobs
    obtain rfl : [] = outcomes := Option.some.inj h
    exact .nil
  | cons a as ih =>
    obtain ⟨⟨job, o?⟩, rest, rfl, hjob, hrest⟩ := List.map_eq_cons_iff.mp hjobs
    obtain rfl : job = c.job n file a := hjob
    cases o? with
    | none => simp at h
    | some o =>
      obtain ⟨os, hos, rfl⟩ : ∃ os, (rest.mapM fun t => t.outcome.map (t.job.analyzer, ·)) =
          some os ∧ (a.id, o) :: os = outcomes := by
        simpa [Option.bind_eq_some_iff, Coordinator.job] using h
      refine .cons ⟨rfl, List.mem_cons_self⟩ ((ih hrest hos).imp ?_)
      exact fun b p hp => ⟨hp.1, List.mem_cons_of_mem _ hp.2⟩

theorem forall₂_settled (hd : d.Sound) (file : String) (hes : CompletionsOnly history)
    {outcomes : List (String × Outcome)}
    (h : ((d.request file).after history).outcomes? (d.requests + 1) = some outcomes) :
    List.Forall₂ (((d.request file).after history).Settled file) d.coordinator.enabled
      outcomes := by
  have hrequests : ((d.request file).after history).requests = d.requests + 1 :=
    requests_after_completions _ hes
  have hcoord : ((d.request file).after history).coordinator = d.coordinator := coordinator_after ..
  have hjobs := (jobs_ofRequest hd file hes).trans (d.coordinator.jobs_eq_map _ file)
  refine (forall₂_outcomes hjobs h).imp fun a p hp => ⟨hp.1, ?_⟩
  rw [hrequests, hcoord]
  exact List.mem_iff_getElem?.mp (List.mem_filter.mp hp.2).1

/-- What is read for some analyzers are the reports on their runs for the newest request. -/
theorem Reading.reports_eq {runs : List EndedRun} {gave : Job → Except Error Captured}
    {file : String} {as : List Analyzer} {outcomes : List (String × Outcome)}
    {reports : List AnalyzerReport} (h : d.Reading outcomes history reports) (hd : d.Serves runs)
    (hgave : ∀ run ∈ runs ++ d.endedRuns history, gave run.job = run.result)
    (has : as ⊆ d.coordinator.enabled) (hall : List.Forall₂ (d.Settled file) as outcomes) :
    (∀ a ∈ as, ⟨d.coordinator.job d.requests file a,
        gave (d.coordinator.job d.requests file a)⟩ ∈ runs ++ d.endedRuns history) ∧
      reports = as.map fun a => a.report d.coordinator.registry
        ⟨d.coordinator.job d.requests file a, gave (d.coordinator.job d.requests file a)⟩ := by
  induction h generalizing as runs with
  | done d => cases hall; simp
  | @complete d place result outcomes history reports _ ih =>
    have hruns : runs ++ d.endedRuns (.complete place result :: history) =
        runs ++ d.endedRuns [.complete place result] ++
          (d.complete place result).endedRuns history := by
      rw [← List.singleton_append, endedRuns_append, ← List.append_assoc]
      rfl
    rw [hruns] at hgave ⊢
    have hrest := ih (hd.complete place result) hgave (by simpa using has)
      (hall.imp fun a p hp => hp.complete place result)
    simpa using hrest
  | @read d id o outcomes history reports _ ih =>
    obtain ⟨a, as, ⟨rfl, place, hplace⟩, hrest, rfl⟩ := List.forall₂_cons_right_iff.mp hall
    obtain ⟨ha, has⟩ := List.cons_subset.mp has
    obtain ⟨result, hmem, hshows⟩ := hd.shown place _ _ hplace rfl
    have hresult := hgave _ (List.mem_append_left _ hmem)
    obtain rfl : gave (d.coordinator.job d.requests file a) = result := hresult
    obtain ⟨hruns, rfl⟩ := ih hd hgave has hrest
    refine ⟨List.forall_mem_cons.mpr ⟨List.mem_append_left _ hmem, hruns⟩, ?_⟩
    rw [List.map_cons, ← hshows.analyzerReport ha rfl]

/-- The reports of a check are those on the runs for its own requests. -/
theorem Checking.reports_eq {gave : Job → Except Error Captured} {files : List String}
    {reports : List FileReport} (h : d.Checking root files history reports) (hd : d.Sound)
    (hown : d.OwnSlots) (hgave : ∀ run ∈ d.endedRuns history, gave run.job = run.result) :
    (∀ j ∈ d.coordinator.jobsFrom d.requests files, ⟨j, gave j⟩ ∈ d.endedRuns history) ∧
      reports = files.mapIdx fun i file =>
        d.coordinator.fileReport root gave (d.requests + i + 1) file := by
  induction h with
  | done d => exact ⟨nofun, rfl⟩
  | @complete d place result files history reports _ ih =>
    rw [← List.singleton_append, endedRuns_append] at hgave ⊢
    obtain ⟨hruns, hreports⟩ := ih (hd.complete place result) (hown.complete hd place result)
      fun run hrun => hgave run (List.mem_append_right _ hrun)
    rw [coordinator_complete, requests_complete] at hruns hreports
    exact ⟨fun j hj => List.mem_append_right _ (hruns j hj), hreports⟩
  | @file d file files waiting reading rest outcomes analyzers reports hwaiting houtcomes hreading
      _ ih =>
    have hended : d.endedRuns (.request file :: (waiting ++ (reading ++ rest))) =
        (d.request file).endedRuns waiting ++
          ((d.request file).after waiting).endedRuns reading ++
            (((d.request file).after waiting).after reading).endedRuns rest := by
      rw [← endedRuns_append, ← after_append, ← endedRuns_append, List.append_assoc]
      rfl
    have hserves : ((d.request file).after waiting).Serves ((d.request file).endedRuns waiting) :=
      (serves_request hd hown file).after hwaiting
    have hserves' := hserves.after hreading.completionsOnly
    have hcoord : ((d.request file).after waiting).coordinator = d.coordinator :=
      coordinator_after ..
    have hrequests : ((d.request file).after waiting).requests = d.requests + 1 :=
      requests_after_completions _ hwaiting
    have hrequests' : (((d.request file).after waiting).after reading).requests =
        d.requests + 1 :=
      (requests_after_completions _ hreading.completionsOnly).trans hrequests
    rw [hended] at hgave ⊢
    obtain ⟨hmine, hanalyzers⟩ := hreading.reports_eq hserves
      (fun run hrun => hgave run (List.mem_append_left _ hrun)) (by rw [hcoord]; exact fun _ h => h)
      (forall₂_settled hd file hwaiting houtcomes)
    obtain ⟨hruns, hreports⟩ := ih hserves'.sound hserves'.own
      fun run hrun => hgave run (List.mem_append_right _ hrun)
    rw [hcoord, hrequests] at hmine hanalyzers
    rw [coordinator_after, hcoord, hrequests'] at hruns hreports
    constructor
    · intro j hj
      rcases List.mem_append.mp hj with hj | hj
      · obtain ⟨a, ha, rfl⟩ := Coordinator.mem_jobs_iff.mp hj
        exact List.mem_append_left _ (hmine a ha)
      · exact List.mem_append_right _ (hruns j hj)
    · rw [Coordinator.mapIdx_fileReport_cons, ← hreports, hanalyzers]
      rfl

/-- There is one result at most for each job. -/
theorem Sound.exists_results (hd : d.Sound) (history : List DeskEvent) :
    ∃ gave : Job → Except Error Captured,
      ∀ run ∈ d.endedRuns history, gave run.job = run.result := by
  classical
  refine ⟨fun j => if h : ∃ result, ⟨j, result⟩ ∈ d.endedRuns history then h.choose
    else .error (.spawn "" ""), ?_⟩
  intro run hrun
  have h : ∃ result, ⟨run.job, result⟩ ∈ d.endedRuns history := ⟨run.result, hrun⟩
  refine (dif_pos h).trans ?_
  exact congrArg EndedRun.result (hd.endedRuns_unique h.choose_spec hrun rfl)

end Desk

/-! ## Summaries -/

/-- What the reports of a check have to say, run by run. -/
theorem Coordinator.map_fileReports (c : Coordinator) (root : String)
    (gave : Job → Except Error Captured) (n : Nat) (files : List String) :
    ((files.mapIdx fun i file => c.fileReport root gave (n + i + 1) file).flatMap
        (·.analyzers)).map (fun r => (r.diagnostics, r.failure)) =
      ((c.jobsFrom n files).map fun j => EndedRun.mk j (gave j)).map fun run =>
        (run.diagnostics c.registry, run.failure?) := by
  induction files generalizing n with
  | nil => rfl
  | cons file files ih =>
    have hfile : (c.fileReport root gave (n + 1) file).analyzers.map
        (fun r => (r.diagnostics, r.failure)) =
          ((c.jobs (n + 1) file).map fun j => EndedRun.mk j (gave j)).map fun run =>
            (run.diagnostics c.registry, run.failure?) := by
      simp [fileReport, jobs_eq_map, Analyzer.report, Function.comp_def]
    rw [mapIdx_fileReport_cons, List.flatMap_cons, List.map_append, ih, hfile, jobsFrom,
      List.map_append, List.map_append]

/-- A summary counts what the runs that are reported have found, and those that have failed. -/
theorem Summary.ofFiles_eq {files : List FileReport} {registry : Registry} {runs : List EndedRun}
    (h : (files.flatMap (·.analyzers)).map (fun r => (r.diagnostics, r.failure)) =
      runs.map fun run => (run.diagnostics registry, run.failure?)) :
    Summary.ofFiles files =
      { errors := (runs.flatMap (·.diagnostics registry)).countP (·.severity == .error)
        warnings := (runs.flatMap (·.diagnostics registry)).countP (·.severity == .warning)
        failures := runs.countP (·.failure?.isSome)
        files := files.length } := by
  have hfound : (files.flatMap (·.analyzers)).flatMap (·.diagnostics) =
      runs.flatMap (·.diagnostics registry) := by
    have hfst := congrArg (List.map Prod.fst) h
    rw [List.map_map, List.map_map] at hfst
    rw [List.flatMap_def, List.flatMap_def]
    exact congrArg List.flatten hfst
  have hfailed : (files.flatMap (·.analyzers)).countP (·.failure.isSome) =
      runs.countP (·.failure?.isSome) := by
    have hsnd := congrArg (fun l => (l.map Prod.snd).countP Option.isSome) h
    simpa [List.countP_map, Function.comp_def] using hsnd
  simp only [ofFiles, countSeverity, hfound, hfailed]

namespace Session

variable {σ : Type} {s : Session σ}

/-! ## The check of a session -/

theorem reading_map (d : Desk) (outcomes : List (String × Outcome)) :
    d.Reading outcomes [] (outcomes.map fun (id, o) => d.analyzerReport id o) := by
  induction outcomes with
  | nil => exact .done d
  | cons p outcomes ih => exact .read ih

/-- A session checks files one after another. -/
theorem checking_checkFiles (hs : s.Reachable) (root : String) (files : List String) :
    ∃ history, s.desk.Checking root files history (s.checkFiles root files).1 ∧
      (s.checkFiles root files).2.desk = s.desk.after history ∧
      ∀ run ∈ s.desk.endedRuns history,
        s.timeline.runner.Gives run.job.command run.result := by
  induction files generalizing s with
  | nil => exact ⟨[], .done _, rfl, nofun⟩
  | cons file files ih =>
    have hreq := hs.handle (.saved file)
    obtain ⟨waiting, hlead, -, houtcomes⟩ := hreq.sound.wait (s.desk.requests + 1)
    obtain ⟨rest, hchecking, hdesk, hgives⟩ := ih (hreq.wait (s.desk.requests + 1))
    have hwait : ((s.handle (.saved file)).wait (s.desk.requests + 1)).2.desk =
        (s.desk.request file).after waiting := hlead.desk
    have hrunner : ((s.handle (.saved file)).wait (s.desk.requests + 1)).2.timeline.runner =
        s.timeline.runner := hlead.runner
    rw [hwait] at hchecking hdesk hgives
    rw [hrunner] at hgives
    refine ⟨.request file :: (waiting ++ ([] ++ rest)),
      .file hlead.completions (hlead.desk ▸ houtcomes) ?_ hchecking, ?_, ?_⟩
    · rw [← hwait]
      exact reading_map ..
    · rw [List.nil_append, Desk.after_cons, Desk.after_append]
      exact hdesk
    · intro run hrun
      rw [List.nil_append, ← List.singleton_append, Desk.endedRuns_append, Desk.endedRuns_request,
        List.nil_append, Desk.endedRuns_append] at hrun
      rcases List.mem_append.mp hrun with hrun | hrun
      · exact hlead.given run hrun
      · exact hgives run hrun

end Session

/-- Whatever older runs end at whatever moments of a check, it reports on each file what the runs
for this very file have found, or why they have failed, by analyzer in the order of the settings;
and its summary counts these. A run for a file is one of the command that is filled in for it. The
check of a session is such a check, of what its runner gave. -/
theorem check_reports_runs {σ : Type} {s : Session σ} (hs : s.Reachable)
    (hown : ∀ id, s.store.sequence id ≤ s.desk.requests) (root : String) (files : List String) :
    let d := s.desk
    let c := d.coordinator
    (∃ history reports, d.Checking root files history reports ∧
      (s.check root files).1 = .ofFiles reports ∧
      (s.check root files).2.desk = d.after history ∧
      ∀ run ∈ d.endedRuns history, s.timeline.runner.Gives run.job.command run.result) ∧
    (∀ j, j ∈ c.jobsFrom d.requests files ↔
      ∃ (i : Nat) (file : String), files[i]? = some file ∧ ∃ a ∈ c.enabled,
        j = ⟨a.id, d.requests + i + 1, a.exitCodes, a.materialize (c.settings.context file)⟩) ∧
    ∀ history reports, d.Checking root files history reports →
      ∃ gave : Job → Except Error Captured,
        (∀ j ∈ c.jobsFrom d.requests files, ⟨j, gave j⟩ ∈ d.endedRuns history) ∧
        (reports = files.mapIdx fun i file =>
          ⟨displayPath file root, c.enabled.map fun a =>
            let j := c.job (d.requests + i + 1) file a
            a.report c.registry ⟨j, gave j⟩⟩) ∧
        let runs := (c.jobsFrom d.requests files).map fun j => EndedRun.mk j (gave j)
        let found := runs.flatMap (·.diagnostics c.registry)
        (CheckResult.ofFiles reports).summary =
          { errors := found.countP (·.severity == .error)
            warnings := found.countP (·.severity == .warning)
            failures := runs.countP (·.failure?.isSome)
            files := files.length } := by
  intro d c
  refine ⟨?_, fun j => Coordinator.mem_jobsFrom_iff, ?_⟩
  · obtain ⟨history, hchecking, hdesk, hgives⟩ := Session.checking_checkFiles hs root files
    exact ⟨history, _, hchecking, rfl, hdesk, hgives⟩
  · intro history reports hchecking
    obtain ⟨gave, hgave⟩ := hs.sound.desk.exists_results history
    obtain ⟨hruns, hreports⟩ := hchecking.reports_eq hs.sound.desk hown hgave
    refine ⟨gave, hruns, hreports, ?_⟩
    have hlength : reports.length = files.length := by rw [hreports, List.length_mapIdx]
    rw [← hlength]
    refine Summary.ofFiles_eq ?_
    rw [hreports]
    exact c.map_fileReports root gave d.requests files

/-- A runner that is done with the old file first, and gives a code that only one analyzer accepts
for any other. -/
def TimedRunner.twoSpeeds : TimedRunner Unit where
  run c s :=
    if c.args = ["old.php"] then ((.ok ⟨"3", some 0⟩, 1), s) else ((.ok ⟨"7", some 1⟩, 2), s)

/-- The runs for the old file end while the new file is checked, and are not reported. -/
theorem check_reports_runs_overlapping :
    let s : Session Unit := Session.handle
      ⟨{ runner := .twoSpeeds, state := (), desk := .fresh .numbers }⟩ (.saved "old.php")
    s.Reachable ∧ (∀ id, s.store.sequence id ≤ s.desk.requests) ∧ s.desk.outcomes? 1 = none ∧
      (s.check "/" ["new.php"]).1.files.flatMap (·.analyzers) =
        [⟨"alpha", "Alpha", [], some (Error.unexpectedExit "php" 1).message⟩,
          ⟨"beta", "Beta", [⟨"issue", ⟨6, 0⟩, .warning⟩], none⟩] := by
  intro s
  have hs : s.Reachable := (Session.Reachable.fresh ..).handle _
  have hown : ∀ id, s.store.sequence id ≤ s.desk.requests := fun id => Nat.zero_le 1
  obtain ⟨⟨history, reports, hchecking, hresult, -, hgives⟩, hjobs, hall⟩ :=
    check_reports_runs hs hown "/" ["new.php"]
  obtain ⟨gave, hruns, hreports, -⟩ := hall history reports hchecking
  have hnew : ∀ j ∈ Coordinator.numbers.jobsFrom 1 ["new.php"], j.command.args ≠ ["old.php"] := by
    decide
  have hgave : ∀ j ∈ Coordinator.numbers.jobsFrom 1 ["new.php"], gave j = .ok ⟨"7", some 1⟩ := by
    intro j hj
    obtain ⟨state, hstate⟩ := hgives _ (hruns j hj)
    refine hstate.symm.trans ?_
    change (TimedRunner.twoSpeeds.run j.command state).1.1 = _
    simp [TimedRunner.twoSpeeds, hnew j hj]
  have hanalyzers : Coordinator.numbers.enabled.map (fun a =>
        a.report Coordinator.numbers.registry
          ⟨Coordinator.numbers.job 2 "new.php" a, gave (Coordinator.numbers.job 2 "new.php" a)⟩) =
      Coordinator.numbers.enabled.map fun a => a.report Coordinator.numbers.registry
        ⟨Coordinator.numbers.job 2 "new.php" a, .ok ⟨"7", some 1⟩⟩ := by
    refine List.map_congr_left fun a ha => ?_
    have hjob := (hjobs (Coordinator.numbers.job 2 "new.php" a)).mpr ⟨0, "new.php", rfl, a, ha, rfl⟩
    rw [hgave _ hjob]
  refine ⟨hs, hown, rfl, ?_⟩
  rw [hresult, CheckResult.ofFiles, hreports]
  refine (List.append_nil _).trans (hanalyzers.trans ?_)
  decide

end LintDesk
