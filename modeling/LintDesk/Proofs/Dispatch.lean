import LintDesk.Check
import LintDesk.Config.Resolve
import LintDesk.Proofs.Check
import LintDesk.Proofs.Triggers

/-! # Every view has the enabled analyzers

The enabled analyzers are picked from the settings in several places: for the commands that are
shown, for the jobs of a request, for the providers, and for a configuration without a session. All
that is seen of a session goes back to one list of them. Each request has one job for each, in
order, and a job keeps its place among the jobs of its request whenever its run ends. What becomes
of the run is then decided by the exit codes and the rules of the analyzer that the command is from.
-/

namespace LintDesk

variable {σ : Type}

/-! ## What an analyzer makes of a run -/

namespace Analyzer

/-- What the exit codes and the rules of an analyzer make of a run of one of its commands. -/
def verdict (a : Analyzer) (command : CommandLine) (result : Except Error Captured) :
    Except Error (List Diagnostic) := do
  let text ← result.bind (·.accept command.program a.exitCodes)
  let reader ← ReportReader.compile a.id a.rules
  return reader.read text

/-- What becomes of a run for the request with the given number by the verdict of its analyzer. -/
def settle (a : Analyzer) (sequence : Nat) (command : CommandLine)
    (result : Except Error Captured) (store : Store) : Outcome × Store :=
  match a.verdict command result with
  | .error e => (.failed e.message, store)
  | .ok ds =>
      if sequence < store.sequence a.id then (.superseded, store)
      else (.updated ds.length, store.put a.id ⟨sequence, ds⟩)

end Analyzer

/-- The job is the analyzer's part of a request: it has the analyzer's id and its command for the
file, and the analyzer decides on its run. -/
structure Job.PartOf (j : Job) (c : Coordinator) (sequence : Nat) (file : String)
    (a : Analyzer) : Prop where
  analyzer : j.analyzer = a.id
  command : j.command = a.materialize (c.settings.context file)
  settle : ∀ result store,
    j.settle c.registry result store = a.settle sequence j.command result store

namespace Coordinator

variable {c : Coordinator} {settings : Settings} {a : Analyzer}

/-- The output of an analyzer is read by its own rules. -/
theorem exists_reader_of_ofSettings (h : ofSettings settings = .ok c) (ha : a ∈ c.enabled) :
    ∃ reader, ReportReader.compile a.id a.rules = .ok reader ∧
      ∀ text, c.registry.read a.id text = reader.read text := by
  cases hr : Registry.ofAnalyzers settings.analyzers with
  | error e =>
    rw [ofSettings_of_error hr] at h
    cases h
  | ok r =>
    obtain ⟨c', -, hc', hsettings, hregistry⟩ := ofSettings_of_ok hr
    obtain rfl := Except.ok.inj (hc'.symm.trans h)
    have hmem : a ∈ settings.analyzers := hsettings ▸ (List.mem_filter.mp ha).1
    obtain ⟨reader, hget, hcompile⟩ := (Registry.holds_of_ofAnalyzers hr).exists_reader hmem
    exact ⟨reader, hcompile, fun text => by rw [Registry.read, hregistry, hget]⟩

theorem partOf_job (h : ofSettings settings = .ok c) (ha : a ∈ c.enabled) (n : Nat)
    (file : String) : (c.job n file a).PartOf c n file a where
  analyzer := rfl
  command := rfl
  settle result store := by
    obtain ⟨reader, hcompile, hread⟩ := exists_reader_of_ofSettings h ha
    have hverdict : a.verdict (c.job n file a).command result =
        ((c.job n file a).accepted result).map reader.read := by
      have haccepted : (c.job n file a).accepted result =
          result.bind (·.accept (c.job n file a).command.program a.exitCodes) := rfl
      rw [Analyzer.verdict, hcompile, ← haccepted]
      cases (c.job n file a).accepted result with
      | error e => rfl
      | ok text => rfl
    rw [Job.settle, Analyzer.settle, hverdict]
    cases (c.job n file a).accepted result with
    | error e => rfl
    | ok text =>
      have hds : c.registry.read (c.job n file a).analyzer text = reader.read text := hread text
      simp only [hds, Store.setIfNewer, gt_iff_lt]
      by_cases hlt : n < store.sequence a.id
      · simp [job, Except.map, hlt]
      · simp [job, Except.map, hlt]

/-! ## The jobs of a request -/

theorem lt_sequence_of_mem_jobsFrom {files : List String} {k : Nat} {j : Job}
    (h : j ∈ c.jobsFrom k files) : k < j.sequence := by
  obtain ⟨i, file, -, a, -, rfl⟩ := mem_jobsFrom_iff.mp h
  exact Nat.lt_succ_of_le (Nat.le_add_right k i)

/-- The jobs for one of several files. -/
theorem filter_jobsFrom (c : Coordinator) {files : List String} {file : String} {k i : Nat}
    (h : files[i]? = some file) :
    (c.jobsFrom k files).filter (·.sequence == k + i + 1) = c.jobs (k + i + 1) file := by
  induction files generalizing k i with
  | nil => cases h
  | cons f files ih =>
    rw [jobsFrom, List.filter_append]
    cases i with
    | zero =>
      obtain rfl : f = file := Option.some.inj h
      have hself : (c.jobs (k + 1) f).filter (·.sequence == k + 1) = c.jobs (k + 1) f :=
        List.filter_eq_self.mpr fun j hj => by simp [sequence_of_mem_jobs hj]
      have hlater : (c.jobsFrom (k + 1) files).filter (·.sequence == k + 1) = [] :=
        List.filter_eq_nil_iff.mpr fun j hj => by
          simpa using (Nat.ne_of_lt (lt_sequence_of_mem_jobsFrom hj)).symm
      rw [Nat.add_zero, hself, hlater, List.append_nil]
    | succ i =>
      have hearlier : (c.jobs (k + 1) f).filter (·.sequence == k + (i + 1) + 1) = [] :=
        List.filter_eq_nil_iff.mpr fun j hj => by simp [sequence_of_mem_jobs hj]
      rw [hearlier, List.nil_append, show k + (i + 1) + 1 = k + 1 + i + 1 by omega]
      exact ih h

end Coordinator

namespace Desk

variable {d : Desk} {c : Coordinator} {store : Store} {n : Nat}

/-- Each request has the jobs for its file, whatever happens afterwards. -/
theorem jobs_ofRequest_after_fresh (c : Coordinator) (store : Store) (history : List DeskEvent)
    {file : String} {i : Nat} (h : (requestedFiles history)[i]? = some file) :
    (((fresh c store).after history).ofRequest (i + 1)).map (·.job) = c.jobs (i + 1) file := by
  have hjobs : ((fresh c store).after history).jobs = c.jobsFrom 0 (requestedFiles history) :=
    (jobs_after _ _).trans (List.nil_append _)
  have hfilter := c.filter_jobsFrom (k := 0) h
  rw [Nat.zero_add, ← hjobs] at hfilter
  rw [← hfilter, jobs, List.filter_map]
  rfl

/-- The outcomes of a request are those of the enabled analyzers in order, whenever its runs have
ended. -/
theorem map_fst_outcomes (c : Coordinator) (store : Store) (history : List DeskEvent)
    {outcomes : List (String × Outcome)} (hpos : 1 ≤ n)
    (hle : n ≤ ((fresh c store).after history).requests)
    (h : ((fresh c store).after history).outcomes? n = some outcomes) :
    outcomes.map (·.1) = c.enabled.map (·.id) := by
  obtain ⟨i, rfl⟩ : ∃ i, n = i + 1 := ⟨n - 1, by omega⟩
  rw [requests_after] at hle
  have hlt : i < (requestedFiles history).length := by
    have : (fresh c store).requests = 0 := rfl
    omega
  have hjobs := jobs_ofRequest_after_fresh c store history (List.getElem?_eq_getElem hlt)
  have hall := forall₂_outcomes (hjobs.trans (c.jobs_eq_map _ _)) h
  have hfst : List.Forall₂ (· = ·) (outcomes.map (·.1)) (c.enabled.map (·.id)) := by
    rw [List.forall₂_map_left_iff, List.forall₂_map_right_iff]
    exact hall.flip.imp fun p a hp => hp.1
  rwa [List.forall₂_eq_eq_eq] at hfst

/-- The tickets of a request are those of its jobs, and their runs have not ended. -/
theorem Sound.ofRequest_request (hd : d.Sound) (file : String) :
    (d.request file).ofRequest (d.requests + 1) =
      (d.coordinator.jobs (d.requests + 1) file).map fun j => { job := j } := by
  have hold : d.tickets.filter (·.job.sequence == d.requests + 1) = [] := by
    refine List.filter_eq_nil_iff.mpr fun ticket hticket => ?_
    have hjob : ticket.job ∈ d.jobs := List.mem_map_of_mem hticket
    have hle := (hd.numbered ticket.job hjob).2
    simpa using Nat.ne_of_lt (Nat.lt_succ_of_le hle)
  rw [ofRequest, Desk.request, List.filter_append, hold, List.nil_append, List.filter_eq_self]
  intro ticket hticket
  obtain ⟨j, hj, rfl⟩ := List.mem_map.mp hticket
  simp [Coordinator.sequence_of_mem_jobs hj]

@[simp] theorem analyzer_analyzerReport (d : Desk) (id : String) (o : Outcome) :
    (d.analyzerReport id o).analyzer = id := by
  cases o <;> rfl

@[simp] theorem name_analyzerReport (d : Desk) (id : String) (o : Outcome) :
    (d.analyzerReport id o).name = ((d.coordinator.provider? id).map (·.name)).getD id := by
  cases o <;> rfl

end Desk

/-- Traffic is a history of its desk. -/
theorem Traffic.exists_history (w : Traffic) (events : List TrafficEvent) :
    ∃ history, (w.after events).desk = w.desk.after history := by
  induction events generalizing w with
  | nil => exact ⟨[], rfl⟩
  | cons e events ih =>
    have hstep : ∃ history, (w.step e).desk = w.desk.after history := by
      cases e with
      | handle t => exact ⟨[.request t.path], rfl⟩
      | write id ds => exact ⟨[.write id ds], rfl⟩
      | receive =>
        rw [step]
        split
        · exact ⟨[], rfl⟩
        · next t _ _ => exact ⟨[.request t.path], rfl⟩
      | start place =>
        refine ⟨[], ?_⟩
        rw [step, start]
        split
        · rfl
        · split <;> rfl
      | finish place result =>
        rw [step, finish]
        split
        · exact ⟨[.complete place result], rfl⟩
        · exact ⟨[], rfl⟩
      | send _ | release _ => exact ⟨[], rfl⟩
    obtain ⟨h₁, hdesk⟩ := hstep
    obtain ⟨h₂, hrest⟩ := ih (w.step e)
    exact ⟨h₁ ++ h₂, by rw [after_cons, hrest, hdesk, Desk.after_append]⟩

/-! ## The runs that a request starts -/

namespace Timeline

variable {t : Timeline σ}

theorem jobs_start (t : Timeline σ) (place : Nat) : (t.start place).desk.jobs = t.desk.jobs := by
  rw [start]
  split
  · rfl
  · simp only
    split
    · exact Desk.jobs_complete ..
    · rfl

/-- When the runs at some places start, the commands of their jobs are written down in order. -/
theorem foldl_start_record (queue : List Nat) (t : Timeline σ) (log : List CommandLine) :
    queue.foldl start (t.record log) = (queue.foldl start t).record
      (log ++ queue.filterMap fun place => (t.desk.jobs[place]?).map (·.command)) := by
  induction queue generalizing t log with
  | nil => simp
  | cons place queue ih =>
    rw [List.foldl_cons, List.foldl_cons]
    cases hticket : t.desk.tickets[place]? with
    | none =>
      have hstart : t.start place = t := by simp [start, hticket]
      have hrecord : (t.record log).start place = t.record log := by
        have hnone : (t.record log).desk.tickets[place]? = none := hticket
        simp [start, hnone]
      simp [hstart, hrecord, ih, Desk.jobs, hticket]
    | some ticket =>
      rw [record_start hticket, ih, jobs_start]
      simp [Desk.jobs, hticket]

end Timeline

namespace Session

variable {s : Session σ} {c : Coordinator}

/-- The commands that are run when the queued runs of a session start, in that order. -/
def starting (s : Session σ) : List CommandLine := (s.record []).timeline.startQueued.state.2

theorem starting_eq (s : Session σ) : s.starting =
    s.timeline.queued.filterMap fun place => (s.desk.jobs[place]?).map (·.command) := by
  have hfold := Timeline.foldl_start_record s.timeline.queued { s.timeline with queued := [] } []
  exact congrArg (fun t => t.state.2) hfold

/-- A request adds its commands to those that are run when the queued runs start. -/
theorem starting_handle (s : Session σ)
    (hqueued : ∀ place ∈ s.timeline.queued, place < s.desk.jobs.length) (t : Trigger) :
    (s.handle t).starting = s.starting ++ (s.commands t.path).map (·.2) := by
  have hcommands : (s.commands t.path).map (·.2) =
      (s.desk.coordinator.jobs (s.desk.requests + 1) t.path).map (·.command) := by
    rw [Coordinator.jobs_eq_map, commands, Settings.commands, List.map_map, List.map_map]
    rfl
  have hjobs : (s.handle t).desk.jobs =
      s.desk.jobs ++ s.desk.coordinator.jobs (s.desk.requests + 1) t.path :=
    Desk.jobs_request s.desk t.path
  rw [starting_eq, starting_eq, hjobs, hcommands]
  have hplaces : (s.handle t).timeline.queued = s.timeline.queued ++
      (List.range (s.desk.coordinator.jobs (s.desk.requests + 1) t.path).length).map
        (s.desk.jobs.length + ·) := by
    have hnew : (s.desk.request t.path).tickets.length - s.desk.tickets.length =
        (s.desk.coordinator.jobs (s.desk.requests + 1) t.path).length := by simp [Desk.request]
    have hold : s.desk.jobs.length = s.desk.tickets.length := List.length_map ..
    rw [← hnew, hold]
    rfl
  rw [hplaces, List.filterMap_append]
  congr 1
  · refine List.filterMap_congr fun place hplace => ?_
    rw [List.getElem?_append_left (hqueued place hplace)]
  · rw [List.filterMap_map, ← Traffic.filterMap_range_getElem? Job.command]
    refine List.filterMap_congr fun i _ => ?_
    rw [Function.comp_apply, List.getElem?_append_right (Nat.le_add_right ..),
      Nat.add_sub_cancel_left]

/-! ## Sessions over a desk -/

/-- The session is one over a desk with the coordinator, which has taken its requests and settled
its jobs in some history. -/
structure RunsOver (c : Coordinator) (store : Store) (s : Session σ) : Prop where
  reachable : s.Reachable
  desk : ∃ history, s.desk = (Desk.fresh c store).after history

namespace RunsOver

variable {store : Store} {n : Nat}

theorem coordinator_eq (h : s.RunsOver c store) : s.desk.coordinator = c := by
  obtain ⟨history, hdesk⟩ := h.desk
  rw [hdesk, Desk.coordinator_after_fresh]

theorem handle (h : s.RunsOver c store) (t : Trigger) : (s.handle t).RunsOver c store where
  reachable := h.reachable.handle t
  desk := by
    obtain ⟨history, hdesk⟩ := h.desk
    refine ⟨history ++ [.request t.path], ?_⟩
    rw [Desk.after_append, ← hdesk]
    rfl

/-- Who waits for a request sees runs end, and gets the outcomes that are there then. -/
theorem exists_wait (h : s.RunsOver c store) (n : Nat) :
    ∃ history, (s.wait n).2.desk = (Desk.fresh c store).after history ∧
      (s.wait n).2.desk.requests = s.desk.requests ∧
      (s.wait n).2.desk.outcomes? n = some (s.wait n).1 := by
  obtain ⟨history, hdesk⟩ := h.desk
  obtain ⟨waiting, hlead, -, houtcomes⟩ := h.reachable.sound.wait n
  have hwait : (s.wait n).2.desk = s.desk.after waiting := hlead.desk
  refine ⟨history ++ waiting, ?_, ?_, houtcomes⟩
  · rw [hwait, hdesk, Desk.after_append]
  · rw [hwait, Desk.requests_after_completions _ hlead.completions]

theorem wait (h : s.RunsOver c store) (n : Nat) : (s.wait n).2.RunsOver c store where
  reachable := h.reachable.wait n
  desk := by
    obtain ⟨history, hdesk, -⟩ := h.exists_wait n
    exact ⟨history, hdesk⟩

theorem map_fst_wait (h : s.RunsOver c store) (hpos : 1 ≤ n) (hle : n ≤ s.desk.requests) :
    (s.wait n).1.map (·.1) = c.enabled.map (·.id) := by
  obtain ⟨history, hdesk, hrequests, houtcomes⟩ := h.exists_wait n
  rw [← hrequests] at hle
  rw [hdesk] at hle houtcomes
  exact Desk.map_fst_outcomes c store history hpos hle houtcomes

/-- The reports on a file are those of the enabled analyzers, under their own names. -/
theorem checkFile (h : s.RunsOver c store) (root file : String) :
    let r := (s.checkFile root file).1
    r.analyzers.map (·.analyzer) = c.enabled.map (·.id) ∧
      r.analyzers.map (·.name) = c.enabled.map (·.name) := by
  intro r
  have hhandle := h.handle (.saved file)
  have hids := hhandle.map_fst_wait (n := (s.handle (.saved file)).desk.requests)
    (Nat.le_add_left 1 s.desk.requests) (Nat.le_refl _)
  have hcoord := (hhandle.wait (s.handle (.saved file)).desk.requests).coordinator_eq
  constructor
  · rw [← hids]
    simp [r, Session.checkFile, Function.comp_def]
  · have hnames : r.analyzers.map (·.name) =
        (((s.handle (.saved file)).wait (s.handle (.saved file)).desk.requests).1.map (·.1)).map
          fun id => ((c.provider? id).map (·.name)).getD id := by
      simp [r, Session.checkFile, Function.comp_def, hcoord]
    rw [hnames, hids, List.map_map]
    refine List.map_congr_left fun a ha => ?_
    simp [Coordinator.provider?_id ha]

theorem checkFiles (h : s.RunsOver c store) (root : String) (files : List String) :
    ∀ r ∈ (s.checkFiles root files).1, r.analyzers.map (·.analyzer) = c.enabled.map (·.id) ∧
      r.analyzers.map (·.name) = c.enabled.map (·.name) := by
  induction files generalizing s with
  | nil => nofun
  | cons file files ih =>
    refine List.forall_mem_cons.mpr ⟨h.checkFile root file, ?_⟩
    exact ih ((h.handle (.saved file)).wait _)

end RunsOver

/-- A session that has been started, and what has been done with it since. -/
theorem exists_runsOver_of_start {gate gate' : Gate} {settings : Settings}
    {runner : TimedRunner σ} {store : Store} {state state' : σ}
    (h : start gate settings runner store state = (.ok s, gate', state'))
    (actions : List Action) : ∃ c, Coordinator.ofSettings settings = .ok c ∧
      (s.follow actions).RunsOver c store ∧
      ∀ place ∈ (s.follow actions).timeline.queued,
        place < (s.follow actions).desk.jobs.length := by
  have hreachable : s.Reachable := reachable_start (congrArg Prod.fst h)
  obtain ⟨c, hc, rfl⟩ := exists_of_start h
  have hfresh := Traffic.mirrors_fresh c store runner state'
  obtain ⟨events, -, hmirrors⟩ := Traffic.Mirrors.follow (v := Session.record _) hfresh actions
  obtain ⟨history, hhistory⟩ := (Traffic.fresh c store).exists_history events
  refine ⟨c, hc, ⟨hreachable.follow actions, history, hmirrors.desk.trans hhistory⟩, ?_⟩
  intro place hplace
  have hbound := hmirrors.bound place hplace
  rwa [← hmirrors.desk] at hbound

end Session

/-- Whatever has been done with a session, the commands that are shown for a file, with the session
or without it, are those that a request for the file adds to the ones that are run, one for each
enabled analyzer. The run of each is decided by the exit codes and rules of its own analyzer. The
providers, the outcomes of each request, in whatever order its runs end, and the reports on each
checked file are those of the enabled analyzers, too, in the same order, and no name is missing. -/
theorem views_agree {gate gate' : Gate} {settings : Settings} {runner : TimedRunner σ}
    {store : Store} {state state' : σ} {s₀ : Session σ}
    (h : Session.start gate settings runner store state = (.ok s₀, gate', state'))
    (actions : List Session.Action) :
    let s := s₀.follow actions
    let c := s.desk.coordinator
    let E := settings.analyzers.filter (·.enabled)
    let due file := E.map fun a => (a.id, a.materialize (settings.context file))
    (∀ file, s.commands file = due file ∧
      ∀ config : Config, config.settings = settings → config.commands file = due file) ∧
    (∀ t : Trigger, (s.handle t).starting = s.starting ++ (due t.path).map (·.2) ∧
      List.Forall₂ (fun a ticket => ticket.outcome = none ∧
          ticket.job.PartOf c (s.desk.requests + 1) t.path a)
        E ((s.handle t).desk.ofRequest (s.desk.requests + 1))) ∧
    (∀ history, ∀ j ∈ (s.desk.after history).jobs, ∃ a ∈ E, ∃ file, j.PartOf c j.sequence file a) ∧
    s.providers.map (·.id) = E.map (·.id) ∧
    (∀ n, 1 ≤ n → n ≤ s.desk.requests → (s.wait n).1.map (·.1) = E.map (·.id)) ∧
    (∀ history n outcomes, let d := s.desk.after history
      1 ≤ n → n ≤ d.requests → d.outcomes? n = some outcomes →
        outcomes.map (·.1) = E.map (·.id)) ∧
    (∀ root files, ∀ r ∈ (s.check root files).1.files,
      r.analyzers.map (·.analyzer) = E.map (·.id) ∧ r.analyzers.map (·.name) = E.map (·.name)) ∧
    ∀ a ∈ E, s.provider? a.id = some ⟨a.id, a.name⟩ := by
  intro s c E due
  obtain ⟨c', hc, hruns, hqueued⟩ := Session.exists_runsOver_of_start h actions
  obtain rfl : c = c' := hruns.coordinator_eq
  have hsettings : c.settings = settings := Coordinator.settings_of_ofSettings hc
  have henabled : c.enabled = E := by rw [Coordinator.enabled, hsettings]
  have hcommands : ∀ file, s.commands file = due file := by
    intro file
    change c.settings.commands file = due file
    rw [hsettings, Settings.commands]
  obtain ⟨history₀, hdesk⟩ := hruns.desk
  rw [← henabled]
  refine ⟨fun file => ⟨hcommands file, ?_⟩, fun t => ⟨?_, ?_⟩, ?_, ?_, ?_, ?_, ?_, ?_⟩
  · rintro config rfl
    rfl
  · rw [Session.starting_handle s hqueued t, hcommands]
  · have htickets : (s.handle t).desk.ofRequest (s.desk.requests + 1) =
        (c.jobs (s.desk.requests + 1) t.path).map fun j => { job := j } :=
      hruns.reachable.sound.desk.ofRequest_request t.path
    rw [htickets, Coordinator.jobs_eq_map, List.map_map, List.forall₂_map_right_iff]
    exact List.forall₂_same.mpr fun a ha => ⟨rfl, Coordinator.partOf_job hc ha _ t.path⟩
  · intro history j hj
    rw [hdesk, ← Desk.after_append] at hj
    obtain ⟨a, ha, file, hjob⟩ := (Desk.sound_after_fresh c store _).exists_analyzer hj
    rw [Desk.coordinator_after_fresh] at ha hjob
    refine ⟨a, ha, file, ?_⟩
    have hpart := Coordinator.partOf_job hc ha j.sequence file
    rwa [hjob] at hpart
  · change c.providers.map (·.id) = _
    rw [Coordinator.providers, List.map_map]
    rfl
  · exact fun n hpos hle => hruns.map_fst_wait hpos hle
  · intro history n outcomes d hpos hle houtcomes
    have hd : d = (Desk.fresh c store).after (history₀ ++ history) := by
      rw [Desk.after_append, ← hdesk]
    rw [hd] at hle houtcomes
    exact Desk.map_fst_outcomes c store _ hpos hle houtcomes
  · exact fun root files => hruns.checkFiles root files
  · exact fun a ha => Coordinator.provider?_id ha

/-- The runs for the slow file end last, and the third analyzer is left out of every view. -/
theorem views_agree_oneSlow :
    let s₀ : Session Unit := ⟨{ runner := .oneSlow, state := (), desk := .fresh .unread }⟩
    let s := s₀.follow [.handle (.saved "slow.php"), .handle (.focused "fast.php")]
    Session.start ⟨.ofInterpreter "php", none⟩ Coordinator.unread.settings .oneSlow .empty () =
        (.ok s₀, ⟨.ofInterpreter "php", some none⟩, ()) ∧
      s.commands "a b.php" = [("alpha", ⟨"php", ["a b.php"]⟩), ("beta", ⟨"php", ["a b.php"]⟩)] ∧
      (s.handle (.saved "a b.php")).starting =
        s.starting ++ [⟨"php", ["a b.php"]⟩, ⟨"php", ["a b.php"]⟩] ∧
      1 ≤ s.desk.requests ∧ (s.wait 1).1.map (·.1) = ["alpha", "beta"] ∧
      ((s.wait 2).2.check "/" ["slow.php"]).1.files.map (·.analyzers.map (·.name)) =
        [["Alpha", "Beta"]] := by
  have hs : Session.start ⟨.ofInterpreter "php", none⟩ Coordinator.unread.settings .oneSlow .empty
      () = (.ok ⟨{ runner := .oneSlow, state := (), desk := .fresh .unread }⟩,
        ⟨.ofInterpreter "php", some none⟩, ()) := by rfl
  intro s₀ s
  have hrequests : 1 ≤ s.desk.requests := by decide
  obtain ⟨hcommands, hstarting, -, -, hwait, -⟩ :=
    views_agree hs [.handle (.saved "slow.php"), .handle (.focused "fast.php")]
  refine ⟨hs, (hcommands "a b.php").1.trans (by decide), ?_, hrequests, ?_, by decide⟩
  · exact (hstarting (.saved "a b.php")).1.trans (congrArg _ (by decide))
  · exact (hwait 1 (Nat.le_refl 1) hrequests).trans (by decide)

end LintDesk
