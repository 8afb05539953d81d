import LintDesk.Proofs.Triggers

/-! # Nothing runs behind a closed gate

A gate is visited any number of times: it is checked, or a session is started at it and goes its
way. The first visit runs the probe and thereby decides all of them. When it finds a fault no other
command is ever run and no result comes into the store; when it does not, a session may still fail
for its settings, and then leaves no trace but the probe.
-/

namespace LintDesk

variable {σ : Type}

/-- A text occurs in another one if it is a piece of it. -/
theorem Text.occurs_iff {part s : List Char} : occurs part s = true ↔ part <:+: s := by
  induction s with
  | nil => simp [occurs]
  | cons c s ih => simp [occurs, ih, List.infix_cons_iff]

namespace Probe

theorem fault?_eq_none_iff {p : Probe} {reply : Except Error Captured} :
    p.fault? reply = none ↔ ∃ out, reply = .ok out ∧ p.marker.toList <:+: out.text.toList := by
  cases reply with
  | error e => simp [fault?]
  | ok out => simp [fault?, Text.contains, Text.occurs_iff]

theorem reason_of_fault? {p : Probe} {reply : Except Error Captured} {reason : String} :
    p.fault? reply = some reason → reason =
      match reply with
      | .ok _ => "output does not contain " ++ ticked p.marker
      | .error e => e.message := by
  intro h
  cases reply with
  | error e => exact (Option.some.inj h).symm
  | ok out =>
    rw [fault?] at h
    split at h
    · cases h
    · exact (Option.some.inj h).symm

end Probe

/-- What can be done at a gate. -/
inductive Visit where
  | check
  /-- A session is started and, if it can be, goes through some actions. -/
  | session (settings : Settings) (actions : List Session.Action)

/-- A gate with the store behind it, the state of the runner, and the commands that have been
run. -/
structure Site (σ : Type) where
  gate : Gate
  store : Store
  state : σ
  commands : List CommandLine := []

namespace Site

/-- Visits the gate, and tells whether it has let the visitor in. -/
def visit (runner : TimedRunner σ) (site : Site σ) : Visit → Except Error Unit × Site σ
  | .check =>
      let (result, gate, state, commands) :=
        site.gate.check runner.recorded.untimed (site.state, site.commands)
      (result, { site with gate := gate, state := state, commands := commands })
  | .session settings actions =>
      match Session.start site.gate settings runner.recorded site.store
          (site.state, site.commands) with
      | (.error e, gate, state, commands) =>
          (.error e, { site with gate := gate, state := state, commands := commands })
      | (.ok s, gate, _) =>
          let t := (s.follow actions).timeline
          (.ok (), ⟨gate, t.desk.store, t.state.1, t.state.2⟩)

def after (runner : TimedRunner σ) (site : Site σ) (visits : List Visit) : Site σ :=
  visits.foldl (fun site v => (site.visit runner v).2) site

variable {runner : TimedRunner σ} {site : Site σ} {p : Probe} {fault : Option String}
  {probing : List CommandLine} {v : Visit}

/-- Whoever asks the gate is told of the fault, if there is one, and these are the commands that are
run for the answer. -/
def Answers (runner : TimedRunner σ) (site : Site σ) (p : Probe) (fault : Option String)
    (probing : List CommandLine) : Prop :=
  ∃ state, site.gate.check runner.untimed site.state =
      (Gate.verdict ⟨p, some fault⟩ fault, ⟨p, some fault⟩, state) ∧
    site.gate.check runner.recorded.untimed (site.state, site.commands) =
      (Gate.verdict ⟨p, some fault⟩ fault, ⟨p, some fault⟩, state, site.commands ++ probing)

/-- A gate that nobody has been at runs its probe. -/
theorem answers_first (runner : TimedRunner σ) (p : Probe) (store : Store) (state : σ)
    (commands : List CommandLine) :
    Answers runner ⟨⟨p, none⟩, store, state, commands⟩ p
      (p.fault? (runner.run p.command state).1.1) [p.command] := ⟨_, rfl, rfl⟩

/-- A gate that has its answer runs nothing. -/
theorem answers_later (h : site.gate = ⟨p, some fault⟩) : site.Answers runner p fault [] := by
  refine ⟨site.state, ?_, ?_⟩
  · rw [h]
    rfl
  · rw [h, List.append_nil]
    rfl

/-- What a visit can come to. -/
inductive Visited (runner : TimedRunner σ) (site : Site σ) (p : Probe)
    (probing : List CommandLine) : Option String → Visit → Except Error Unit × Site σ → Prop
  | refused (v : Visit) (reason : String) (state : σ) :
      Visited runner site p probing (some reason) v
        (.error (.toolUnavailable p.program reason),
          ⟨⟨p, some (some reason)⟩, site.store, state, site.commands ++ probing⟩)
  | checked (state : σ) :
      Visited runner site p probing none .check
        (.ok (), ⟨⟨p, some none⟩, site.store, state, site.commands ++ probing⟩)
  | misconfigured (settings : Settings) (actions : List Session.Action) (e : Error) (state : σ)
      (he : Coordinator.ofSettings settings = .error e) :
      Visited runner site p probing none (.session settings actions)
        (.error e, ⟨⟨p, some none⟩, site.store, state, site.commands ++ probing⟩)
  | served (settings : Settings) (actions : List Session.Action) (c : Coordinator) (s : Session σ)
      (state : σ) (hc : Coordinator.ofSettings settings = .ok c)
      (hs : Session.start site.gate settings runner site.store site.state =
        (.ok s, ⟨p, some none⟩, state)) :
      Visited runner site p probing none (.session settings actions)
        (.ok (), ⟨⟨p, some none⟩, (s.follow actions).store, (s.follow actions).timeline.state,
          site.commands ++ probing ++ s.executed actions⟩)

/-- Before anything else the gate is asked. -/
theorem Answers.visited (h : site.Answers runner p fault probing) (v : Visit) :
    Visited runner site p probing fault v (site.visit runner v) := by
  obtain ⟨state, hplain, hcheck⟩ := h
  cases v with
  | check =>
    simp only [visit, hcheck]
    cases fault with
    | some reason => exact .refused .check reason state
    | none => exact .checked state
  | session settings actions =>
    simp only [visit, Session.start, hcheck]
    cases fault with
    | some reason => exact .refused _ reason state
    | none =>
      simp only [Gate.verdict]
      cases hc : Coordinator.ofSettings settings with
      | error e => exact .misconfigured settings actions e state hc
      | ok c =>
        let s : Session σ := ⟨{ runner := runner, state := state, desk := .fresh c site.store }⟩
        have hs : Session.start site.gate settings runner site.store site.state =
            (.ok s, ⟨p, some none⟩, state) := by
          simp only [Session.start, hplain, Gate.verdict, hc, s]
        obtain ⟨-, -, -, -, -, -, hrecord⟩ :=
          Session.exists_traffic_follow c runner site.store state actions
        let t := ((s.record (site.commands ++ probing)).follow actions).timeline
        have hserved : Visited runner site p probing none (.session settings actions)
            (.ok (), ⟨⟨p, some none⟩, t.desk.store, t.state.1, t.state.2⟩) := by
          simp only [t, s, hrecord]
          exact .served settings actions c s state hc hs
        exact hserved

/-- Once somebody has been at the gate, it has its answer. -/
theorem Visited.gate_eq {result : Except Error Unit} {site' : Site σ}
    (h : Visited runner site p probing fault v (result, site')) : site'.gate = ⟨p, some fault⟩ := by
  cases h <;> rfl

/-- However often a gate has been visited, whoever asks is told what the first reply to the probe has
been found to say. -/
theorem answers_after (runner : TimedRunner σ) (p : Probe) (store : Store) (state : σ)
    (visits : List Visit) :
    Answers runner (after runner ⟨⟨p, none⟩, store, state, []⟩ visits) p
      (p.fault? (runner.run p.command state).1.1) (if visits = [] then [p.command] else []) := by
  induction visits using List.reverseRecOn with
  | nil => exact answers_first runner p store state []
  | append_singleton visits v ih =>
    rw [if_neg (List.append_ne_nil_of_right_ne_nil _ (List.cons_ne_nil _ _)), after,
      List.foldl_append]
    exact answers_later (ih.visited v).gate_eq

/-- Behind a gate that has found a fault no run takes place, however often it is visited. -/
theorem refused_after {reason : String} {state : σ} (store : Store)
    (h : p.fault? (runner.run p.command state).1.1 = some reason) (visits : List Visit) :
    (after runner ⟨⟨p, none⟩, store, state, []⟩ visits).store = store ∧
      (after runner ⟨⟨p, none⟩, store, state, []⟩ visits).commands =
        if visits = [] then [] else [p.command] := by
  induction visits using List.reverseRecOn with
  | nil => exact ⟨rfl, rfl⟩
  | append_singleton visits v ih =>
    have hvisited := (answers_after runner p store state visits).visited v
    rw [h] at hvisited
    rw [after, List.foldl_append]
    change (visit runner (after runner _ visits) v).2.store = store ∧
      (visit runner (after runner _ visits) v).2.commands = _
    generalize visit runner (after runner _ visits) v = result at hvisited ⊢
    cases hvisited
    refine ⟨ih.1, ?_⟩
    rw [ih.2]
    split <;> simp

end Site

/-- Whether the probe has run and its output contains the marker decides every visit. If not, no
visitor gets in, and nothing has been run but the probe. If so, a session fails for its settings
only, before it has run a command. A check runs to its end here; one that is given up while the
probe is under way is not among the visits. -/
theorem gate_decides_once (p : Probe) (runner : TimedRunner σ) (store : Store) (state : σ) :
    let reply := (runner.run p.command state).1.1
    let fault := p.fault? reply
    let site : Site σ := { gate := { probe := p }, store := store, state := state }
    (fault = none ↔ ∃ out, reply = .ok out ∧ p.marker.toList <:+: out.text.toList) ∧
    (∀ reason, fault = some reason → reason =
      match reply with
      | .ok _ => "output does not contain " ++ ticked p.marker
      | .error e => e.message) ∧
    ∀ (past : List Visit) (v : Visit),
      let before := site.after runner past
      let (result, after) := before.visit runner v
      let probed := before.commands ++ if past = [] then [p.command] else []
      after.gate.isAvailable? = some fault.isNone ∧
      (∀ reason, fault = some reason →
        result = .error (.toolUnavailable p.program reason) ∧
          after.store = store ∧ after.commands = [p.command]) ∧
      (fault = none →
        match v with
        | .check => result = .ok () ∧ after.store = before.store ∧ after.commands = probed
        | .session settings actions =>
          match Coordinator.ofSettings settings with
          | .error e => result = .error e ∧ after.store = before.store ∧ after.commands = probed
          | .ok _ => ∃ s state',
            Session.start before.gate settings runner before.store before.state =
              (.ok s, after.gate, state') ∧
            result = .ok () ∧ after.store = (s.follow actions).store ∧
              after.commands = probed ++ s.executed actions ∧
              s.executed actions ⊆ settings.due (actions.flatMap (·.triggers))) := by
  intro reply fault site
  refine ⟨Probe.fault?_eq_none_iff, fun reason => Probe.reason_of_fault?, fun past v => ?_⟩
  have hvisited := (Site.answers_after runner p store state past).visited v
  have hrefused (reason : String) (h : fault = some reason) :=
    Site.refused_after store h past
  intro before
  change Site.Visited runner before p _ fault v (before.visit runner v) at hvisited
  generalize before.visit runner v = visited at hvisited ⊢
  generalize fault = decided at hvisited hrefused ⊢
  cases hvisited with
  | refused v reason state' =>
    obtain ⟨hstore, hcommands⟩ := hrefused reason rfl
    refine ⟨rfl, fun reason' h => ?_, nofun⟩
    obtain rfl := Option.some.inj h
    refine ⟨rfl, hstore, ?_⟩
    change before.commands ++ _ = [p.command]
    rw [hcommands]
    split <;> rfl
  | checked state' => exact ⟨rfl, nofun, fun _ => ⟨rfl, rfl, rfl⟩⟩
  | misconfigured settings actions e state' he =>
    refine ⟨rfl, nofun, fun _ => ?_⟩
    dsimp only
    rw [he]
    exact ⟨rfl, rfl, rfl⟩
  | served settings actions c s state' hc hs =>
    refine ⟨rfl, nofun, fun _ => ?_⟩
    dsimp only
    rw [hc]
    exact ⟨s, state', hs, rfl, rfl, rfl, Session.executed_subset_due hs actions⟩

/-- A runner that finds the interpreter from the second run on. -/
def TimedRunner.late : TimedRunner Nat where
  run c n :=
    if n = 0 then ((.error (.spawn c.program "not found"), 0), 1)
    else ((.ok ⟨"PHP 8", some 0⟩, 0), n + 1)

/-- The interpreter comes too late for a gate that has looked for it. -/
example :
    let site : Site Nat := ⟨{ probe := .ofInterpreter "php" }, .empty, 0, []⟩
    let after := site.after .late
      [.check, .session Coordinator.numbers.settings [.handle (.saved "a.php"), .sleep 1]]
    after.gate.isAvailable? = some false ∧ after.commands = [⟨"php", ["-v"]⟩] := by decide

end LintDesk
