import Mathlib.Data.List.Forall2
import Mathlib.Data.List.Induction
import LintDesk.Proofs.Desk

/-! # Settings that can be used

The analyzers of some settings are looked at three times before the first run: their rules are read
and registered, their ids are compared, and then each is looked up among the registered ones. Only
the first time something can be found wrong. A registry that has come out of it has one reader for
each analyzer, in order, and it is the reader of the analyzer's own rules.
-/

namespace LintDesk

/-! ## What can be wrong -/

namespace OutputRule

/-- The pattern of a sound rule can be read and has a group for the number of the line. -/
def Sound (rule : OutputRule) : Prop :=
  ∃ regex, Regex.compile? rule.pattern = some regex ∧ regex.hasGroup "line" = true

instance : DecidablePred Sound := fun rule =>
  decidable_of_iff ((Regex.compile? rule.pattern).any (·.hasGroup "line") = true)
    (by simp [Sound, Option.any_eq_true])

/-- What is wrong with a rule of the named analyzer. -/
inductive Fault (analyzer : String) (rule : OutputRule) : Error → Prop
  | pattern (h : Regex.compile? rule.pattern = none) :
      Fault analyzer rule (.invalidPattern analyzer)
  | group {regex : Regex} (h : Regex.compile? rule.pattern = some regex)
      (hgroup : regex.hasGroup "line" = false) :
      Fault analyzer rule (.invalidRule analyzer rule.pattern)

variable {rule : OutputRule} {analyzer : String} {e : Error}

theorem sound_or_fault (analyzer : String) (rule : OutputRule) :
    rule.Sound ∨ ∃ e, rule.Fault analyzer e := by
  cases h : Regex.compile? rule.pattern with
  | none => exact .inr ⟨_, .pattern h⟩
  | some regex =>
    cases hgroup : regex.hasGroup "line" with
    | true => exact .inl ⟨regex, h, hgroup⟩
    | false => exact .inr ⟨_, .group h hgroup⟩

theorem Sound.not_fault (hs : rule.Sound) (e : Error) : ¬rule.Fault analyzer e := by
  obtain ⟨regex, hregex, hgroup⟩ := hs
  rintro (h | ⟨h, hno⟩)
  · rw [hregex] at h
    cases h
  · rw [hregex] at h
    obtain rfl := Option.some.inj h
    rw [hgroup] at hno
    cases hno

theorem Sound.exists_compile (hs : rule.Sound) (analyzer : String) :
    ∃ compiled, rule.compile analyzer = .ok compiled := by
  obtain ⟨regex, h, hgroup⟩ := hs
  exact ⟨_, by simp [compile, h, hgroup]; rfl⟩

theorem Fault.compile_eq (h : rule.Fault analyzer e) : rule.compile analyzer = .error e := by
  cases h with
  | pattern h => simp [compile, h]
  | group h hgroup => simp [compile, h, hgroup]

/-- Rules are all sound, or there is a first one that is not. -/
theorem all_sound_or_fault (analyzer : String) (rules : List OutputRule) :
    (∀ rule ∈ rules, rule.Sound) ∨ ∃ before rule after e, rules = before ++ rule :: after ∧
      (∀ r ∈ before, r.Sound) ∧ rule.Fault analyzer e := by
  induction rules with
  | nil => exact .inl nofun
  | cons rule rules ih =>
    rcases sound_or_fault analyzer rule with hs | ⟨e, he⟩
    · rcases ih with hall | ⟨before, r, after, e, rfl, hbefore, he⟩
      · exact .inl (List.forall_mem_cons.mpr ⟨hs, hall⟩)
      · exact .inr ⟨rule :: before, r, after, e, rfl, List.forall_mem_cons.mpr ⟨hs, hbefore⟩, he⟩
    · exact .inr ⟨[], rule, rules, e, rfl, nofun, he⟩

end OutputRule

namespace Analyzer

/-- What is wrong with an analyzer that comes after some others: its first rule that is not sound,
or, if all of them are, its id that one of the others has, too. -/
inductive Fault (earlier : List Analyzer) (a : Analyzer) : Error → Prop
  | rule {before after : List OutputRule} {rule : OutputRule} {e : Error}
      (hrules : a.rules = before ++ rule :: after) (hbefore : ∀ r ∈ before, r.Sound)
      (h : rule.Fault a.id e) : Fault earlier a e
  | id (hrules : ∀ r ∈ a.rules, r.Sound) (h : a.id ∈ earlier.map (·.id)) :
      Fault earlier a (.duplicateAnalyzer a.id)

/-- Analyzers with different ids whose rules are sound. -/
structure Faultless (as : List Analyzer) : Prop where
  ids : (as.map (·.id)).Nodup
  rules : ∀ a ∈ as, ∀ rule ∈ a.rules, rule.Sound

/-- An analyzer that comes after some others is as good as they are, or it is at fault. -/
theorem sound_or_fault (earlier : List Analyzer) (a : Analyzer) :
    ((∀ rule ∈ a.rules, rule.Sound) ∧ a.id ∉ earlier.map (·.id)) ∨ ∃ e, a.Fault earlier e := by
  rcases OutputRule.all_sound_or_fault a.id a.rules with
    hsound | ⟨before, rule, after, e, hrules, hbefore, he⟩
  · by_cases hid : a.id ∈ earlier.map (·.id)
    · exact .inr ⟨_, .id hsound hid⟩
    · exact .inl ⟨hsound, hid⟩
  · exact .inr ⟨e, .rule hrules hbefore he⟩

theorem Faultless.append_singleton {as : List Analyzer} {a : Analyzer} (h : Faultless as)
    (hrules : ∀ rule ∈ a.rules, rule.Sound) (hid : a.id ∉ as.map (·.id)) :
    Faultless (as ++ [a]) where
  ids := by
    rw [List.map_append]
    refine h.ids.append (List.nodup_singleton _) fun id hmem hlast => ?_
    rw [List.mem_singleton.mp hlast] at hmem
    exact hid hmem
  rules := by
    intro b hb
    rcases List.mem_append.mp hb with hb | hb
    · exact h.rules b hb
    · rw [List.mem_singleton.mp hb]
      exact hrules

theorem Fault.not_faultless {earlier later : List Analyzer} {a : Analyzer} {e : Error}
    (h : a.Fault earlier e) : ¬Faultless (earlier ++ a :: later) := by
  intro hf
  cases h with
  | @rule before after rule e hrules hbefore h =>
    have hsound := hf.rules a (List.mem_append_right _ List.mem_cons_self) rule
      (hrules ▸ List.mem_append_right _ List.mem_cons_self)
    exact hsound.not_fault e h
  | id hrules h =>
    have hids := hf.ids
    rw [List.map_append, List.map_cons] at hids
    exact (List.disjoint_of_nodup_append hids) h List.mem_cons_self

end Analyzer

/-! ## Reading the rules -/

namespace ReportReader

variable {analyzer : String} {rules : List OutputRule}

theorem exists_compile (h : ∀ rule ∈ rules, rule.Sound) (analyzer : String) :
    ∃ reader, compile analyzer rules = .ok reader := by
  have hmap : ∃ compiled, rules.mapM (OutputRule.compile analyzer) = .ok compiled := by
    induction rules with
    | nil => exact ⟨[], rfl⟩
    | cons rule rules ih =>
      obtain ⟨c, hc⟩ := (h rule List.mem_cons_self).exists_compile analyzer
      obtain ⟨cs, hcs⟩ := ih fun r hr => h r (List.mem_cons_of_mem _ hr)
      exact ⟨c :: cs, by rw [List.mapM_cons, hc, hcs]; rfl⟩
  obtain ⟨compiled, hcompiled⟩ := hmap
  exact ⟨⟨compiled⟩, by rw [compile, hcompiled]; rfl⟩

theorem compile_of_fault {before after : List OutputRule} {rule : OutputRule} {e : Error}
    (hbefore : ∀ r ∈ before, r.Sound) (h : rule.Fault analyzer e) :
    compile analyzer (before ++ rule :: after) = .error e := by
  have hmap : (before ++ rule :: after).mapM (OutputRule.compile analyzer) = .error e := by
    induction before with
    | nil =>
      rw [List.nil_append, List.mapM_cons, h.compile_eq]
      rfl
    | cons r before ih =>
      obtain ⟨c, hc⟩ := (hbefore r List.mem_cons_self).exists_compile analyzer
      rw [List.cons_append, List.mapM_cons, hc,
        ih fun s hs => hbefore s (List.mem_cons_of_mem _ hs)]
      rfl
  rw [compile, hmap]
  rfl

end ReportReader

/-! ## Registering analyzers -/

namespace Registry

variable {r : Registry} {as : List Analyzer} {a : Analyzer} {e : Error}

/-- The registry has the readers of some analyzers without fault, in order. -/
structure Holds (r : Registry) (as : List Analyzer) : Prop where
  faultless : Analyzer.Faultless as
  entries : List.Forall₂
    (fun a p => p.1 = a.id ∧ ReportReader.compile a.id a.rules = .ok p.2) as r.entries

theorem Holds.map_fst (h : r.Holds as) : r.entries.map (·.1) = as.map (·.id) := by
  obtain ⟨entries⟩ := r
  obtain ⟨-, hentries⟩ := h
  simp only at hentries ⊢
  induction hentries with
  | nil => rfl
  | cons hp _ ih => rw [List.map_cons, List.map_cons, hp.1, ih]

theorem Holds.contains_iff (h : r.Holds as) (id : String) :
    r.contains id = true ↔ id ∈ as.map (·.id) := by
  rw [← h.map_fst, contains, get?, Option.isSome_map, List.find?_isSome, List.mem_map]
  simp

/-- The reader that is looked up for an analyzer reads by the analyzer's own rules. -/
theorem Holds.exists_reader (h : r.Holds as) (ha : a ∈ as) :
    ∃ reader, r.get? a.id = some reader ∧ ReportReader.compile a.id a.rules = .ok reader := by
  obtain ⟨entries⟩ := r
  obtain ⟨⟨hids, -⟩, hentries⟩ := h
  simp only [get?] at hentries ⊢
  induction hentries with
  | nil => cases ha
  | @cons b p bs ps hp _ ih =>
    obtain ⟨hb, hbs⟩ := List.nodup_cons.mp hids
    rcases List.mem_cons.mp ha with rfl | ha
    · exact ⟨p.2, by simp [hp.1], hp.2⟩
    · have hne : p.1 ≠ a.id := fun heq => hb (List.mem_map.mpr ⟨a, ha, heq.symm.trans hp.1⟩)
      simpa [hne] using ih ha hbs

/-- An analyzer at fault is refused for what is wrong with it. -/
theorem Holds.registerRules_of_fault (h : r.Holds as) (hfault : a.Fault as e) :
    r.registerRules a.id a.rules = .error e := by
  rw [registerRules]
  cases hfault with
  | rule hrules hbefore hrule =>
    rw [hrules, ReportReader.compile_of_fault hbefore hrule]
    rfl
  | id hrules hid =>
    obtain ⟨reader, hreader⟩ := ReportReader.exists_compile hrules a.id
    rw [hreader]
    exact if_pos ((h.contains_iff a.id).mpr hid)

/-- Any other analyzer is registered. -/
theorem Holds.registerRules_of_sound (h : r.Holds as) (hrules : ∀ rule ∈ a.rules, rule.Sound)
    (hid : a.id ∉ as.map (·.id)) :
    ∃ r', r.registerRules a.id a.rules = .ok r' ∧ r'.Holds (as ++ [a]) := by
  obtain ⟨reader, hreader⟩ := ReportReader.exists_compile hrules a.id
  refine ⟨⟨r.entries ++ [(a.id, reader)]⟩, ?_, h.faultless.append_singleton hrules hid, ?_⟩
  · rw [registerRules, hreader]
    exact if_neg (mt (h.contains_iff a.id).mp hid)
  · exact List.rel_append h.entries (.cons ⟨rfl, hreader⟩ .nil)

theorem ofAnalyzers_append (as bs : List Analyzer) : ofAnalyzers (as ++ bs) =
    (ofAnalyzers as).bind fun r => bs.foldlM (fun r a => r.registerRules a.id a.rules) r :=
  List.foldlM_append

/-- The analyzers are registered, or the first one at fault is refused. -/
theorem ofAnalyzers_cases (as : List Analyzer) : (∃ r, ofAnalyzers as = .ok r ∧ r.Holds as) ∨
    ∃ earlier a later e, as = earlier ++ a :: later ∧ Analyzer.Faultless earlier ∧
      a.Fault earlier e ∧ ofAnalyzers as = .error e := by
  induction as using List.reverseRecOn with
  | nil => exact .inl ⟨{}, rfl, ⟨List.nodup_nil, nofun⟩, .nil⟩
  | append_singleton as a ih =>
    rcases ih with ⟨r, hr, hholds⟩ | ⟨earlier, b, later, e, rfl, hearlier, hfault, he⟩
    · rcases a.sound_or_fault as with ⟨hrules, hid⟩ | ⟨e, hfault⟩
      · obtain ⟨r', hr', hholds'⟩ := hholds.registerRules_of_sound hrules hid
        refine .inl ⟨r', ?_, hholds'⟩
        rw [ofAnalyzers_append, hr]
        simp only [Except.bind, List.foldlM_cons, hr']
        rfl
      · refine .inr ⟨as, a, [], e, rfl, hholds.faultless, hfault, ?_⟩
        rw [ofAnalyzers_append, hr]
        simp only [Except.bind, List.foldlM_cons, hholds.registerRules_of_fault hfault]
        rfl
    · refine .inr ⟨earlier, b, later ++ [a], e, by simp, hearlier, hfault, ?_⟩
      rw [ofAnalyzers_append, he]
      rfl

theorem exists_ofAnalyzers (h : Analyzer.Faultless as) :
    ∃ r, ofAnalyzers as = .ok r ∧ r.Holds as := by
  rcases ofAnalyzers_cases as with hok | ⟨earlier, a, later, e, rfl, -, hfault, -⟩
  · exact hok
  · exact absurd h hfault.not_faultless

theorem holds_of_ofAnalyzers (h : ofAnalyzers as = .ok r) : r.Holds as := by
  rcases ofAnalyzers_cases as with ⟨r', hr', hholds⟩ | ⟨-, -, -, e, -, -, -, he⟩
  · obtain rfl := Except.ok.inj (h.symm.trans hr')
    exact hholds
  · rw [h] at he
    cases he

/-- Nothing that comes after the first fault matters. -/
theorem ofAnalyzers_of_fault {earlier later : List Analyzer} (h : Analyzer.Faultless earlier)
    (hfault : a.Fault earlier e) : ofAnalyzers (earlier ++ a :: later) = .error e := by
  obtain ⟨r, hr, hholds⟩ := exists_ofAnalyzers h
  rw [ofAnalyzers_append, hr]
  simp only [Except.bind, List.foldlM_cons, hholds.registerRules_of_fault hfault]
  rfl

end Registry

/-! ## Setting up a coordinator -/

namespace Coordinator

variable {settings : Settings} {r : Registry} {c : Coordinator}

/-- Nothing is found wrong with the analyzers when they are looked at again. -/
theorem withRegistry_of_holds (h : r.Holds settings.analyzers) : ∃ c,
    withRegistry settings r = .ok c ∧ c.settings = settings ∧ c.registry = r := by
  simp only [withRegistry]
  split
  · next id hrep =>
    rw [firstRepeated_eq_none_iff.mpr ⟨h.faultless.ids, fun _ _ => List.not_mem_nil⟩] at hrep
    cases hrep
  · split
    · next id hmiss =>
      have hcontains := (h.contains_iff id).mpr (List.mem_of_find?_eq_some hmiss)
      have hnot := List.find?_some hmiss
      simp [hcontains] at hnot
    · exact ⟨_, rfl, rfl, rfl⟩

theorem ofSettings_of_ok (h : Registry.ofAnalyzers settings.analyzers = .ok r) :
    ∃ c, withRegistry settings r = .ok c ∧ ofSettings settings = .ok c ∧
      c.settings = settings ∧ c.registry = r := by
  obtain ⟨c, hc, hsettings, hregistry⟩ := withRegistry_of_holds (Registry.holds_of_ofAnalyzers h)
  refine ⟨c, hc, ?_, hsettings, hregistry⟩
  rw [ofSettings, h]
  exact hc

theorem ofSettings_of_error {e : Error} (h : Registry.ofAnalyzers settings.analyzers = .error e) :
    ofSettings settings = .error e := by
  rw [ofSettings, h]
  rfl

theorem ofSettings_eq_error_iff {e : Error} : ofSettings settings = .error e ↔
    Registry.ofAnalyzers settings.analyzers = .error e := by
  refine ⟨fun h => ?_, ofSettings_of_error⟩
  cases hr : Registry.ofAnalyzers settings.analyzers with
  | error e' =>
    obtain rfl := Except.error.inj ((ofSettings_of_error hr).symm.trans h)
    rfl
  | ok r =>
    obtain ⟨c, -, hc, -⟩ := ofSettings_of_ok hr
    rw [h] at hc
    cases hc

theorem settings_of_ofSettings (h : ofSettings settings = .ok c) : c.settings = settings := by
  cases hr : Registry.ofAnalyzers settings.analyzers with
  | error e =>
    rw [ofSettings_of_error hr] at h
    cases h
  | ok r =>
    obtain ⟨c', -, hc', hsettings, -⟩ := ofSettings_of_ok hr
    obtain rfl := Except.ok.inj (hc'.symm.trans h)
    exact hsettings

/-- Whatever has happened at a desk, the jobs there are for analyzers of its settings. -/
theorem exists_analyzer_of_mem_jobs {store : Store} {history : List DeskEvent} {j : Job}
    (h : j ∈ ((Desk.fresh c store).after history).jobs) :
    ∃ a ∈ c.settings.analyzers, a.id = j.analyzer := by
  obtain ⟨a, ha, file, hj⟩ := (Desk.sound_after_fresh c store history).exists_analyzer h
  rw [Desk.coordinator_after_fresh] at ha
  exact ⟨a, (List.mem_filter.mp ha).1, congrArg Job.analyzer hj⟩

end Coordinator

/-- Analyzers are registered, and settings accepted, if the analyzers are without fault; otherwise
the first one at fault says why not. Then the output of each analyzer is read by its own rules,
nothing is found wrong when the analyzers are looked at again, and no run ends without a reader. -/
theorem settings_accepted_iff (settings : Settings) :
    let as := settings.analyzers
    ((∃ r, Registry.ofAnalyzers as = .ok r) ↔ Analyzer.Faultless as) ∧
    ((∃ c, Coordinator.ofSettings settings = .ok c) ↔ Analyzer.Faultless as) ∧
    (∀ e, Registry.ofAnalyzers as = .error e ↔ ∃ earlier a later,
      as = earlier ++ a :: later ∧ Analyzer.Faultless earlier ∧ a.Fault earlier e) ∧
    (∀ e, Coordinator.ofSettings settings = .error e ↔ ∃ earlier a later,
      as = earlier ++ a :: later ∧ Analyzer.Faultless earlier ∧ a.Fault earlier e) ∧
    ∀ r, Registry.ofAnalyzers as = .ok r →
      (∀ a ∈ as, ∃ reader, ReportReader.compile a.id a.rules = .ok reader ∧
        ∀ text, r.read a.id text = reader.read text) ∧
      ∃ c, Coordinator.withRegistry settings r = .ok c ∧ Coordinator.ofSettings settings = .ok c ∧
        c.settings = settings ∧ c.registry = r ∧
        ∀ store history, ∀ j ∈ ((Desk.fresh c store).after history).jobs, ∃ a ∈ as,
          a.id = j.analyzer ∧ ∃ reader, c.registry.get? j.analyzer = some reader ∧
            ReportReader.compile a.id a.rules = .ok reader := by
  intro as
  have hok : (∃ r, Registry.ofAnalyzers as = .ok r) ↔ Analyzer.Faultless as := by
    constructor
    · rintro ⟨r, hr⟩
      exact (Registry.holds_of_ofAnalyzers hr).faultless
    · intro h
      obtain ⟨r, hr, -⟩ := Registry.exists_ofAnalyzers h
      exact ⟨r, hr⟩
  have herror : ∀ e, Registry.ofAnalyzers as = .error e ↔ ∃ earlier a later,
      as = earlier ++ a :: later ∧ Analyzer.Faultless earlier ∧ a.Fault earlier e := by
    intro e
    constructor
    · intro he
      rcases Registry.ofAnalyzers_cases as with
        ⟨r, hr, -⟩ | ⟨earlier, a, later, e', has, hearlier, hfault, he'⟩
      · rw [he] at hr
        cases hr
      · obtain rfl := Except.error.inj (he.symm.trans he')
        exact ⟨earlier, a, later, has, hearlier, hfault⟩
    · rintro ⟨earlier, a, later, has, hearlier, hfault⟩
      rw [has]
      exact Registry.ofAnalyzers_of_fault hearlier hfault
  refine ⟨hok, ?_, herror, fun e => Coordinator.ofSettings_eq_error_iff.trans (herror e), ?_⟩
  · rw [← hok]
    constructor
    · rintro ⟨c, hc⟩
      cases hr : Registry.ofAnalyzers as with
      | ok r => exact ⟨r, rfl⟩
      | error e =>
        rw [Coordinator.ofSettings_of_error hr] at hc
        cases hc
    · rintro ⟨r, hr⟩
      obtain ⟨c, -, hc, -⟩ := Coordinator.ofSettings_of_ok hr
      exact ⟨c, hc⟩
  · intro r hr
    have hholds := Registry.holds_of_ofAnalyzers hr
    obtain ⟨c, hwith, hc, hsettings, hregistry⟩ := Coordinator.ofSettings_of_ok hr
    refine ⟨fun a ha => ?_, c, hwith, hc, hsettings, hregistry, fun store history j hj => ?_⟩
    · obtain ⟨reader, hget, hcompile⟩ := hholds.exists_reader ha
      exact ⟨reader, hcompile, fun text => by rw [Registry.read, hget]⟩
    · obtain ⟨a, ha, hid⟩ := Coordinator.exists_analyzer_of_mem_jobs hj
      rw [hsettings] at ha
      obtain ⟨reader, hget, hcompile⟩ := hholds.exists_reader ha
      exact ⟨a, ha, hid, reader, by rw [hregistry, ← hid, hget], hcompile⟩

/-- Two analyzers, one of which is not enabled, with rules of their own. -/
def Settings.lineRules : Settings where
  interpreter := "php"
  vendor := "/vendor"
  analyzers := [
    { id := "plain", name := "Plain", args := [Analyzer.fileHole],
      rules := [{ pattern := "(?P<line>[0-9]+)" }] },
    { id := "worded", name := "Worded", args := [Analyzer.fileHole], enabled := false,
      rules := [{ pattern := "^line (?P<line>\\d+): (?P<message>.+)$" }] }]

/-- The settings are accepted. The output of the analyzer that is not enabled could be read, and the
output of the other one will be. -/
theorem settings_accepted_iff_lineRules :
    let as := Settings.lineRules.analyzers
    Analyzer.Faultless as ∧ ∃ r c, Registry.ofAnalyzers as = .ok r ∧
      Coordinator.ofSettings .lineRules = .ok c ∧
      (∃ reader, ReportReader.compile "worded" as[1].rules = .ok reader ∧
        ∀ text, r.read "worded" text = reader.read text) ∧
      (⟨"plain", 1, [0], ⟨"php", ["a.php"]⟩⟩ : Job) ∈
        ((Desk.fresh c).after [.request "a.php"]).jobs ∧
      ∃ reader, c.registry.get? "plain" = some reader := by
  intro as
  have hfaultless : Analyzer.Faultless as := ⟨by decide, by decide +kernel⟩
  obtain ⟨hok, -, -, -, haccepted⟩ := settings_accepted_iff .lineRules
  obtain ⟨r, hr⟩ := hok.mpr hfaultless
  obtain ⟨hread, c, -, hc, hsettings, -, hjobs⟩ := haccepted r hr
  have hj : (⟨"plain", 1, [0], ⟨"php", ["a.php"]⟩⟩ : Job) ∈
      ((Desk.fresh c).after [.request "a.php"]).jobs := by
    change _ ∈ ((Desk.fresh c).request "a.php").jobs
    rw [Desk.jobs_request]
    refine List.mem_append_right _ (Coordinator.mem_jobs_iff.mpr ⟨as[0], ?_, ?_⟩)
    · change as[0] ∈ c.settings.analyzers.filter (·.enabled)
      rw [hsettings]
      exact List.mem_cons_self
    · have hcommand : as[0].materialize (c.settings.context "a.php") = ⟨"php", ["a.php"]⟩ := by
        rw [hsettings]
        decide
      exact congrArg (Job.mk "plain" 1 [0]) hcommand
  obtain ⟨-, -, -, reader, hreader, -⟩ := hjobs .empty [.request "a.php"] _ hj
  exact ⟨hfaultless, r, c, hr, hc, hread as[1] (List.getElem_mem _), hj, reader, hreader⟩

/-- A bad rule is found before the repeated id, and nothing after it is looked at. -/
example :
    let rule : OutputRule := { pattern := "(?P<line>[0-9]+)" }
    let as : List Analyzer := [
      { id := "lint", name := "Lint", args := [], rules := [rule] },
      { id := "lint", name := "Lint", args := [], rules := [rule, { pattern := "[0-9]+" }] },
      { id := "late", name := "Late", args := [], rules := [{ pattern := "(" }] }]
    (match Registry.ofAnalyzers as with
      | .ok _ => none
      | .error e => some e) = some (.invalidRule "lint" "[0-9]+") := by decide +kernel

end LintDesk
