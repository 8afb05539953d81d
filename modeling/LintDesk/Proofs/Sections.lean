import LintDesk.Config.Resolve
import LintDesk.Proofs.Registration

/-! # Sections of a configuration file

The sections are taken into account one after another, in the order of their ids, and each looks for
its analyzer among those that are there by then. As no id has two sections, a section finds a
built-in analyzer as it came, or none. So what the loop comes to can be said of all sections at
once: the built-in analyzers, each with its own section laid over it, and behind them the analyzers
that the other sections describe. And the first section that describes too little is the one with
the smallest id.
-/

namespace LintDesk

/-! ## What a section makes of an analyzer -/

/-- The analyzer has the fields that its section gives, if there is one that gives them, and all
other fields from `base`. -/
structure Analyzer.Follows (base : Analyzer) (s : Option AnalyzerSection) (a : Analyzer) :
    Prop where
  id : a.id = base.id
  name : a.name = (s.bind (·.name)).getD base.name
  program : a.program = (s.bind (·.program)).or base.program
  args : a.args = (s.bind (·.args)).getD base.args
  enabled : a.enabled = (s.bind (·.enabled)).getD base.enabled
  options : a.options = (s.bind (·.options)).getD base.options
  optionFlag : a.optionFlag = (s.bind (·.optionFlag)).getD base.optionFlag
  exitCodes : a.exitCodes = (s.bind (·.exitCodes)).getD base.exitCodes
  rules : a.rules = (s.bind (·.rules)).getD base.rules

/-- The documented defaults of an analyzer that is not built in; its arguments and its rules have
none, and must be given. -/
def Analyzer.plain (id : String) : Analyzer where
  id := id
  name := id
  program := none
  args := []
  enabled := true
  options := []
  optionFlag := ""
  exitCodes := [0]
  rules := []

namespace AnalyzerSection

variable {s : AnalyzerSection} {path id field : String}

@[simp] theorem id_override (s : AnalyzerSection) (a : Analyzer) : (s.override a).id = a.id := rfl

@[simp] theorem id_analyzer (s : AnalyzerSection) (id : String) : (s.analyzer id).id = id := rfl

/-- An analyzer with the section laid over it, if there is one. -/
def overlay (s : Option AnalyzerSection) (a : Analyzer) : Analyzer := (s.map (·.override a)).getD a

@[simp] theorem id_overlay (s : Option AnalyzerSection) (a : Analyzer) :
    (overlay s a).id = a.id := by
  cases s <;> rfl

theorem follows_overlay (s : Option AnalyzerSection) (a : Analyzer) :
    a.Follows s (overlay s a) := by
  cases s with
  | none => exact ⟨rfl, rfl, rfl, rfl, rfl, rfl, rfl, rfl, rfl⟩
  | some s => exact ⟨rfl, rfl, rfl, rfl, rfl, rfl, rfl, rfl, rfl⟩

theorem follows_analyzer (s : AnalyzerSection) (id : String) :
    (Analyzer.plain id).Follows (some s) (s.analyzer id) :=
  follows_overlay (some s) (Analyzer.plain id)

theorem missing?_eq_some_iff : s.missing? = some field ↔
    (s.args = none ∨ s.rules = none) ∧ field = if s.args = none then "args" else "rules" := by
  rcases hargs : s.args with _ | args <;> rcases hrules : s.rules with _ | rules <;>
    simp [missing?, hargs, hrules, eq_comm]

theorem missing?_eq_none_iff : s.missing? = none ↔ s.args ≠ none ∧ s.rules ≠ none := by
  rcases hargs : s.args with _ | args <;> rcases hrules : s.rules with _ | rules <;>
    simp [missing?, hargs, hrules]

end AnalyzerSection

/-! ## Looking for an analyzer -/

namespace Analyzer

variable {as : List Analyzer} {id : String} {change : Analyzer → Analyzer}

theorem changeFirst?_eq_none (h : id ∉ as.map (·.id)) : changeFirst? id change as = none := by
  induction as with
  | nil => rfl
  | cons a as ih =>
    obtain ⟨ha, has⟩ := List.ne_and_not_mem_of_not_mem_cons h
    rw [changeFirst?, if_neg ha.symm, ih has]
    rfl

/-- If no two analyzers have one id, the one that is found is the only one. -/
theorem changeFirst?_eq_some (hids : (as.map (·.id)).Nodup) (h : id ∈ as.map (·.id)) :
    changeFirst? id change as = some (as.map fun a => if a.id = id then change a else a) := by
  induction as with
  | nil => cases h
  | cons a as ih =>
    obtain ⟨ha, has⟩ := List.nodup_cons.mp hids
    rw [changeFirst?, List.map_cons]
    by_cases hid : a.id = id
    · have hrest : as.map (fun a => if a.id = id then change a else a) = as := by
        refine (List.map_congr_left fun b hb => if_neg fun hb' => ?_).trans (List.map_id _)
        exact ha (List.mem_map.mpr ⟨b, hb, hb'.trans hid.symm⟩)
      rw [if_pos hid, if_pos hid, hrest]
    · have hmem : id ∈ as.map (·.id) := (List.mem_cons.mp h).resolve_left (Ne.symm hid)
      rw [if_neg hid, if_neg hid, ih has hmem]
      rfl

theorem nodup_builtin_ids : (builtin.map (·.id)).Nodup := by decide

end Analyzer

namespace AnalyzerSections

variable {entries : List (String × AnalyzerSection)} {path : String}

/-! ## What the sections come to -/

/-- The built-in analyzers, each with its section laid over it. -/
def changed (entries : List (String × AnalyzerSection)) : List Analyzer :=
  Analyzer.builtin.map fun b => AnalyzerSection.overlay (entries.lookup b.id) b

/-- The sections of ids that are not built in. -/
def others (entries : List (String × AnalyzerSection)) : List (String × AnalyzerSection) :=
  entries.filter (·.1 ∉ Analyzer.builtin.map (·.id))

/-- The analyzers that the other sections describe. -/
def own (entries : List (String × AnalyzerSection)) : List Analyzer :=
  (others entries).map fun (id, s) => s.analyzer id

theorem ids_changed (entries : List (String × AnalyzerSection)) :
    (changed entries).map (·.id) = Analyzer.builtin.map (·.id) := by
  simp [changed, Function.comp_def]

theorem ids_own (entries : List (String × AnalyzerSection)) :
    (own entries).map (·.id) = (others entries).map (·.1) := by
  simp [own, Function.comp_def]

theorem mem_ids_others_iff {id : String} : id ∈ (others entries).map (·.1) ↔
    id ∈ entries.map (·.1) ∧ id ∉ Analyzer.builtin.map (·.id) := by
  simp only [others, List.mem_map, List.mem_filter, decide_eq_true_eq]
  constructor
  · rintro ⟨p, ⟨hp, hother⟩, rfl⟩
    exact ⟨⟨p, hp, rfl⟩, hother⟩
  · rintro ⟨⟨p, hp, rfl⟩, hother⟩
    exact ⟨p, ⟨hp, hother⟩, rfl⟩

theorem mem_ids_iff {id : String} : id ∈ (changed entries ++ own entries).map (·.id) ↔
    id ∈ Analyzer.builtin.map (·.id) ∨ id ∈ entries.map (·.1) := by
  rw [List.map_append, ids_changed, ids_own, List.mem_append, mem_ids_others_iff]
  tauto

theorem nodup_ids (h : (entries.map (·.1)).Nodup) :
    ((changed entries ++ own entries).map (·.id)).Nodup := by
  rw [List.map_append, ids_changed, ids_own]
  refine Analyzer.nodup_builtin_ids.append (h.sublist (List.filter_sublist.map _)) ?_
  exact fun id hbuiltin hother => (mem_ids_others_iff.mp hother).2 hbuiltin

/-! ## One more section -/

variable {id : String} {s : AnalyzerSection}

theorem lookup_append_singleton (entries : List (String × AnalyzerSection)) (id : String)
    (s : AnalyzerSection) (k : String) : (entries ++ [(id, s)]).lookup k =
      (entries.lookup k).or (if k = id then some s else none) := by
  by_cases h : k = id
  · simp [List.lookup_append, h]
  · have hne : (k == id) = false := beq_eq_false_iff_ne.mpr h
    simp [List.lookup_append, List.lookup_cons, h, hne]

theorem lookup_eq_none (h : id ∉ entries.map (·.1)) : entries.lookup id = none := by
  refine List.lookup_eq_none_iff.mpr fun p hp => ?_
  simpa using fun heq : id = p.1 => h (List.mem_map.mpr ⟨p, hp, heq.symm⟩)

/-- A section that is not of a built-in analyzer, and describes too little of its own. -/
def Incomplete (p : String × AnalyzerSection) : Prop :=
  p.1 ∉ Analyzer.builtin.map (·.id) ∧ (p.2.args = none ∨ p.2.rules = none)

/-- What is wrong with an incomplete section of the file at a path. -/
def fault (path : String) (p : String × AnalyzerSection) : Error :=
  .config path (.missingField p.1 (if p.2.args = none then "args" else "rules"))

theorem mergeInto_of_builtin (path : String) (s : AnalyzerSection)
    (hids : (entries.map (·.1)).Nodup) (hnew : id ∉ entries.map (·.1))
    (h : id ∈ Analyzer.builtin.map (·.id)) :
    s.mergeInto path (changed entries ++ own entries) id =
      .ok (changed (entries ++ [(id, s)]) ++ own (entries ++ [(id, s)])) := by
  have hchanged : (changed entries).map (fun a => if a.id = id then s.override a else a) =
      changed (entries ++ [(id, s)]) := by
    rw [changed, changed, List.map_map]
    refine List.map_congr_left fun b _ => ?_
    by_cases hb : b.id = id
    · simp [lookup_append_singleton, hb, lookup_eq_none hnew, AnalyzerSection.overlay]
    · simp [lookup_append_singleton, hb]
  have hown : (own entries).map (fun a => if a.id = id then s.override a else a) =
      own (entries ++ [(id, s)]) := by
    have hothers : others (entries ++ [(id, s)]) = others entries := by
      simp only [others, List.filter_append, List.filter_singleton, h, not_true, decide_false,
        cond_false, List.append_nil]
    rw [own, own, hothers, List.map_map]
    refine List.map_congr_left fun p hp => if_neg ?_
    rintro rfl
    exact of_decide_eq_true (List.mem_filter.mp hp).2 h
  rw [AnalyzerSection.mergeInto,
    Analyzer.changeFirst?_eq_some (nodup_ids hids) (mem_ids_iff.mpr (.inl h)), List.map_append,
    hchanged, hown]

theorem mergeInto_of_other (path : String) (s : AnalyzerSection) (hnew : id ∉ entries.map (·.1))
    (h : id ∉ Analyzer.builtin.map (·.id)) :
    s.mergeInto path (changed entries ++ own entries) id =
      match s.missing? with
      | some field => .error (.config path (.missingField id field))
      | none => .ok (changed (entries ++ [(id, s)]) ++ own (entries ++ [(id, s)])) := by
  have hchanged : changed (entries ++ [(id, s)]) = changed entries := by
    refine List.map_congr_left fun b hb => ?_
    have hne : b.id ≠ id := fun heq => h (List.mem_map.mpr ⟨b, hb, heq⟩)
    simp [lookup_append_singleton, hne]
  have hown : own (entries ++ [(id, s)]) = own entries ++ [s.analyzer id] := by
    simp only [own, others, List.filter_append, List.filter_singleton, h, not_false_iff,
      decide_true, cond_true, List.map_append, List.map_singleton]
  have hnone : id ∉ (changed entries ++ own entries).map (·.id) := by
    rw [mem_ids_iff]
    exact not_or.mpr ⟨h, hnew⟩
  rw [AnalyzerSection.mergeInto, Analyzer.changeFirst?_eq_none hnone, AnalyzerSection.custom,
    hchanged, hown, ← List.append_assoc]
  cases s.missing? with
  | none => rfl
  | some field => rfl

/-- A section that describes enough is taken into account. -/
theorem mergeInto_of_complete (path : String) (hids : (entries.map (·.1)).Nodup)
    (hnew : id ∉ entries.map (·.1)) (h : ¬Incomplete (id, s)) :
    s.mergeInto path (changed entries ++ own entries) id =
      .ok (changed (entries ++ [(id, s)]) ++ own (entries ++ [(id, s)])) := by
  by_cases hbuiltin : id ∈ Analyzer.builtin.map (·.id)
  · exact mergeInto_of_builtin path s hids hnew hbuiltin
  · have hmissing : s.missing? = none := by
      rw [AnalyzerSection.missing?_eq_none_iff, ← not_or]
      exact fun hlacks => h ⟨hbuiltin, hlacks⟩
    rw [mergeInto_of_other path s hnew hbuiltin, hmissing]

/-- Any other section is refused. -/
theorem mergeInto_of_incomplete (path : String) (hnew : id ∉ entries.map (·.1))
    (h : Incomplete (id, s)) :
    s.mergeInto path (changed entries ++ own entries) id = .error (fault path (id, s)) := by
  rw [mergeInto_of_other path s hnew h.1, AnalyzerSection.missing?_eq_some_iff.mpr ⟨h.2, rfl⟩]
  rfl

/-! ## All sections -/

/-- The analyzers after some sections have been taken into account. -/
def mergeAll (path : String) (entries : List (String × AnalyzerSection)) :
    Except Error (List Analyzer) :=
  entries.foldlM (fun as (id, s) => s.mergeInto path as id) Analyzer.builtin

theorem mergeAll_append_singleton (path : String) (entries : List (String × AnalyzerSection))
    (p : String × AnalyzerSection) : mergeAll path (entries ++ [p]) =
      (mergeAll path entries).bind fun as => p.2.mergeInto path as p.1 := by
  rw [mergeAll, mergeAll, List.foldlM_append]
  simp only [List.foldlM_cons, List.foldlM_nil, bind_pure]
  rfl

/-- All sections are taken into account, or the first incomplete one is refused. -/
theorem mergeAll_cases (path : String) (h : (entries.map (·.1)).Nodup) :
    ((∀ p ∈ entries, ¬Incomplete p) ∧
      mergeAll path entries = .ok (changed entries ++ own entries)) ∨
    ∃ before p after, entries = before ++ p :: after ∧ (∀ q ∈ before, ¬Incomplete q) ∧
      Incomplete p ∧ mergeAll path entries = .error (fault path p) := by
  induction entries using List.reverseRecOn with
  | nil =>
    have hchanged : changed [] = Analyzer.builtin := List.map_id _
    refine .inl ⟨nofun, ?_⟩
    rw [hchanged]
    exact congrArg Except.ok (List.append_nil _).symm
  | append_singleton entries p ih =>
    obtain ⟨id, s⟩ := p
    rw [List.map_append, List.map_singleton] at h
    have hids := h.sublist (List.sublist_append_left _ _)
    have hnew : id ∉ entries.map (·.1) := fun hmem =>
      List.disjoint_of_nodup_append h hmem List.mem_cons_self
    rw [mergeAll_append_singleton]
    rcases ih hids with ⟨hcomplete, hok⟩ | ⟨before, p, after, rfl, hbefore, hp, herror⟩
    · rw [hok]
      by_cases hp : Incomplete (id, s)
      · exact .inr ⟨entries, (id, s), [], rfl, hcomplete, hp, mergeInto_of_incomplete path hnew hp⟩
      · refine .inl ⟨fun q hq => ?_, mergeInto_of_complete path hids hnew hp⟩
        rcases List.mem_append.mp hq with hq | hq
        · exact hcomplete q hq
        · exact List.mem_singleton.mp hq ▸ hp
    · refine .inr ⟨before, p, after ++ [(id, s)], by simp, hbefore, hp, ?_⟩
      rw [herror]
      rfl

variable {sections : AnalyzerSections} {as : List Analyzer} {e : Error}

theorem nodup_of_ascending (sections : AnalyzerSections) :
    (sections.entries.map (·.1)).Nodup :=
  sections.ascending.imp fun h => String.ne_of_lt h

/-- The sections are merged if they are complete, and otherwise the incomplete one with the smallest
id is refused. -/
theorem merge_cases (sections : AnalyzerSections) (path : String) :
    ((∀ p ∈ sections.entries, ¬Incomplete p) ∧
      sections.merge path = .ok (changed sections.entries ++ own sections.entries)) ∨
    ∃ p ∈ sections.entries, Incomplete p ∧
      (∀ q ∈ sections.entries, Incomplete q → q = p ∨ p.1 < q.1) ∧
      sections.merge path = .error (fault path p) := by
  rcases mergeAll_cases path sections.nodup_of_ascending with
    hok | ⟨before, p, after, hentries, hbefore, hp, herror⟩
  · exact .inl hok
  · have hascending := sections.ascending
    rw [hentries, List.map_append, List.map_cons] at hascending
    have hlater := (List.pairwise_cons.mp (List.pairwise_append.mp hascending).2.1).1
    refine .inr ⟨p, hentries ▸ List.mem_append_right _ List.mem_cons_self, hp, ?_, herror⟩
    intro q hq hincomplete
    rw [hentries] at hq
    rcases List.mem_append.mp hq with hq | hq
    · exact absurd hincomplete (hbefore q hq)
    · rcases List.mem_cons.mp hq with rfl | hq
      · exact .inl rfl
      · exact .inr (hlater q.1 (List.mem_map_of_mem hq))

theorem merge_eq_error_iff : sections.merge path = .error e ↔ ∃ p ∈ sections.entries,
    Incomplete p ∧ (∀ q ∈ sections.entries, Incomplete q → p.1 ≤ q.1) ∧ e = fault path p := by
  constructor
  · intro he
    rcases sections.merge_cases path with ⟨-, hok⟩ | ⟨p, hmem, hp, hleast, herror⟩
    · rw [hok] at he
      cases he
    · refine ⟨p, hmem, hp, fun q hq hincomplete => ?_, Except.error.inj (he.symm.trans herror)⟩
      rcases hleast q hq hincomplete with rfl | hlt
      · exact String.le_refl _
      · exact String.not_lt.mp (String.lt_asymm hlt)
  · rintro ⟨p, hmem, hp, hleast, rfl⟩
    rcases sections.merge_cases path with ⟨hcomplete, -⟩ | ⟨q, hq, hincomplete, hfirst, herror⟩
    · exact absurd hp (hcomplete p hmem)
    · rcases hfirst p hmem hp with rfl | hlt
      · exact herror
      · exact absurd hlt (String.not_lt.mpr (hleast q hq hincomplete))

theorem merge_eq_ok (h : sections.merge path = .ok as) :
    as = changed sections.entries ++ own sections.entries ∧
      ∀ p ∈ sections.entries, ¬Incomplete p := by
  rcases sections.merge_cases path with ⟨hcomplete, hok⟩ | ⟨p, -, -, -, herror⟩
  · exact ⟨Except.ok.inj (h.symm.trans hok), hcomplete⟩
  · rw [herror] at h
    cases h

theorem isSome_get?_iff {id : String} :
    (sections.get? id).isSome ↔ id ∈ sections.entries.map (·.1) := by
  rw [get?, ← not_iff_not, Bool.not_eq_true, Option.isSome_eq_false_iff, Option.isNone_iff_eq_none]
  refine ⟨fun h hmem => ?_, lookup_eq_none⟩
  obtain ⟨p, hp, rfl⟩ := List.mem_map.mp hmem
  simpa using List.lookup_eq_none_iff.mp h p hp

theorem find?_own (h : id ∉ Analyzer.builtin.map (·.id)) :
    (own entries).find? (·.id == id) = (entries.lookup id).map (·.analyzer id) := by
  induction entries with
  | nil => rfl
  | cons p entries ih =>
    obtain ⟨k, s⟩ := p
    have hown : own ((k, s) :: entries) =
        if k ∈ Analyzer.builtin.map (·.id) then own entries
        else s.analyzer k :: own entries := by
      simp only [own, others, List.filter_cons, decide_not, Bool.not_eq_true',
        decide_eq_false_iff_not]
      split <;> simp_all
    by_cases hk : k = id
    · subst hk
      simp [hown, h]
    · have hne : (id == k) = false := beq_eq_false_iff_ne.mpr (Ne.symm hk)
      have hlookup : ((k, s) :: entries).lookup id = entries.lookup id := by
        rw [List.lookup_cons, hne]
      rw [hown, hlookup, ← ih]
      split
      · rfl
      · exact List.find?_cons_of_neg (by simpa using hk)

/-- The analyzer with an id is made of its own section alone. -/
theorem find?_merge (h : sections.merge path = .ok as) (id : String) :
    as.find? (·.id == id) = match Analyzer.builtin? id with
      | some b => some (AnalyzerSection.overlay (sections.get? id) b)
      | none => (sections.get? id).map (·.analyzer id) := by
  have hcomp : ((·.id == id) ∘
      fun b : Analyzer => AnalyzerSection.overlay (sections.entries.lookup b.id) b) =
      fun b : Analyzer => b.id == id := by
    funext b
    simp
  rw [(merge_eq_ok h).1, List.find?_append, changed, List.find?_map, hcomp, ← Analyzer.builtin?]
  cases hb : Analyzer.builtin? id with
  | some b =>
    have hid : b.id = id := by simpa using List.find?_some hb
    simp [hid, get?]
  | none =>
    have hother : id ∉ Analyzer.builtin.map (·.id) := by
      simpa using List.find?_eq_none.mp hb
    simp [find?_own hother, get?]

end AnalyzerSections

/-! ## Configurations -/

namespace Config

/-- Which analyzers are enabled has no bearing on their ids. -/
theorem map_id_enableOnly {ids : List String} {as bs : List Analyzer}
    (h : enableOnly ids as = .ok bs) : bs.map (·.id) = as.map (·.id) := by
  rw [enableOnly] at h
  split at h
  · cases h
  · obtain rfl := Except.ok.inj h
    simp [Function.comp_def]

/-- What succeeds in two steps has succeeded in the first one. -/
theorem exists_of_bind_eq_ok {α β : Type} {x : Except Error α} {f : α → Except Error β} {b : β}
    (h : x.bind f = .ok b) : ∃ a, x = .ok a ∧ f a = .ok b := by
  cases x with
  | error e => cases h
  | ok a => exact ⟨a, rfl, h⟩

theorem nodup_ids_of_combine {options : CommonOptions} {root : String} {path : Option String}
    {f : ConfigFile} {config : Config} (h : combine options root path f = .ok config) :
    (config.analyzers.map (·.id)).Nodup := by
  rw [combine] at h
  obtain ⟨as, hmerge, h⟩ := exists_of_bind_eq_ok h
  have hids : (as.map (·.id)).Nodup := by
    rw [(AnalyzerSections.merge_eq_ok hmerge).1]
    exact AnalyzerSections.nodup_ids f.analyzers.nodup_of_ascending
  cases honly : options.only with
  | none =>
    rw [honly] at h
    obtain rfl := Except.ok.inj h
    exact hids
  | some ids =>
    rw [honly] at h
    obtain ⟨bs, henable, h⟩ := exists_of_bind_eq_ok h
    obtain rfl := Except.ok.inj h
    exact (map_id_enableOnly henable).symm ▸ hids

theorem nodup_ids_of_resolve {place : Place} {options : CommonOptions} {config : Config}
    (h : resolve place options = .ok config) : (config.analyzers.map (·.id)).Nodup := by
  rw [resolve] at h
  obtain ⟨found, -, h⟩ := exists_of_bind_eq_ok h
  exact nodup_ids_of_combine h

/-- If no configuration file is found, the options and the defaults make up the configuration. -/
theorem resolve_of_find?_eq_none (place : Place) (options : CommonOptions) {root : String}
    (hroot : detectRoot place (options.repoRoot.getD ".") = root) (h : find? place root = none) :
    resolve place options = combine options root none {} := by
  have hload : load place root = .ok (none, {}) := by
    unfold load
    rw [h]
  unfold resolve
  simp only [hroot, hload]
  rfl

end Config

/-- What can be wrong with analyzers that have different ids are their rules. -/
theorem Coordinator.ofSettings_ne_error {settings : Settings}
    (h : (settings.analyzers.map (·.id)).Nodup) (id : String) :
    ofSettings settings ≠ .error (.duplicateAnalyzer id) ∧
      ofSettings settings ≠ .error (.unknownAnalyzer id) := by
  have hrules : ∀ e, ofSettings settings = .error e →
      ∃ (a : Analyzer) (rule : OutputRule), rule.Fault a.id e := by
    intro e he
    rw [ofSettings_eq_error_iff] at he
    rcases Registry.ofAnalyzers_cases settings.analyzers with
      ⟨r, hr, -⟩ | ⟨earlier, a, later, e', has, -, hfault, he'⟩
    · rw [he] at hr
      cases hr
    · obtain rfl := Except.error.inj (he.symm.trans he')
      cases hfault with
      | rule _ _ hrule => exact ⟨a, _, hrule⟩
      | id _ hid =>
        rw [has, List.map_append, List.map_cons] at h
        exact absurd List.mem_cons_self (List.disjoint_of_nodup_append h hid)
  constructor
  · intro he
    obtain ⟨a, rule, hfault⟩ := hrules _ he
    cases hfault
  · intro he
    obtain ⟨a, rule, hfault⟩ := hrules _ he
    cases hfault

open AnalyzerSections in
/-- Sections are merged unless one of them describes an analyzer of its own without its arguments or
its rules; the error names the smallest id of such a section, and the arguments if they are missing.
Otherwise there are the built-in analyzers in their order, and behind them one for each other
section in the order of the ids, no two with the same id. Each has the fields that its section gives
and takes the others from the built-in analyzer or from the defaults, whatever the other sections
say. So a configuration never fails to be set up for the ids of its analyzers. -/
theorem sections_merged_or_refused :
    (∀ (sections : AnalyzerSections) (path : String),
      ((∃ e, sections.merge path = .error e) ↔ ∃ p ∈ sections.entries, Incomplete p) ∧
      (∀ e, sections.merge path = .error e ↔ ∃ p ∈ sections.entries, Incomplete p ∧
        (∀ q ∈ sections.entries, Incomplete q → p.1 ≤ q.1) ∧
        e = .config path (.missingField p.1 (if p.2.args = none then "args" else "rules"))) ∧
      ∀ as, sections.merge path = .ok as →
        (∃ changed own, as = changed ++ own ∧
          List.Forall₂ (fun b a => b.Follows (sections.get? b.id) a) Analyzer.builtin changed ∧
          List.Forall₂ (fun p a => p.2.args ≠ none ∧ p.2.rules ≠ none ∧
              (Analyzer.plain p.1).Follows (some p.2) a)
            (sections.entries.filter (·.1 ∉ Analyzer.builtin.map (·.id))) own ∧
          (own.map (·.id)).Pairwise (· < ·)) ∧
        (as.map (·.id)).Nodup ∧
        (∀ id, id ∈ as.map (·.id) ↔
          id ∈ Analyzer.builtin.map (·.id) ∨ (sections.get? id).isSome) ∧
        ∀ (sections' : AnalyzerSections) path' as', sections'.merge path' = .ok as' →
          ∀ id, sections.get? id = sections'.get? id →
            as.find? (·.id == id) = as'.find? (·.id == id)) ∧
    ∀ place options config, Config.resolve place options = .ok config → ∀ id,
      Coordinator.ofSettings config.settings ≠ .error (.duplicateAnalyzer id) ∧
        Coordinator.ofSettings config.settings ≠ .error (.unknownAnalyzer id) := by
  refine ⟨fun sections path => ⟨?_, fun e => merge_eq_error_iff, ?_⟩, ?_⟩
  · rcases sections.merge_cases path with ⟨hcomplete, hok⟩ | ⟨p, hmem, hp, -, herror⟩
    · refine iff_of_false ?_ fun ⟨p, hmem, hp⟩ => hcomplete p hmem hp
      rintro ⟨e, he⟩
      rw [hok] at he
      cases he
    · exact iff_of_true ⟨_, herror⟩ ⟨p, hmem, hp⟩
  · intro as has
    obtain ⟨heq, hcomplete⟩ := merge_eq_ok has
    refine ⟨⟨_, _, heq, ?_, ?_, ?_⟩, heq ▸ nodup_ids sections.nodup_of_ascending,
      fun id => ?_, ?_⟩
    · exact List.forall₂_map_right_iff.mpr
        (List.forall₂_same.mpr fun b _ => AnalyzerSection.follows_overlay _ b)
    · refine List.forall₂_map_right_iff.mpr (List.forall₂_same.mpr fun p hp => ?_)
      obtain ⟨hmem, hother⟩ := List.mem_filter.mp hp
      have hgiven : ¬(p.2.args = none ∨ p.2.rules = none) := fun hlacks =>
        hcomplete p hmem ⟨of_decide_eq_true hother, hlacks⟩
      exact ⟨fun h => hgiven (.inl h), fun h => hgiven (.inr h), p.2.follows_analyzer p.1⟩
    · rw [ids_own]
      exact sections.ascending.sublist (List.filter_sublist.map _)
    · rw [heq, mem_ids_iff, isSome_get?_iff]
    · intro sections' path' as' has' id hid
      rw [find?_merge has, find?_merge has', hid]
  · intro place options config hconfig
    exact Coordinator.ofSettings_ne_error (Config.nodup_ids_of_resolve hconfig)

/-- Where there is only a root, nothing but dots leads anywhere. -/
theorem FileTree.follow_bare (links : Nat) (ps : List FileName) :
    ({} : FileTree).follow links [] ps =
      if ps ⊆ [['.'], ['.', '.']] then .ok [] else .error .missing := by
  have hroot : FileTree.entry? {} [] = some .dir := rfl
  induction ps with
  | nil => simp [follow]
  | cons piece ps ih =>
    have hpiece : FileTree.entry? {} ([] ++ [piece]) = none := rfl
    rw [follow, if_neg (not_not.mpr hroot), hpiece, List.dropLast_nil, ih]
    split_ifs <;> simp_all

theorem Place.has_bare (path : List Char) : Place.has { tree := {} } path =
    decide (path ≠ [] ∧ FileTree.pieces path ⊆ [['.'], ['.', '.']]) := by
  rw [has, stat?, resolve]
  by_cases hpath : path = []
  · rw [if_pos hpath, hpath]
    rfl
  · simp only [if_neg hpath, ite_self, FileTree.follow_bare]
    by_cases hdots : FileTree.pieces path ⊆ [['.'], ['.', '.']]
    · rw [if_pos hdots, decide_eq_true ⟨hpath, hdots⟩]
      rfl
    · rw [if_neg hdots, decide_eq_false fun h => hdots h.2]
      rfl

/-- A section of a built-in analyzer stands between two of others. Two sections describe too little,
and the one that is written last is named. And there is no configuration file at all. -/
theorem sections_merged_or_refused_mixed :
    let own : AnalyzerSection := { args := some ["a"], rules := some [] }
    let sections := AnalyzerSections.ofList
      [("zeta", own), ("phpl", { enabled := some false }), ("alpha", own)]
    let alone := AnalyzerSections.ofList [("zeta", own)]
    (∃ as as', sections.merge "phplint.toml" = .ok as ∧ alone.merge "phplint.yml" = .ok as' ∧
      as.map (·.id) = ["phpcpd", "phpcs", "phpl", "phpmd", "alpha", "zeta"] ∧
      as.find? (·.id == "zeta") = as'.find? (·.id == "zeta")) ∧
    (AnalyzerSections.ofList [("zeta", {}), ("beta", { args := some [] })]).merge "phplint.toml" =
      .error (.config "phplint.toml" (.missingField "beta" "rules")) ∧
    ∃ config, Config.resolve { tree := {} } { only := some ["phpl"] } = .ok config ∧
      Coordinator.ofSettings config.settings ≠ .error (.duplicateAnalyzer "phpl") := by
  intro own sections alone
  obtain ⟨hsections, hconfigs⟩ := sections_merged_or_refused
  refine ⟨?_, ?_, ?_⟩
  · obtain ⟨as, has, hids⟩ : ∃ as, sections.merge "phplint.toml" = .ok as ∧
        as.map (·.id) = ["phpcpd", "phpcs", "phpl", "phpmd", "alpha", "zeta"] :=
      ⟨_, rfl, by decide +kernel⟩
    obtain ⟨as', has'⟩ : ∃ as, alone.merge "phplint.yml" = .ok as := ⟨_, rfl⟩
    obtain ⟨-, -, hmerged⟩ := hsections sections "phplint.toml"
    obtain ⟨-, -, -, halone⟩ := hmerged as has
    exact ⟨as, as', has, has', hids, halone alone _ as' has' "zeta" (by decide +kernel)⟩
  · have hentries :
        (AnalyzerSections.ofList [("zeta", {}), ("beta", { args := some [] })]).entries =
          [("beta", { args := some [] }), ("zeta", {})] := by
      decide +kernel
    refine ((hsections _ "phplint.toml").2.1 _).mpr ⟨("beta", { args := some [] }), ?_⟩
    rw [hentries]
    refine ⟨List.mem_cons_self, ⟨by decide, .inr rfl⟩, ?_, rfl⟩
    rintro q (_ | ⟨_, _ | ⟨_, ⟨⟩⟩⟩) -
    · exact String.le_refl _
    · decide +kernel
  · have hroot : Config.detectRoot { tree := {} } "." = "." := by
      change ((Config.ancestors ".").find? fun dir => Config.isRoot _ dir).getD "." = "."
      simp only [Config.isRoot, Config.find?, Place.has_bare]
      decide +kernel
    have hfind : Config.find? { tree := {} } "." = none := by
      simp only [Config.find?, Place.has_bare]
      decide +kernel
    have hok : (Config.combine { only := some ["phpl"] } "." none {}).isOk := by decide +kernel
    have hresolve := Config.resolve_of_find?_eq_none { tree := {} } { only := some ["phpl"] }
      hroot hfind
    cases hconfig : Config.combine { only := some ["phpl"] } "." none {} with
    | ok config =>
      rw [hconfig] at hresolve
      exact ⟨config, hresolve, (hconfigs _ _ config hresolve "phpl").1⟩
    | error e =>
      rw [hconfig] at hok
      cases hok

end LintDesk
