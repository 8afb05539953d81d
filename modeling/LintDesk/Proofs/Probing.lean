import LintDesk.Proofs.Resolution
import LintDesk.Proofs.Templates

/-! # The probed program

The probe takes the interpreter as it is written. An analyzer without a program of its own takes it
as well, but the placeholder for the vendor directory is filled in it like in any other text of a
template. The two programs are the same if and only if this changes nothing.
-/

namespace LintDesk

namespace Text

variable {sep sep' p q : List Char} {ps : List (List Char)}

theorem length_flatMap_append (sep : List Char) (ps : List (List Char)) :
    (ps.flatMap (sep ++ ·)).length = ps.length * sep.length + ps.flatten.length := by
  induction ps with
  | nil => exact (Nat.zero_mul _).symm
  | cons p ps ih =>
    rw [List.flatMap_cons, List.length_append, List.length_append, ih, List.length_cons,
      Nat.succ_mul, List.flatten_cons, List.length_append]
    omega

/-- What is put between pieces can be told from the result. -/
theorem intercalate_inj : sep.intercalate (p :: q :: ps) = sep'.intercalate (p :: q :: ps) ↔
    sep = sep' := by
  refine ⟨fun h => ?_, fun h => h ▸ rfl⟩
  rw [← join_eq_intercalate, ← join_eq_intercalate, join_cons, join_cons] at h
  have hbehind := List.append_cancel_left h
  have hlength := congrArg List.length hbehind
  rw [length_flatMap_append, length_flatMap_append] at hlength
  have hsame : sep.length = sep'.length :=
    Nat.eq_of_mul_eq_mul_left (Nat.succ_pos ps.length) (Nat.add_right_cancel hlength)
  rw [List.flatMap_cons, List.flatMap_cons, List.append_assoc, List.append_assoc] at hbehind
  exact List.append_inj_left hbehind hsame

/-- Replacing a part of a text changes nothing if and only if the part is not there or stays. -/
theorem replace_eq_self_iff {part fresh s : String} (hpart : part.toList ≠ []) :
    replace part fresh s = s ↔ ¬part.toList <:+: s.toList ∨ fresh = part := by
  obtain ⟨pieces, hcut, hfilled⟩ := exists_cut_replaceFrom hpart fresh.toList s.toList
  rw [← String.toList_inj, replace, String.toList_ofList, hfilled]
  match pieces, hcut with
  | [], hcut => exact absurd rfl hcut.ne_nil
  | [p], hcut =>
    have htext : s.toList = p := hcut.text.trans List.intercalate_singleton
    rw [List.intercalate_singleton, htext]
    exact iff_of_true rfl (.inl (hcut.free p List.mem_cons_self))
  | p :: q :: ps, hcut =>
    have hinfix : part.toList <:+: s.toList := by
      rw [hcut.text, List.intercalate_cons_cons]
      exact ⟨p, _, rfl⟩
    rw [or_iff_right (not_not.mpr hinfix), ← String.toList_inj, hcut.text]
    exact intercalate_inj

end Text

namespace Config

variable {o : CommonOptions} {repo : String} {path : Option String} {f : ConfigFile}
  {config : Config}

theorem program_probe_of_combine (h : combine o repo path f = .ok config) :
    config.probe.program = config.interpreter := by
  rw [combine] at h
  obtain ⟨as, -, h⟩ := exists_of_bind_eq_ok h
  cases honly : o.only with
  | none =>
    rw [honly] at h
    obtain rfl := Except.ok.inj h
    rfl
  | some ids =>
    rw [honly] at h
    obtain ⟨bs, -, h⟩ := exists_of_bind_eq_ok h
    obtain rfl := Except.ok.inj h
    rfl

/-- Whatever a configuration file says about the probe, it is the interpreter that is probed. -/
theorem program_probe_of_resolve {place : Place} (h : resolve place o = .ok config) :
    config.probe.program = config.interpreter := by
  rw [resolve] at h
  obtain ⟨found, -, h⟩ := exists_of_bind_eq_ok h
  exact program_probe_of_combine h

/-- In an empty file tree, the options and the defaults make up the configuration. -/
theorem resolve_bare (hrepo : o.repoRoot = none) (honly : o.only = none) :
    ∃ as, resolve { tree := {} } o = .ok (assemble o "." none {} as) := by
  obtain ⟨as, hmerge⟩ : ∃ as, ({} : ConfigFile).analyzers.merge "." = .ok as := ⟨_, rfl⟩
  refine ⟨as, ?_⟩
  have hfind : find? { tree := {} } "." = none := by
    simp only [find?, Place.has_bare]
    decide +kernel
  have hroot : detectRoot { tree := {} } (o.repoRoot.getD ".") = "." := by
    rw [hrepo]
    change ((ancestors ".").find? fun dir => isRoot _ dir).getD "." = "."
    simp only [isRoot, find?, Place.has_bare]
    decide +kernel
  have hmap : combine o "." none {} = (picked o as).map (assemble o "." none {}) :=
    combine_eq_map hmerge
  rw [resolve_of_find?_eq_none _ o hroot hfind, hmap, picked_of_eq_none honly]
  rfl

end Config

/-- The program of an analyzer that has none of its own. -/
theorem Config.program_materialize {a : Analyzer} (ha : a.program = none) (config : Config)
    (file : String) : (a.materialize (config.settings.context file)).program =
      Text.replace Analyzer.vendorHole config.vendor config.interpreter := by
  rw [Analyzer.materialize, ha]
  rfl

open Analyzer in
/-- An analyzer without a program of its own starts the program that has been probed if and only if
the interpreter has no placeholder for the vendor directory in it, or the vendor directory is
spelled like the placeholder. -/
theorem probed_program_started_iff {place : Place} {o : CommonOptions} {config : Config}
    (h : Config.resolve place o = .ok config) {a : Analyzer} (ha : a.program = none)
    (file : String) :
    (a.materialize (config.settings.context file)).program = config.probe.program ↔
      ¬vendorHole.toList <:+: config.interpreter.toList ∨ config.vendor = vendorHole := by
  rw [Config.program_materialize ha, Config.program_probe_of_resolve h]
  exact Text.replace_eq_self_iff (by decide)

/-- The interpreter has only the beginning of a placeholder in it. -/
theorem probed_program_started_iff_half :
    let o : CommonOptions := { interpreter := some "/opt/\x7bvendor/php", vendor := some "/srv" }
    ∃ config, Config.resolve { tree := {} } o = .ok config ∧
      (Analyzer.phpl.materialize (config.settings.context "a.php")).program =
        config.probe.program := by
  intro o
  obtain ⟨as, hresolve⟩ := Config.resolve_bare (o := o) rfl rfl
  have hinterpreter :
      (Config.assemble o "." none {} as).interpreter.toList = "/opt/\x7bvendor/php".toList :=
    congrArg String.toList rfl
  refine ⟨_, hresolve, (probed_program_started_iff hresolve rfl "a.php").mpr (.inl fun h => ?_)⟩
  rw [hinterpreter] at h
  have hclosed : '\x7d' ∈ "/opt/\x7bvendor/php".toList := h.subset (by decide +kernel)
  exact absurd hclosed (by decide +kernel)

/-- The interpreter is named by its place below the vendor directory: it is probed under this name,
and started under the one that is meant. -/
theorem probed_program_not_started :
    let o : CommonOptions :=
      { interpreter := some "\x7bvendor\x7d/bin/php", vendor := some "/srv" }
    ∃ config, Config.resolve { tree := {} } o = .ok config ∧
      config.probe.program = "\x7bvendor\x7d/bin/php" ∧
      (Analyzer.phpl.materialize (config.settings.context "a.php")).program = "/srv/bin/php" := by
  intro o
  obtain ⟨as, hresolve⟩ := Config.resolve_bare (o := o) rfl rfl
  have hvendor : (Config.assemble o "." none {} as).vendor = "/srv" := if_pos (by decide)
  have hinterpreter : (Config.assemble o "." none {} as).interpreter = "\x7bvendor\x7d/bin/php" :=
    rfl
  refine ⟨_, hresolve, rfl, ?_⟩
  rw [Config.program_materialize rfl, hvendor, hinterpreter]
  decide +kernel

end LintDesk
