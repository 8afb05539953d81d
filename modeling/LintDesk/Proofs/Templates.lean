import LintDesk.CommandLine
import Mathlib.Data.List.Forall2

/-! # Filled templates

The arguments of an analyzer are a template. A placeholder for the file or for the options is an
argument of its own; the one for the vendor directory may stand anywhere in the others. It does not
overlap itself, so a text is cut at its vendor placeholders in one way only, and the filled text is
made of the same pieces. What is put between them is not looked at again.
-/

namespace LintDesk

namespace Text

/-! ## Joined texts -/

theorem join_eq_intercalate (sep : List Char) (ps : List (List Char)) :
    join sep ps = sep.intercalate ps := by
  induction ps with
  | nil => rfl
  | cons p ps ih =>
    cases ps with
    | nil => exact List.intercalate_singleton.symm
    | cons q ps => rw [join_cons_cons, ih, List.intercalate_cons_cons, List.append_assoc]

/-! ## Cutting a text

A text is cut wherever a part of it stands, from the left. -/

/-- The pieces are what a text is cut into where `part` stands in it. -/
structure Cut (part s : List Char) (pieces : List (List Char)) : Prop where
  ne_nil : pieces ≠ []
  text : s = part.intercalate pieces
  free : ∀ p ∈ pieces, ¬part <:+: p

namespace Cut

variable {part s p : List Char} {ps qs : List (List Char)} {c : Char}

theorem nil (h : part ≠ []) : Cut part [] [[]] where
  ne_nil := List.cons_ne_nil _ _
  text := rfl
  free p hp := by
    rw [List.mem_singleton.mp hp, List.infix_nil]
    exact h

/-- The text starts with its first piece. -/
theorem prefix_of_cons (h : Cut part s (p :: ps)) : p <+: s := by
  rw [h.text]
  cases ps with
  | nil => exact ⟨[], by rw [List.append_nil, List.intercalate_singleton]⟩
  | cons q qs =>
    rw [List.intercalate_cons_cons, List.append_assoc]
    exact List.prefix_append _ _

theorem cons (h : Cut part s (p :: ps)) (hc : ¬part <+: c :: s) :
    Cut part (c :: s) ((c :: p) :: ps) where
  ne_nil := List.cons_ne_nil _ _
  text := by
    rw [h.text]
    cases ps with
    | nil => rfl
    | cons q qs => rfl
  free := by
    refine List.forall_mem_cons.mpr ⟨fun hp => ?_, (List.forall_mem_cons.mp h.free).2⟩
    rcases List.infix_cons_iff.mp hp with hp | hp
    · exact hc (hp.trans ((List.prefix_cons_inj c).mpr h.prefix_of_cons))
    · exact h.free p List.mem_cons_self hp

theorem part_append (h : Cut part s ps) (hpart : part ≠ []) : Cut part (part ++ s) ([] :: ps) where
  ne_nil := List.cons_ne_nil _ _
  text := by
    rw [List.intercalate_cons_of_ne_nil h.ne_nil, ← h.text]
    rfl
  free := List.forall_mem_cons.mpr ⟨fun hp => hpart (List.infix_nil.mp hp), h.free⟩

/-- If the first character of `part` is in it only once, then `part` cannot stand across the end of
what is not `part`. -/
theorem eq_nil_of_append_eq {rest as x y : List Char} (hc : c ∉ rest) (has : ¬c :: rest <:+: as)
    (h : c :: rest ++ x = as ++ (c :: rest ++ y)) : as = [] := by
  cases as with
  | nil => rfl
  | cons a as =>
    obtain ⟨rfl, htail⟩ := List.cons.inj h
    exfalso
    rcases List.append_eq_append_iff.mp htail with ⟨more, rfl, -⟩ | ⟨_ | ⟨d, more⟩, rfl, hmore⟩
    · exact has (List.prefix_append (c :: rest) more).isInfix
    · rw [List.append_nil] at has
      exact has List.infix_rfl
    · obtain ⟨rfl, -⟩ := List.cons.inj hmore
      exact hc (List.mem_append_right _ List.mem_cons_self)

theorem eq_of_append_eq {rest q x y : List Char} (hc : c ∉ rest) (hp : ¬c :: rest <:+: p)
    (hq : ¬c :: rest <:+: q) (h : p ++ (c :: rest ++ x) = q ++ (c :: rest ++ y)) : p = q := by
  rcases List.append_eq_append_iff.mp h with ⟨as, rfl, has⟩ | ⟨as, rfl, has⟩
  · have hfree : ¬c :: rest <:+: as := fun hin => hq (hin.trans (List.suffix_append p as).isInfix)
    rw [eq_nil_of_append_eq hc hfree has, List.append_nil]
  · have hfree : ¬c :: rest <:+: as := fun hin => hp (hin.trans (List.suffix_append q as).isInfix)
    rw [eq_nil_of_append_eq hc hfree has, List.append_nil]

/-- If the first character of `part` is in it only once, a text is cut in one way only. -/
theorem unique {rest : List Char} (hc : c ∉ rest) (hps : Cut (c :: rest) s ps)
    (hqs : Cut (c :: rest) s qs) : ps = qs := by
  induction ps generalizing s qs with
  | nil => exact absurd rfl hps.ne_nil
  | cons p ps ih =>
    obtain ⟨hp, hps'⟩ := List.forall_mem_cons.mp hps.free
    cases qs with
    | nil => exact absurd rfl hqs.ne_nil
    | cons q qs =>
      obtain ⟨hq, hqs'⟩ := List.forall_mem_cons.mp hqs.free
      have htext := hps.text.symm.trans hqs.text
      rcases ps with _ | ⟨p', ps⟩ <;> rcases qs with _ | ⟨q', qs⟩
      · simpa using htext
      · rw [List.intercalate_singleton, List.intercalate_cons_cons] at htext
        exact absurd ⟨q, _, htext.symm⟩ hp
      · rw [List.intercalate_singleton, List.intercalate_cons_cons] at htext
        exact absurd ⟨p, _, htext⟩ hq
      · rw [List.intercalate_cons_cons, List.intercalate_cons_cons, List.append_assoc,
          List.append_assoc] at htext
        obtain rfl := eq_of_append_eq hc hp hq htext
        have hrest := List.append_cancel_left (List.append_cancel_left htext)
        exact congrArg (p :: ·) (ih ⟨List.cons_ne_nil _ _, rfl, hps'⟩
          ⟨List.cons_ne_nil _ _, hrest, hqs'⟩)

end Cut

theorem replaceFrom_eq_drop (part fresh : List Char) (n : Nat) (s : List Char) :
    replaceFrom part fresh n s = replaceFrom part fresh 0 (s.drop n) := by
  induction s generalizing n with
  | nil => cases n <;> rfl
  | cons c s ih =>
    cases n with
    | zero => rfl
    | succ n => exact ih n

/-- Replacing a part of a text keeps the pieces that the text is cut into. -/
theorem exists_cut_replaceFrom {part : List Char} (hpart : part ≠ []) (fresh s : List Char) :
    ∃ pieces, Cut part s pieces ∧ replaceFrom part fresh 0 s = fresh.intercalate pieces := by
  induction hlength : s.length using Nat.strongRecOn generalizing s with
  | ind n ih =>
    cases s with
    | nil => exact ⟨[[]], .nil hpart, List.intercalate_singleton.symm⟩
    | cons c s =>
      rw [replaceFrom]
      by_cases hc : part <+: c :: s
      · -- The scan goes on behind the part.
        rw [if_pos (List.isPrefixOf_iff_prefix.mpr hc), replaceFrom_eq_drop]
        obtain ⟨behind, hbehind⟩ := hc
        have hdrop : s.drop (part.length - 1) = behind := by
          obtain ⟨d, rest, rfl⟩ := List.exists_cons_of_ne_nil hpart
          have htail : rest ++ behind = s := (List.cons.inj hbehind).2
          rw [← htail]
          exact List.drop_left
        have hlt : behind.length < n := by
          have hpos := List.length_pos_iff.mpr hpart
          rw [← hlength, ← hbehind, List.length_append]
          omega
        obtain ⟨pieces, hcut, hfilled⟩ := ih behind.length hlt behind rfl
        refine ⟨[] :: pieces, hbehind ▸ hcut.part_append hpart, ?_⟩
        rw [hdrop, hfilled, List.intercalate_cons_of_ne_nil hcut.ne_nil, List.nil_append]
      · rw [if_neg (mt List.isPrefixOf_iff_prefix.mp hc)]
        have hlt : s.length < n := by
          rw [← hlength]
          exact Nat.lt_succ_self _
        obtain ⟨_ | ⟨p, ps⟩, hcut, hfilled⟩ := ih s.length hlt s rfl
        · exact absurd rfl hcut.ne_nil
        · refine ⟨(c :: p) :: ps, hcut.cons hc, ?_⟩
          rw [hfilled]
          cases ps with
          | nil => rfl
          | cons q qs => rfl

end Text

open LintDesk.Text

namespace Analyzer

variable {a : Analyzer} {ctx : TemplateContext} {arg out : String}

/-! ## One argument -/

/-- What an argument of the template is filled with. -/
inductive Fills (a : Analyzer) (ctx : TemplateContext) (arg : String) : String → Prop where
  | file : arg = fileHole → a.Fills ctx arg ctx.file
  | options : arg = optionsHole → a.options ≠ [] →
      a.Fills ctx arg (a.optionFlag ++ ",".intercalate a.options)
  | text {pieces : List (List Char)} : arg ≠ fileHole → arg ≠ optionsHole →
      Cut vendorHole.toList arg.toList pieces →
      a.Fills ctx arg (String.ofList (ctx.vendor.toList.intercalate pieces))

/-- Without options, their placeholder is dropped. -/
def drops (a : Analyzer) (arg : String) : Bool := arg == optionsHole && a.options.isEmpty

/-- The arguments of the template that are not dropped. -/
def kept (a : Analyzer) : List String := a.args.filter (!a.drops ·)

theorem cut_vendorHole_unique {s : List Char} {ps qs : List (List Char)}
    (hps : Cut vendorHole.toList s ps) (hqs : Cut vendorHole.toList s qs) : ps = qs := by
  have hhole : vendorHole.toList = '\x7b' :: "vendor\x7d".toList := by decide
  rw [hhole] at hps hqs
  exact Cut.unique (by decide) hps hqs

theorem exists_cut_replace (vendor s : String) : ∃ pieces, Cut vendorHole.toList s.toList pieces ∧
    replace vendorHole vendor s = String.ofList (vendor.toList.intercalate pieces) := by
  have hhole : vendorHole.toList ≠ [] := by decide
  obtain ⟨pieces, hcut, hfilled⟩ := exists_cut_replaceFrom hhole vendor.toList s.toList
  exact ⟨pieces, hcut, congrArg String.ofList hfilled⟩

theorem fileHole_ne_optionsHole : fileHole ≠ optionsHole := by decide

theorem Fills.unique {out' : String} (h : a.Fills ctx arg out) (h' : a.Fills ctx arg out') :
    out = out' := by
  rcases h with hfile | ⟨hoptions, -⟩ | ⟨hfile, hoptions, hcut⟩
  · rcases h' with - | ⟨hoptions, -⟩ | ⟨hfile', -, -⟩
    · rfl
    · exact absurd (hfile.symm.trans hoptions) fileHole_ne_optionsHole
    · exact absurd hfile hfile'
  · rcases h' with hfile | - | ⟨-, hoptions', -⟩
    · exact absurd (hfile.symm.trans hoptions) fileHole_ne_optionsHole
    · rfl
    · exact absurd hoptions hoptions'
  · rcases h' with hfile' | ⟨hoptions', -⟩ | ⟨-, -, hcut'⟩
    · exact absurd hfile' hfile
    · exact absurd hoptions' hoptions
    · rw [cut_vendorHole_unique hcut hcut']

/-- What an argument is filled with depends on the file only if it is the placeholder for it. -/
theorem Fills.of_ne_fileHole {interpreter vendor file file' : String} (hne : arg ≠ fileHole)
    (h : a.Fills ⟨interpreter, vendor, file⟩ arg out) :
    a.Fills ⟨interpreter, vendor, file'⟩ arg out := by
  rcases h with hfile | ⟨hoptions, hne'⟩ | ⟨hfile, hoptions, hcut⟩
  · exact absurd hfile hne
  · exact .options hoptions hne'
  · exact .text hfile hoptions hcut

theorem joinOptions_of_ne_nil {values : List String} (h : values ≠ []) (flag : String) :
    joinOptions values flag = some (flag ++ ",".intercalate values) := by
  have hjoin : joinWith "," values = ",".intercalate values := by
    rw [joinWith, join_eq_intercalate, ← String.toList_intercalate, String.ofList_toList]
  rw [joinOptions, if_neg (by simpa using h), hjoin]

theorem fillArg_of_drops (h : a.drops arg = true) : a.fillArg ctx arg = [] := by
  obtain ⟨hoptions, hempty⟩ := Bool.and_eq_true_iff.mp h
  obtain rfl := beq_iff_eq.mp hoptions
  rw [fillArg, if_neg fileHole_ne_optionsHole.symm, if_pos rfl, joinOptions, if_pos hempty]
  rfl

theorem exists_fillArg_of_not_drops (ctx : TemplateContext) (h : a.drops arg = false) :
    ∃ out, a.fillArg ctx arg = [out] ∧ a.Fills ctx arg out := by
  rw [fillArg]
  by_cases hfile : arg = fileHole
  · exact ⟨ctx.file, if_pos hfile, .file hfile⟩
  · rw [if_neg hfile]
    by_cases hoptions : arg = optionsHole
    · have hne : a.options ≠ [] := by simpa [drops, hoptions] using h
      refine ⟨_, ?_, .options hoptions hne⟩
      rw [if_pos hoptions, joinOptions_of_ne_nil hne, Option.toList_some]
    · obtain ⟨pieces, hcut, hfilled⟩ := exists_cut_replace ctx.vendor arg
      refine ⟨_, ?_, .text hfile hoptions hcut⟩
      rw [if_neg hoptions, hfilled]

/-! ## All arguments -/

theorem forall₂_flatMap_fillArg (a : Analyzer) (ctx : TemplateContext) (args : List String) :
    List.Forall₂ (a.Fills ctx) (args.filter (!a.drops ·)) (args.flatMap (a.fillArg ctx)) := by
  induction args with
  | nil => exact .nil
  | cons arg args ih =>
    rw [List.flatMap_cons]
    cases hdrops : a.drops arg with
    | true =>
      rw [fillArg_of_drops hdrops, List.filter_cons_of_neg (by simp [hdrops])]
      exact ih
    | false =>
      obtain ⟨out, hout, hfills⟩ := exists_fillArg_of_not_drops ctx hdrops
      rw [hout, List.filter_cons_of_pos (by simp [hdrops])]
      exact .cons hfills ih

theorem forall₂_fills_iff {args : List String} :
    List.Forall₂ (a.Fills ctx) a.kept args ↔ args = (a.materialize ctx).args := by
  have hall : List.Forall₂ (a.Fills ctx) a.kept (a.materialize ctx).args :=
    a.forall₂_flatMap_fillArg ctx a.args
  refine ⟨fun h => ?_, fun h => h ▸ hall⟩
  have heq : List.Forall₂ (· = ·) args (a.materialize ctx).args := by
    refine List.forall₂_iff_get.mpr ⟨h.length_eq.symm.trans hall.length_eq, fun k hk hk' => ?_⟩
    have hkept : k < a.kept.length := h.length_eq ▸ hk
    exact (h.get hkept hk).unique (hall.get hkept hk')
  rwa [List.forall₂_eq_eq_eq] at heq

/-- Each argument that is not dropped has its place in the filled template. -/
theorem exists_getElem?_args (ctx : TemplateContext) {k : Nat} (h : a.kept[k]? = some arg) :
    ∃ out, (a.materialize ctx).args[k]? = some out ∧ a.Fills ctx arg out := by
  have hall := forall₂_fills_iff.mpr (Eq.refl (a.materialize ctx).args)
  obtain ⟨hk, rfl⟩ := List.getElem?_eq_some_iff.mp h
  have hk' : k < (a.materialize ctx).args.length := hall.length_eq ▸ hk
  exact ⟨_, List.getElem?_eq_getElem hk', hall.get hk hk'⟩

theorem length_args (a : Analyzer) (ctx : TemplateContext) :
    (a.materialize ctx).args.length = a.kept.length :=
  (forall₂_fills_iff.mpr (Eq.refl (a.materialize ctx).args)).length_eq.symm

end Analyzer

open Analyzer in
/-- The arguments of a command are those of the template, one by one, but for a placeholder for
options where there are none: the placeholder for the file becomes the path, that for the options
the values behind the flag with commas between them, and in all others the vendor directory stands
between the pieces that the argument is cut into, as in the program. Nothing else makes up the
arguments. Another file changes an argument only where its placeholder is, and options without
commas can be told apart again. -/
theorem templates_filled (a : Analyzer) (interpreter vendor : String) :
    let command file := a.materialize ⟨interpreter, vendor, file⟩
    (∀ file args, List.Forall₂ (a.Fills ⟨interpreter, vendor, file⟩) a.kept args ↔
      args = (command file).args) ∧
    (∀ file, ∃ pieces, Cut vendorHole.toList (a.program.getD interpreter).toList pieces ∧
      (command file).program = String.ofList (vendor.toList.intercalate pieces)) ∧
    (∀ file file' : String, (command file).program = (command file').program ∧
      (command file).args.length = (command file').args.length ∧
      ∀ k : Nat, (command file).args[k]? ≠ (command file').args[k]? → a.kept[k]? = some fileHole) ∧
    ((∀ value ∈ a.options, ',' ∉ value.toList) → ∀ (file : String) (k : Nat),
      a.kept[k]? = some optionsHole →
      ∃ values, (command file).args[k]? = some (a.optionFlag ++ values) ∧
        values.toList.splitOn ',' = a.options.map String.toList ∧ a.options ≠ []) := by
  intro command
  refine ⟨fun file args => forall₂_fills_iff, fun file => exists_cut_replace _ _,
    fun file file' => ⟨rfl, ?_, fun k hk => ?_⟩, fun hcommas file k hk => ?_⟩
  · rw [length_args, length_args]
  · cases hkept : a.kept[k]? with
    | none =>
      -- Both commands end before this place.
      have hlength := List.getElem?_eq_none_iff.mp hkept
      rw [List.getElem?_eq_none (by rwa [length_args]),
        List.getElem?_eq_none (by rwa [length_args])] at hk
      exact absurd rfl hk
    | some arg =>
      refine congrArg some (not_not.mp fun hne => hk ?_)
      obtain ⟨out, hout, hfills⟩ := exists_getElem?_args ⟨interpreter, vendor, file⟩ hkept
      obtain ⟨out', hout', hfills'⟩ := exists_getElem?_args ⟨interpreter, vendor, file'⟩ hkept
      rw [hout, hout', (hfills.of_ne_fileHole hne).unique hfills']
  · obtain ⟨out, hout, hfills⟩ := exists_getElem?_args ⟨interpreter, vendor, file⟩ hk
    rcases hfills with hfile | ⟨-, hne⟩ | ⟨-, hoptions, -⟩
    · exact absurd hfile.symm fileHole_ne_optionsHole
    · refine ⟨_, hout, ?_, hne⟩
      rw [String.toList_intercalate]
      refine List.splitOn_intercalate ',' (fun l hl => ?_) (by simpa using hne)
      obtain ⟨value, hvalue, rfl⟩ := List.mem_map.mp hl
      exact hcommas value hvalue
    · exact absurd rfl hoptions

open Analyzer in
/-- The vendor directory, the path and a value look like placeholders themselves, and another value
is empty. -/
theorem templates_filled_nested :
    let a : Analyzer :=
      { id := "own", name := "Own", optionFlag := "--use="
        args := [fileHole, vendorHole ++ "/x\x7bvendo" ++ vendorHole, optionsHole, "-i" ++ fileHole]
        options := ["a b", "", fileHole] }
    let command file := a.materialize ⟨"php", "/v/" ++ vendorHole, file⟩
    (command ("my " ++ optionsHole)).args =
      ["my " ++ optionsHole, "/v/" ++ vendorHole ++ "/x\x7bvendo/v/" ++ vendorHole,
        "--use=a b,," ++ fileHole, "-i" ++ fileHole] ∧
    (command "a.php").args[3]? = (command ("my " ++ optionsHole)).args[3]? ∧
    (∀ value ∈ a.options, ',' ∉ value.toList) ∧ a.kept[2]? = some optionsHole ∧
    ∃ values, (command "a.php").args[2]? = some ("--use=" ++ values) ∧
      values.toList.splitOn ',' = ["a b".toList, [], fileHole.toList] ∧ a.options ≠ [] := by
  intro a command
  have hcommas : ∀ value ∈ a.options, ',' ∉ value.toList := by decide
  have hkept : a.kept[2]? = some optionsHole := by decide
  obtain ⟨-, -, hfiles, hoptions⟩ := templates_filled a "php" ("/v/" ++ vendorHole)
  refine ⟨by decide, ?_, hcommas, hkept, hoptions hcommas "a.php" 2 hkept⟩
  by_contra hne
  exact absurd ((hfiles _ _).2.2 3 hne) (by decide)

end LintDesk
