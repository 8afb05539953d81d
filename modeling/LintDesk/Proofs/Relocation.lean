import LintDesk.Proofs.Bases
import LintDesk.Proofs.Expansion

/-! # Relocated expansions

Relative arguments are expanded below one base directory and below another. If the trees below them
are the same, then both expansions take the same files and note the same arguments, as long as no
pattern comes behind a base whose names are patterns themselves.
-/

namespace LintDesk.Glob

variable {b b₁ b₂ : Base} {up : Prop} {r : List Char}

/-! ## The same expansion at two places -/

namespace Base

/-- The path of a base as a text. -/
def text (b : Base) : String := String.ofList b.path

theorem below_eq_joinPath (b : Base) (r : List Char) :
    String.ofList (b.below r) = joinPath b.text (String.ofList r) := by
  rw [joinPath, text, String.toList_ofList, String.toList_ofList]
  rfl

theorem parts_below_mem_iff (b : Base) {rels : List (List Char)}
    (hrels : ∀ r ∈ rels, Within up r) (hr : Path.isAbsolute r = false) :
    Path.parts (b.below r) ∈ (rels.map b.below).map Path.parts ↔
      Path.added r ∈ rels.map Path.added := by
  rw [List.map_map, List.mem_map, List.mem_map]
  refine exists_congr fun r' => and_congr_right fun hr' => ?_
  rw [Function.comp_apply, below, below, Path.parts_join (hrels r' hr').relative b.isAbsolute_path,
    Path.parts_join hr b.isAbsolute_path]
  exact List.append_right_inj _

end Base

/-- Two expansions that have come to the same files below each base. -/
structure SameExpansion (b₁ b₂ : Base) (up : Prop) (e₁ e₂ : Expansion) : Prop where
  sound₁ : e₁.Sound
  sound₂ : e₂.Sound
  files : ∃ rels : List (List Char), (∀ r ∈ rels, Within up r) ∧
    e₁.files = rels.map b₁.below ∧ e₂.files = rels.map b₂.below
  unmatched : e₁.unmatched = e₂.unmatched

variable {e₁ e₂ : Expansion}

theorem sameExpansion_empty : SameExpansion b₁ b₂ up {} {} :=
  ⟨Expansion.sound_empty, Expansion.sound_empty, ⟨[], nofun, rfl, rfl⟩, rfl⟩

theorem SameExpansion.take_below (h : SameExpansion b₁ b₂ up e₁ e₂) (hr : Within up r) :
    SameExpansion b₁ b₂ up (e₁.take (b₁.below r)) (e₂.take (b₂.below r)) := by
  obtain ⟨rels, hrels, hfiles₁, hfiles₂⟩ := h.files
  have hseen : Path.parts (b₁.below r) ∈ e₁.seen ↔ Path.parts (b₂.below r) ∈ e₂.seen := by
    rw [h.sound₁.mem_seen_iff, h.sound₂.mem_seen_iff, hfiles₁, hfiles₂,
      b₁.parts_below_mem_iff hrels hr.relative, b₂.parts_below_mem_iff hrels hr.relative]
  refine ⟨h.sound₁.take_file _, h.sound₂.take_file _, ?_, ?_⟩
  · rcases e₁.take_cases (b₁.below r) with ⟨h₁, htake₁⟩ | ⟨h₁, htake₁⟩ <;>
      rcases e₂.take_cases (b₂.below r) with ⟨h₂, htake₂⟩ | ⟨h₂, htake₂⟩ <;>
      rw [htake₁, htake₂]
    · exact h.files
    · exact absurd (hseen.mp h₁) h₂
    · exact absurd (hseen.mpr h₂) h₁
    · refine ⟨rels ++ [r], fun r' hr' => ?_, ?_, ?_⟩
      · rcases List.mem_append.mp hr' with hr' | hr'
        · exact hrels r' hr'
        · exact List.mem_singleton.mp hr' ▸ hr
      · rw [hfiles₁, List.map_append]
        rfl
      · rw [hfiles₂, List.map_append]
        rfl
  · rw [Expansion.unmatched_take, Expansion.unmatched_take, h.unmatched]

theorem SameExpansion.take_all (h : SameExpansion b₁ b₂ up e₁ e₂) {rels : List (List Char)}
    (hrels : ∀ r ∈ rels, Within up r) : SameExpansion b₁ b₂ up
      ((rels.map b₁.below).foldl Expansion.take e₁)
      ((rels.map b₂.below).foldl Expansion.take e₂) := by
  induction rels generalizing e₁ e₂ with
  | nil => exact h
  | cons r rels ih =>
    obtain ⟨hr, hrels⟩ := List.forall_mem_cons.mp hrels
    exact ih (h.take_below hr) hrels

theorem SameExpansion.note (h : SameExpansion b₁ b₂ up e₁ e₂) (arg : String)
    (rels : List (List Char)) : SameExpansion b₁ b₂ up (e₁.note arg (rels.map b₁.below))
      (e₂.note arg (rels.map b₂.below)) := by
  refine ⟨h.sound₁.note, h.sound₂.note, ?_, ?_⟩
  · rw [Expansion.files_note, Expansion.files_note]
    exact h.files
  · cases rels with
    | nil => exact congrArg (· ++ [arg]) h.unmatched
    | cons r rels => exact h.unmatched

theorem SameExpansion.takeNamed_all (hsame : SameBelow b₁ b₂ up) {args : List String}
    (hrelative : ∀ arg ∈ args, Path.isAbsolute arg.toList = false)
    (hplain : ∀ arg ∈ args, isPattern arg.toList = true → b₁.Plain ∧ b₂.Plain)
    (hup : ∀ arg ∈ args, goesUp arg.toList = true → up) (h : SameExpansion b₁ b₂ up e₁ e₂) :
    SameExpansion b₁ b₂ up (args.foldl (Expansion.takeNamed b₁.place b₁.path) e₁)
      (args.foldl (Expansion.takeNamed b₂.place b₂.path) e₂) := by
  induction args generalizing e₁ e₂ with
  | nil => exact h
  | cons arg args ih =>
    obtain ⟨rels, hrels, hfiles₁, hfiles₂⟩ := exists_filesOf hsame
      (hrelative arg List.mem_cons_self) (hplain arg List.mem_cons_self)
      (hup arg List.mem_cons_self)
    refine ih (fun a ha => hrelative a (List.mem_cons_of_mem _ ha))
      (fun a ha => hplain a (List.mem_cons_of_mem _ ha))
      (fun a ha => hup a (List.mem_cons_of_mem _ ha)) ?_
    rw [Expansion.takeNamed, Expansion.takeNamed, hfiles₁, hfiles₂]
    exact (h.note arg rels).take_all hrels

/-- Relative arguments name the same files below two bases, in the same order, and leave the same
arguments without a file, if the trees below the bases are the same and, in case one of the
arguments is a pattern, no name of a base is. -/
theorem expanded_below_any_base {args : List String}
    (hrelative : ∀ arg ∈ args, Path.isAbsolute arg.toList = false)
    (hsame : SameBelow b₁ b₂ (∃ arg ∈ args, goesUp arg.toList = true))
    (hplain : ∀ arg ∈ args, isPattern arg.toList = true → b₁.Plain ∧ b₂.Plain) :
    ∃ rels unmatched : List String, (∀ r ∈ rels, Path.isAbsolute r.toList = false) ∧
      expand b₁.place b₁.text args = (rels.map (joinPath b₁.text), unmatched) ∧
      expand b₂.place b₂.text args = (rels.map (joinPath b₂.text), unmatched) := by
  have hrun : SameExpansion b₁ b₂ _ _ _ := .takeNamed_all hsame hrelative hplain
    (fun arg harg hgoes => ⟨arg, harg, hgoes⟩) sameExpansion_empty
  obtain ⟨rels, hrels, hfiles₁, hfiles₂⟩ := hrun.files
  have htexts (b : Base) : (rels.map b.below).map String.ofList =
      (rels.map String.ofList).map (joinPath b.text) := by
    rw [List.map_map, List.map_map]
    exact List.map_congr_left fun r _ => b.below_eq_joinPath r
  refine ⟨rels.map String.ofList,
    (args.foldl (Expansion.takeNamed b₁.place b₁.path) {}).unmatched, fun r hr => ?_, ?_, ?_⟩
  · obtain ⟨r', hr', rfl⟩ := List.mem_map.mp hr
    rw [String.toList_ofList]
    exact (hrels r' hr').relative
  · rw [expand, Base.text, String.toList_ofList, hfiles₁, htexts]
    rfl
  · rw [expand, Base.text, String.toList_ofList, hfiles₂, htexts, hrun.unmatched]
    rfl

/-! ## Trees without links -/

namespace Base

/-- What is below a base, as a file system of its own. -/
def inside (b : Base) : Place := { tree := b.place.tree.subtree b.names }

/-- Whether no link is met on the way down to a base, and none below it. -/
structure Linkless (b : Base) : Prop where
  dirs : ∀ e, e <+: b.names → b.place.tree.entry? e = some .dir
  links : ∀ entry ∈ b.inside.tree.entries, entry.2.isLink = false

section Linkless

variable (h : b.Linkless)
include h

theorem follow_names {qs : List FileName} (hup : ['.', '.'] ∉ qs) :
    b.place.tree.follow 40 [] (b.names ++ qs) =
      (b.inside.tree.follow 40 [] qs).map (b.names ++ ·) := by
  have hfilter : b.names.filter (· ≠ ['.']) = b.names :=
    List.filter_eq_self.mpr fun n hn => decide_eq_true (b.legal n hn).ne_dot
  have hleads : b.place.tree.Leads 40 [] b.names 40 ([] ++ b.names.filter (· ≠ ['.'])) :=
    FileTree.leads_through (fun hmem => (b.legal _ hmem).ne_up rfl)
      fun e he => h.dirs e (hfilter ▸ he)
  rw [hleads.follow_append, hfilter, List.nil_append]
  have hfollow : b.place.tree.follow 40 (b.names ++ []) qs =
      (b.inside.tree.follow 40 [] qs).map (b.names ++ ·) := FileTree.follow_subtree h.links hup
  rwa [List.append_nil] at hfollow

omit h in
theorem pieces_below (b : Base) (hr : Within False r) :
    FileTree.pieces (b.below r) = b.names ++ FileTree.pieces r ∧
      FileTree.pieces ('/' :: r) = FileTree.pieces r ∧ ['.', '.'] ∉ FileTree.pieces r := by
  refine ⟨?_, Path.pieces_append [] r, fun hmem => ?_⟩
  · rw [below, path, Path.pieces_join hr.relative, Path.steps_ofNames b.legal]
  · rcases Path.pieces_cases r with hcase | hcase <;> rw [hcase] at hmem
    · exact hr.up hmem
    · rcases List.mem_append.mp hmem with hmem | hmem
      · exact hr.up hmem
      · exact absurd (List.mem_singleton.mp hmem) (by decide)

variable (hr : Within False r)
include hr

theorem resolve_below : b.place.resolve (b.below r) =
    (b.inside.resolve ('/' :: r)).map fun found => (b.names ++ found.1, found.2) := by
  obtain ⟨hbelow, hinside, hup⟩ := b.pieces_below hr
  have habs := b.isAbsolute_below hr.relative
  rw [Place.resolve_eq (Path.ne_nil_of_isAbsolute habs), Place.resolve_eq (List.cons_ne_nil _ _), Place.start, if_pos habs,
    hbelow, hinside, follow_names h hup]
  change _ = Except.map _ ((b.inside.tree.follow 40 [] (FileTree.pieces r)).bind _)
  cases b.inside.tree.follow 40 [] (FileTree.pieces r) with
  | error fault => rfl
  | ok x =>
    have hentry := FileTree.entry?_subtree b.place.tree b.names x
    simp only [Except.map, Except.bind, ← hentry, inside]
    cases FileTree.entry? (b.place.tree.subtree b.names) x <;> rfl

theorem stat?_below : b.place.stat? (b.below r) = b.inside.stat? ('/' :: r) := by
  rw [Place.stat?, Place.stat?, resolve_below h hr]
  cases b.inside.resolve ('/' :: r) <;> rfl

theorem namesIn_below : b.place.namesIn (b.below r) = b.inside.namesIn ('/' :: r) := by
  rw [Place.namesIn, Place.namesIn, resolve_below h hr]
  cases b.inside.resolve ('/' :: r) with
  | error fault => rfl
  | ok found =>
    obtain ⟨x, e⟩ := found
    cases e with
    | dir => exact (FileTree.namesIn_subtree b.place.tree b.names x).symm
    | file | program | link => rfl

theorem hasEntry_below : b.place.hasEntry (b.below r) = b.inside.hasEntry ('/' :: r) := by
  obtain ⟨hbelow, hinside, hup⟩ := b.pieces_below hr
  have hne := FileTree.pieces_ne_nil r
  have hslash : Path.isAbsolute ('/' :: r) = true := rfl
  have hfollow := follow_names h (mt List.mem_of_mem_dropLast hup)
  rw [Place.hasEntry, Place.hasEntry, Place.has, Place.has, stat?_below h hr, hbelow, hinside,
    List.dropLast_append_of_ne_nil hne, List.getLast?_append_of_ne_nil _ hne,
    if_pos (b.isAbsolute_below hr.relative), hfollow, if_pos hslash]
  refine congrArg _ ?_
  have hentry (x : List FileName) :
      b.inside.tree.entry? x = b.place.tree.entry? (b.names ++ x) :=
    FileTree.entry?_subtree b.place.tree b.names x
  cases b.inside.tree.follow 40 [] (FileTree.pieces r).dropLast with
  | error fault => rfl
  | ok x =>
    cases (FileTree.pieces r).getLast? with
    | none => rfl
    | some name =>
      simp only [Except.map, hentry, List.append_assoc]

end Linkless

end Base

/-- Without links and steps up, it is enough to compare the trees. -/
theorem sameBelow_of_inside (h₁ : b₁.Linkless) (h₂ : b₂.Linkless)
    (hlegal : ∀ entry ∈ b₁.inside.tree.entries, ∀ n ∈ entry.1, n.Legal)
    (hsame : b₁.inside = b₂.inside) (hup : ¬up) : SameBelow b₁ b₂ up := by
  have hwithin {r : List Char} (hr : Within up r) : Within False r :=
    ⟨hr.relative, fun hmem => hup (hr.up hmem)⟩
  refine ⟨fun r hr => ⟨?_, ?_, ?_⟩, fun r hr n hn => ?_⟩
  · rw [Base.stat?_below h₁ (hwithin hr), Base.stat?_below h₂ (hwithin hr), hsame]
  · rw [Base.hasEntry_below h₁ (hwithin hr), Base.hasEntry_below h₂ (hwithin hr), hsame]
  · rw [Base.namesIn_below h₁ (hwithin hr), Base.namesIn_below h₂ (hwithin hr), hsame]
  · rw [Base.namesIn_below h₁ (hwithin hr)] at hn
    obtain ⟨names, e, hmem, hlast⟩ := Place.exists_of_mem_namesIn hn
    exact hlegal _ hmem n (List.mem_of_getLast? hlast)

/-- The same files in `/a` and in `/b/c`. -/
def twoCopies : Place :=
  let files (d : List FileName) : List (List FileName × Entry) :=
    [(d, .dir), (d ++ ["x.php".toList], .file [] false), (d ++ ["y".toList], .dir),
      (d ++ ["y".toList, "z.php".toList], .file [] false)]
  { tree := ⟨([], .dir) :: (["b".toList], .dir) ::
      (files ["a".toList] ++ files ["b".toList, "c".toList])⟩ }

def copyA : Base := ⟨twoCopies, ["a".toList], by decide +kernel, by cbv⟩

def copyBC : Base := ⟨twoCopies, ["b".toList, "c".toList], by decide +kernel, by cbv⟩

theorem expanded_below_any_base_copied :
    let args := ["*.php", "**/z.php", "y/z.php", "w.php"]
    copyA.text = "/a" ∧ copyBC.text = "/b/c" ∧
      ∃ rels unmatched : List String, (∀ r ∈ rels, Path.isAbsolute r.toList = false) ∧
        expand twoCopies copyA.text args = (rels.map (joinPath copyA.text), unmatched) ∧
        expand twoCopies copyBC.text args = (rels.map (joinPath copyBC.text), unmatched) := by
  intro args
  have hdirs {d : List FileName} (h : ∀ e ∈ d.inits, twoCopies.tree.entry? e = some .dir) :
      ∀ e, e <+: d → twoCopies.tree.entry? e = some .dir :=
    fun e he => h e ((List.mem_inits e d).mpr he)
  have hA : copyA.Linkless := ⟨hdirs (by decide +kernel), by decide +kernel⟩
  have hBC : copyBC.Linkless := ⟨hdirs (by decide +kernel), by decide +kernel⟩
  have hentries : copyA.inside.tree.entries = copyBC.inside.tree.entries := by decide +kernel
  have hinside : copyA.inside = copyBC.inside :=
    congrArg (fun entries => Place.mk ⟨entries⟩ []) hentries
  have hup : args.any (goesUp ·.toList) = false := by cbv
  have hplain : copyA.Plain ∧ copyBC.Plain := by
    unfold Base.Plain
    decide +kernel
  refine ⟨by decide +kernel, by decide +kernel, expanded_below_any_base (by decide +kernel)
    (sameBelow_of_inside hA hBC (by decide +kernel) hinside ?_) fun _ _ _ => hplain⟩
  simpa using hup

/-- A base whose name is read as a pattern: what is found below it is in another directory. -/
theorem not_expanded_below_bracketed_base :
    let files (n : FileName) : List (List FileName × Entry) :=
      [([n], .dir), ([n, "a.php".toList], .file [] false)]
    let place : Place := { tree := ⟨([], .dir) :: (files "p".toList ++ files "[p]".toList)⟩ }
    (place.tree.subtree ["p".toList]).entries = (place.tree.subtree ["[p]".toList]).entries ∧
      ¬∃ rels unmatched : List String, (∀ r ∈ rels, Path.isAbsolute r.toList = false) ∧
        expand place "/p" ["*.php"] = (rels.map (joinPath "/p"), unmatched) ∧
        expand place "/[p]" ["*.php"] = (rels.map (joinPath "/[p]"), unmatched) := by
  intro files place
  refine ⟨by decide +kernel, ?_⟩
  rintro ⟨rels, unmatched, hrelative, -, hbracketed⟩
  have hfound : expand place "/[p]" ["*.php"] = (["/p/a.php"], []) := by cbv
  rw [hfound] at hbracketed
  obtain ⟨hfiles, -⟩ := Prod.mk.inj hbracketed
  obtain ⟨r, hr, hjoin⟩ := List.mem_map.mp (hfiles ▸ List.mem_singleton_self "/p/a.php")
  have hlead : Path.lead "/[p]".toList = '/' :: '[' :: "p]/".toList := by decide +kernel
  have htext : "/p/a.php".toList = '/' :: 'p' :: "/a.php".toList := by decide +kernel
  have hchars := congrArg String.toList hjoin
  rw [joinPath, String.toList_ofList, Path.join_eq (hrelative r hr), hlead, htext] at hchars
  have hsecond := (List.cons.inj (List.cons.inj hchars).2).1
  exact absurd hsecond (by decide)

end LintDesk.Glob
