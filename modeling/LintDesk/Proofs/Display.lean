import LintDesk.Proofs.BytePaths

/-! # Files as they are shown

A file is shown as it is seen from a root. Two absolute paths have some parts in common, from the
first one on, and the way from one to the other is decided by what remains of them behind these:
there is a step up for each part that remains of the root, and then comes what remains of the file.
So it is only where nothing remains of the root that the way can do without a step up.

What a reader sees is a text, while a path may have any bytes. Where they spell a text nothing is
lost, and elsewhere the text may be that of other paths too.
-/

namespace LintDesk

open LintDesk.Text

/-- What a path can have behind its first slash: a step up, or a name that a directory can have as
that of an entry. -/
inductive PathPart.Inner : PathPart → Prop
  | up : Inner .up
  | name {n : FileName} (h : n.Legal) : Inner (.name n)

namespace PathPart.Inner

variable {part : PathPart}

theorem text_ne_nil (h : part.Inner) : part.text ≠ [] := by
  cases h with
  | up => exact List.cons_ne_nil _ _
  | name h => exact h.ne_nil

theorem slash_notMem (h : part.Inner) : '/' ∉ part.text := by
  cases h with
  | up => decide
  | name h => exact h.slash_notMem

/-- It is told from its text, wherever this stands in a path. -/
theorem part?_text (h : part.Inner) (first : Bool) : Path.part? first part.text = some part := by
  cases h with
  | up => rfl
  | name h => rw [text, Path.part?, if_neg h.ne_nil, if_neg h.ne_dot, if_neg h.ne_up]

theorem isAbsolute_text (h : part.Inner) : Path.isAbsolute part.text = false :=
  Path.isAbsolute_of_notMem h.slash_notMem

theorem lead_text (h : part.Inner) : Path.lead part.text = part.text ++ ['/'] := by
  have hlast : part.text.getLast? ≠ some '/' := by
    intro hlast
    exact h.slash_notMem (List.mem_of_getLast? hlast)
  exact if_neg (not_or.mpr ⟨h.text_ne_nil, hlast⟩)

end PathPart.Inner

namespace Path

variable {p file root : List Char} {part : PathPart} {ps as bs : List PathPart}

theorem inner_of_mem_added (h : part ∈ added p) : part.Inner := by
  obtain ⟨n, hn, hpart⟩ := List.mem_filterMap.mp h
  rw [part?] at hpart
  split_ifs at hpart with hnil hdot hfirst hup
  · cases hfirst
  · cases hpart
    exact .up
  · cases hpart
    exact .name ⟨hnil, hdot, hup, slash_notMem_of_mem_split hn⟩

theorem text_mem_split (h : part ∈ added p) : part.text ∈ split p := by
  obtain ⟨n, hn, hpart⟩ := List.mem_filterMap.mp h
  rw [part?] at hpart
  split_ifs at hpart with hnil hdot hfirst hup
  · cases hfirst
  · cases hpart
    rw [hup] at hn
    exact hn
  · cases hpart
    exact hn

/-! ## Paths made of parts -/

/-- The parts with a slash between every two of them. -/
def written (ps : List PathPart) : List Char := Text.join ['/'] (ps.map PathPart.text)

theorem written_cons (part : PathPart) (ps : List PathPart) :
    written (part :: ps) = part.text ++ ps.flatMap fun part => '/' :: part.text := by
  rw [written, List.map_cons, join_cons, List.flatMap_map]
  rfl

section Inner

variable (h : ∀ part ∈ ps, part.Inner)
include h

theorem foldl_join (hp : lead p = p ++ ['/']) :
    ps.foldl (fun p part => join p part.text) p =
      p ++ ps.flatMap fun part => '/' :: part.text := by
  induction ps generalizing p with
  | nil => exact (List.append_nil p).symm
  | cons part ps ih =>
    obtain ⟨hpart, hps⟩ := List.forall_mem_cons.mp h
    have hjoin : join p part.text = p ++ ['/'] ++ part.text := by
      rw [join_eq hpart.isAbsolute_text, hp]
    have hlead : lead (p ++ ['/'] ++ part.text) = p ++ ['/'] ++ part.text ++ ['/'] := by
      rw [lead_append hpart.text_ne_nil, hpart.lead_text, List.append_assoc _ part.text]
    rw [List.foldl_cons, hjoin, ih hps hlead, List.flatMap_cons]
    simp

theorem ofParts_eq_written : ofParts ps = written ps := by
  cases ps with
  | nil => rfl
  | cons part ps =>
    obtain ⟨hpart, hps⟩ := List.forall_mem_cons.mp h
    rw [ofParts, List.foldl_cons, join_nil, foldl_join hps hpart.lead_text, written_cons]

theorem isAbsolute_written : isAbsolute (written ps) = false := by
  cases ps with
  | nil => rfl
  | cons part ps =>
    have hpart := (List.forall_mem_cons.mp h).1
    obtain ⟨c, s, htext⟩ := List.exists_cons_of_ne_nil hpart.text_ne_nil
    have hrelative := hpart.isAbsolute_text
    rw [written_cons, htext]
    rw [htext] at hrelative
    exact hrelative

theorem split_written (hne : ps ≠ []) : split (written ps) = ps.map PathPart.text := by
  refine split_join (mt List.map_eq_nil_iff.mp hne) ?_
  intro piece hpiece
  obtain ⟨part, hpart, rfl⟩ := List.mem_map.mp hpiece
  exact (h part hpart).slash_notMem

theorem filterMap_part?_text : (ps.map PathPart.text).filterMap (part? false) = ps := by
  rw [List.filterMap_map]
  calc ps.filterMap (part? false ∘ PathPart.text)
    _ = ps.filterMap some := List.filterMap_congr fun part hpart => (h part hpart).part?_text false
    _ = ps := List.filterMap_some

theorem added_written : added (written ps) = ps := by
  cases ps with
  | nil => rfl
  | cons part ps =>
    rw [added, split_written h (List.cons_ne_nil _ _)]
    exact filterMap_part?_text h

theorem parts_written : parts (written ps) = ps := by
  cases ps with
  | nil => rfl
  | cons part ps =>
    obtain ⟨hpart, hps⟩ := List.forall_mem_cons.mp h
    obtain ⟨n, ns, hsplit, hparts⟩ := parts_of_not_isAbsolute (isAbsolute_written h)
    rw [split_written h (List.cons_ne_nil _ _), List.map_cons] at hsplit
    obtain ⟨rfl, rfl⟩ := List.cons.inj hsplit
    rw [hparts, hpart.part?_text true, filterMap_part?_text hps]
    rfl

end Inner

/-! ## What remains of two paths -/

/-- What remains of two lists of parts behind those with which both of them begin. -/
def remaining : List PathPart → List PathPart → List PathPart × List PathPart
  | a :: as, b :: bs => if a = b then remaining as bs else (a :: as, b :: bs)
  | as, bs => (as, bs)

theorem remaining_append (bs rest : List PathPart) : remaining (bs ++ rest) bs = (rest, []) := by
  induction bs with
  | nil => cases rest <;> rfl
  | cons b bs ih => rw [List.cons_append, remaining, if_pos rfl, ih]

theorem remaining_suffix (as bs : List PathPart) : (remaining as bs).1 <:+ as := by
  fun_induction remaining as bs with
  | case1 as a bs ih => exact ih.trans (List.suffix_cons a as)
  | case2 | case3 => exact List.suffix_rfl

theorem prefix_of_remaining_eq_nil (h : (remaining as bs).2 = []) : bs <+: as := by
  fun_induction remaining as bs with
  | case1 as a bs ih => exact (List.prefix_cons_inj a).mpr (ih h)
  | case2 => cases h
  | case3 as bs =>
    cases h
    exact List.nil_prefix

theorem stepsBetween_nil (found bs : List PathPart) :
    stepsBetween found [] bs = some (found ++ bs.map fun _ => .up) := by
  induction bs generalizing found with
  | nil => simp [stepsBetween]
  | cons b bs ih => rw [stepsBetween, ih, List.append_assoc, List.map_cons, List.singleton_append]

/-- The way leads up from what remains of the base and down what remains of the path. There is none
if the first step would have to undo a step up. -/
theorem stepsBetween_eq (hbs : .current ∉ bs) : stepsBetween [] as bs =
    if (remaining as bs).1 ≠ [] ∧ (remaining as bs).2.head? = some .up then none
    else some ((remaining as bs).2.map (fun _ => .up) ++ (remaining as bs).1) := by
  fun_induction remaining as bs with
  | case1 as a bs ih =>
    rw [stepsBetween, if_pos ⟨rfl, rfl⟩]
    exact ih (List.not_mem_of_not_mem_cons hbs)
  | case2 a as b bs hne =>
    have hcurrent : b ≠ .current := (List.ne_of_not_mem_cons hbs).symm
    rw [stepsBetween, if_neg (mt And.right hne), if_neg hcurrent]
    by_cases hup : b = .up
    · rw [if_pos hup, if_pos ⟨List.cons_ne_nil _ _, congrArg some hup⟩]
    · rw [if_neg hup, if_neg fun hcond => hup (Option.some.inj hcond.2)]
      rfl
  | case3 as bs hnil =>
    cases as with
    | nil =>
      rw [stepsBetween_nil, if_neg fun hcond => hcond.1 rfl, List.append_nil]
      rfl
    | cons a as =>
      cases bs with
      | nil => simp [stepsBetween]
      | cons b bs => exact absurd rfl (hnil a as b bs rfl)

/-! ## Files below a root -/

/-- The parts that a path has behind as many as the root has. -/
def beyond (file root : List Char) : List PathPart := (parts file).drop (parts root).length

/-- Whether a file lies below a root by what their paths say: the parts of the root are the first
ones of the file's path, and no step up follows them. -/
def LiesBelow (file root : List Char) : Prop :=
  parts root <+: parts file ∧ (beyond file root).head? ≠ some .up

instance : DecidableRel LiesBelow := fun file root =>
  inferInstanceAs (Decidable (parts root <+: parts file ∧ (beyond file root).head? ≠ some .up))

theorem parts_append_beyond (h : parts root <+: parts file) :
    parts root ++ beyond file root = parts file := List.prefix_append_drop h |>.symm

section Absolute

variable (hfile : isAbsolute file = true) (hroot : isAbsolute root = true)

include hroot in
theorem current_notMem_parts : .current ∉ parts root := by
  rw [parts_of_isAbsolute hroot, List.mem_cons, not_or]
  refine ⟨nofun, ?_⟩
  intro hcurrent
  cases inner_of_mem_added hcurrent

include hfile hroot

/-- The first part of both paths is the root directory. -/
theorem mem_added_of_mem_beyond (h : part ∈ beyond file root) : part ∈ added file := by
  rw [beyond, parts_of_isAbsolute hfile, parts_of_isAbsolute hroot] at h
  exact List.mem_of_mem_drop h

theorem inner_beyond : ∀ part ∈ beyond file root, part.Inner := fun _ h =>
  inner_of_mem_added (mem_added_of_mem_beyond hfile hroot h)

theorem inner_of_mem_remaining (h : part ∈ (remaining (parts file) (parts root)).1) :
    part.Inner := by
  rw [parts_of_isAbsolute hfile, parts_of_isAbsolute hroot, remaining, if_pos rfl] at h
  exact inner_of_mem_added ((remaining_suffix _ _).subset h)

theorem relative?_eq : relative? file root =
    (stepsBetween [] (parts file) (parts root)).map ofParts := by
  rw [relative?, hfile, hroot]
  rfl

theorem display_of_begins (h : parts root <+: parts file) : display file root =
    if (beyond file root).head? = some .up then file else written (beyond file root) := by
  have hinner := inner_beyond hfile hroot
  have hremaining : remaining (parts file) (parts root) = (beyond file root, []) := by
    rw [← parts_append_beyond h]
    exact remaining_append _ _
  have hrelative : relative? file root = some (written (beyond file root)) := by
    rw [relative?_eq hfile hroot, stepsBetween_eq (current_notMem_parts hroot), hremaining,
      if_neg (not_and_of_not_right _ nofun), Option.map_some]
    exact congrArg some (ofParts_eq_written hinner)
  rw [display, hrelative]
  simp only [parts_written hinner]

/-- Where something remains of the root, the way begins with a step up, or there is none. -/
theorem display_of_not_begins (h : ¬parts root <+: parts file) : display file root = file := by
  obtain ⟨b, bs, hbs⟩ := List.exists_cons_of_ne_nil (mt prefix_of_remaining_eq_nil h)
  rw [display, relative?_eq hfile hroot, stepsBetween_eq (current_notMem_parts hroot), hbs]
  split_ifs with hcond
  · rfl
  · have hinner : ∀ part ∈ (b :: bs).map (fun _ => .up) ++ (remaining (parts file) (parts root)).1,
        part.Inner := by
      intro part hpart
      rcases List.mem_append.mp hpart with hup | hremaining
      · obtain ⟨_, -, rfl⟩ := List.mem_map.mp hup
        exact .up
      · exact inner_of_mem_remaining hfile hroot hremaining
    rw [Option.map_some, ofParts_eq_written hinner]
    simp only [parts_written hinner]
    rfl

theorem display_of_below (h : LiesBelow file root) :
    display file root = written (beyond file root) := by
  rw [display_of_begins hfile hroot h.1, if_neg h.2]

theorem display_of_not_below (h : ¬LiesBelow file root) : display file root = file := by
  by_cases hbegins : parts root <+: parts file
  · have hup : (beyond file root).head? = some .up := by
      by_contra hup
      exact h ⟨hbegins, hup⟩
    rw [display_of_begins hfile hroot hbegins, if_pos hup]
  · exact display_of_not_begins hfile hroot hbegins

/-- A file that is shown as it is has an absolute path, unlike what is written for one below the
root. -/
theorem display_eq_written_iff :
    display file root = written (beyond file root) ↔ LiesBelow file root := by
  constructor
  · intro hwritten
    by_contra h
    have hrelative : isAbsolute (written (beyond file root)) = false :=
      isAbsolute_written (inner_beyond hfile hroot)
    rw [← hwritten, display_of_not_below hfile hroot h, hfile] at hrelative
    cases hrelative
  · exact display_of_below hfile hroot

/-- What is shown leads from the root to the file. -/
theorem parts_join_display : parts (join root (display file root)) = parts file := by
  have hinner := inner_beyond hfile hroot
  by_cases h : LiesBelow file root
  · calc parts (join root (display file root))
      _ = parts (join root (written (beyond file root))) := by
        rw [display_of_below hfile hroot h]
      _ = parts root ++ added (written (beyond file root)) :=
        parts_join (isAbsolute_written hinner) hroot
      _ = parts root ++ beyond file root := by rw [added_written hinner]
      _ = parts file := parts_append_beyond h.1
  · rw [display_of_not_below hfile hroot h, join, if_pos hfile]

/-- A file is shown by a path that is made of pieces of its own path. -/
theorem exists_display_eq_join :
    ∃ ns, (∀ n ∈ ns, n ∈ split file) ∧ display file root = Text.join ['/'] ns := by
  by_cases h : LiesBelow file root
  · refine ⟨(beyond file root).map PathPart.text, ?_, display_of_below hfile hroot h⟩
    intro n hn
    obtain ⟨part, hpart, rfl⟩ := List.mem_map.mp hn
    exact text_mem_split (mem_added_of_mem_beyond hfile hroot hpart)
  · refine ⟨split file, fun n hn => hn, ?_⟩
    rw [join_split, display_of_not_below hfile hroot h]

end Absolute
end Path

namespace BytePath

variable {file root : BytePath}

section Absolute

variable (hfile : Path.isAbsolute file.chars = true) (hroot : Path.isAbsolute root.chars = true)
include hfile hroot

/-- A file is shown by a path that is put together from the same units as its own. -/
theorem exists_display_eq_flatMap {α : Type} {unit : α → List Char} (h : Path.Alphabet unit)
    {s : List α} (hs : file.chars = s.flatMap unit) :
    ∃ t : List α, Path.display file.chars root.chars = t.flatMap unit := by
  obtain ⟨ns, hns, hdisplay⟩ := Path.exists_display_eq_join hfile hroot
  rw [hdisplay]
  exact h.exists_join fun n hn => h.exists_of_mem_split (hs ▸ hns n hn)

theorem chars_fromRoot : (file.fromRoot root).chars = Path.display file.chars root.chars := by
  obtain ⟨p, hp⟩ := exists_display_eq_flatMap hfile hroot alphabet_bytes (chars_eq file)
  rw [← chars_eq] at hp
  rw [fromRoot, hp, ofChars_chars]

theorem isText_fromRoot (h : file.IsText) : (file.fromRoot root).IsText := by
  obtain ⟨s, hs⟩ := isText_iff.mp h
  rw [isText_iff, chars_fromRoot hfile hroot]
  exact exists_display_eq_flatMap hfile hroot alphabet_chars hs

theorem parts_join_fromRoot :
    Path.parts (Path.join root.chars (file.fromRoot root).chars) = Path.parts file.chars := by
  rw [chars_fromRoot hfile hroot]
  exact Path.parts_join_display hfile hroot

end Absolute
end BytePath

open LintDesk.Path

/-- A file is shown by the path without the parts of the root if it lies below the root, and by its
own path otherwise. The path leads from the root to the file, so two files are shown by the same
path only if theirs have the same parts. What a reader sees is this path as a text. It is the path
itself wherever that spells a text, as it does for a file whose path spells one. So two files are
shown alike only if their paths have the same parts, or if one of them is shown by a path that is
no text. -/
theorem files_shown_from_root {file root : BytePath} (hfile : isAbsolute file.chars = true)
    (hroot : isAbsolute root.chars = true) :
    let shown := file.display root
    let path := file.fromRoot root
    let rest := beyond file.chars root.chars
    let below := LiesBelow file.chars root.chars
    (path.chars = written rest ↔ below) ∧
      (below → isAbsolute path.chars = false ∧ parts path.chars = rest) ∧
      (¬below → path = file) ∧
      parts (join root.chars path.chars) = parts file.chars ∧
      (∀ other : BytePath, isAbsolute other.chars = true → other.fromRoot root = path →
        parts other.chars = parts file.chars) ∧
      shown = path.text ∧ (file.IsText → path.IsText) ∧
      (path.IsText → Utf8.encode shown = path ∧
        ∀ other : BytePath, isAbsolute other.chars = true → (other.fromRoot root).IsText →
          other.display root = shown → parts other.chars = parts file.chars) := by
  intro shown path rest below
  have hpath : path.chars = display file.chars root.chars :=
    BytePath.chars_fromRoot hfile hroot
  have hsame {other : BytePath} (hother : isAbsolute other.chars = true)
      (hpaths : other.fromRoot root = path) : parts other.chars = parts file.chars := by
    rw [← BytePath.parts_join_fromRoot hother hroot, hpaths]
    exact BytePath.parts_join_fromRoot hfile hroot
  refine ⟨?_, ?_, ?_, BytePath.parts_join_fromRoot hfile hroot, fun other => hsame, rfl,
    BytePath.isText_fromRoot hfile hroot, fun htext => ⟨htext.encode_text, ?_⟩⟩
  · rw [hpath]
    exact display_eq_written_iff hfile hroot
  · intro hbelow
    have hinner := inner_beyond hfile hroot
    rw [hpath, display_of_below hfile hroot hbelow]
    exact ⟨isAbsolute_written hinner, parts_written hinner⟩
  · intro hother
    rw [← BytePath.ofChars_chars path, hpath, display_of_not_below hfile hroot hother]
    exact BytePath.ofChars_chars file
  · intro other hother htext' hshown
    refine hsame hother ?_
    calc other.fromRoot root
      _ = Utf8.encode (other.display root) := htext'.encode_text.symm
      _ = Utf8.encode shown := by rw [hshown]
      _ = path := htext.encode_text

/-- Spellings make no difference, `/srv/www2` is not below `/srv/www`, and neither is what a step up
leads to. Below a root it does not matter that the root is no text. -/
theorem files_shown_from_root_spellings :
    let root : BytePath := Utf8.encode "/srv//./www/"
    let inside : BytePath := Utf8.encode "/srv/www/.//a/../b.php/"
    let again : BytePath := Utf8.encode "/srv/www/a/../b.php"
    let beside : BytePath := Utf8.encode "/srv/www2/b.php"
    let above : BytePath := Utf8.encode "/srv/www/../b.php"
    let strange : BytePath := [0x2F, 0xFF]
    (isAbsolute root.chars = true ∧ isAbsolute strange.chars = true ∧
      ∀ file ∈ [inside, again, beside, above, strange ++ inside], isAbsolute file.chars = true) ∧
      inside.display root = "a/../b.php" ∧ again.display root = "a/../b.php" ∧
      parts again.chars = parts inside.chars ∧
      beside.display root = "/srv/www2/b.php" ∧ above.display root = "/srv/www/../b.php" ∧
      BytePath.display (strange ++ inside) strange = "srv/www/a/../b.php" := by
  intro root inside again beside above strange
  have hroots : isAbsolute root.chars = true ∧ isAbsolute strange.chars = true := by
    decide +kernel
  have hfiles : ∀ file ∈ [inside, again, beside, above, strange ++ inside],
      isAbsolute file.chars = true := by decide +kernel
  have hbelow {file root : BytePath} {s : String} (hfile : isAbsolute file.chars = true)
      (hroot : isAbsolute root.chars = true) (h : LiesBelow file.chars root.chars)
      (hs : written (beyond file.chars root.chars) = BytePath.chars (Utf8.encode s)) :
      file.display root = s := by
    obtain ⟨hwritten, -, -, -, -, hshown, -⟩ := files_shown_from_root hfile hroot
    have hpath : file.fromRoot root = Utf8.encode s := by
      rw [← BytePath.ofChars_chars (file.fromRoot root), hwritten.mpr h, hs, BytePath.ofChars_chars]
    rw [hshown, hpath, BytePath.text_encode]
  have hnot {s : String} (hfile : isAbsolute (BytePath.chars (Utf8.encode s)) = true)
      (h : ¬LiesBelow (BytePath.chars (Utf8.encode s)) root.chars) :
      BytePath.display (Utf8.encode s) root = s := by
    obtain ⟨-, -, hunchanged, -, -, hshown, -⟩ := files_shown_from_root hfile hroots.1
    rw [hshown, hunchanged h, BytePath.text_encode]
  have hinside : inside.display root = "a/../b.php" :=
    hbelow (hfiles inside (by simp)) hroots.1 (by decide +kernel) (by decide +kernel)
  have hagain : again.display root = "a/../b.php" :=
    hbelow (hfiles again (by simp)) hroots.1 (by decide +kernel) (by decide +kernel)
  have htext (s : String) (hfile : isAbsolute (BytePath.chars (Utf8.encode s)) = true) :
      (BytePath.fromRoot (Utf8.encode s) root).IsText := by
    obtain ⟨-, -, -, -, -, -, htext, -⟩ := files_shown_from_root hfile hroots.1
    exact htext ⟨s, rfl⟩
  refine ⟨⟨hroots.1, hroots.2, hfiles⟩, hinside, hagain, ?_, ?_, ?_, ?_⟩
  · obtain ⟨-, -, -, -, -, -, -, hexact⟩ :=
      files_shown_from_root (hfiles inside (by simp)) hroots.1
    exact (hexact (htext _ (hfiles inside (by simp)))).2 again (hfiles again (by simp))
      (htext _ (hfiles again (by simp))) (hagain.trans hinside.symm)
  · exact hnot (hfiles beside (by simp)) (by decide +kernel)
  · exact hnot (hfiles above (by simp)) (by decide +kernel)
  · exact hbelow (hfiles (strange ++ inside) (by simp)) hroots.2 (by decide +kernel)
      (by decide +kernel)

/-- The names of two files in `/r` are a single byte each, and neither of the bytes spells a text.
Both files are shown by the same character, which leads from `/r` to neither of them. -/
theorem files_shown_alike :
    let root : BytePath := Utf8.encode "/r"
    let file : BytePath := Utf8.encode "/r/" ++ [0xFF]
    let other : BytePath := Utf8.encode "/r/" ++ [0xFE]
    let shown := file.display root
    (isAbsolute root.chars = true ∧ isAbsolute file.chars = true ∧ isAbsolute other.chars = true) ∧
      LiesBelow file.chars root.chars ∧
      Utf8.encode shown ≠ BytePath.ofChars (written (beyond file.chars root.chars)) ∧
      parts (join root.chars (BytePath.chars (Utf8.encode shown))) ≠ parts file.chars ∧
      other.display root = shown ∧ parts other.chars ≠ parts file.chars := by
  intro root file other shown
  have hread (b : UInt8) (hb : Utf8.tailLength b = none) : BytePath.text [b] = "\uFFFD" := by
    have hitem : Utf8.item b [] = (.bad 1, []) := by rw [Utf8.item, hb]
    rw [BytePath.text, Utf8.lossy_cons, hitem, Utf8.lossy_nil]
    rfl
  have hfile : file.fromRoot root = [0xFF] := by decide +kernel
  have hother : other.fromRoot root = [0xFE] := by decide +kernel
  have hshown : shown = "\uFFFD" := (congrArg BytePath.text hfile).trans (hread 0xFF rfl)
  have hshown' : other.display root = "\uFFFD" :=
    (congrArg BytePath.text hother).trans (hread 0xFE rfl)
  refine ⟨by decide +kernel, by decide +kernel, ?_, ?_, hshown'.trans hshown.symm,
    by decide +kernel⟩
  · rw [hshown]
    decide +kernel
  · rw [hshown]
    decide +kernel

end LintDesk
