import LintDesk.Glob.Search
import Mathlib.Data.List.Nodup

/-! # Expanded arguments

The arguments are taken one after another, and so are the files that each of them names. What has
been taken before decides whether a file is new, but not whether an argument names one. So two runs
over the same arguments, one of which starts with some files taken and the other with none, stay
alike but for these files.
-/

namespace LintDesk.Glob

/-- Whether two texts are spellings of one path: repeated slashes and the like make no
difference. -/
def SamePath (f g : String) : Prop := Path.parts f.toList = Path.parts g.toList

instance : DecidableRel SamePath := fun f g =>
  inferInstanceAs (Decidable (Path.parts f.toList = Path.parts g.toList))

namespace Expansion

variable {p : Place} {base file : List Char} {found : List (List Char)} {arg : String}
  {e d e' : Expansion}

/-- A file is taken or it is not, and this depends on whether its path has been seen. -/
theorem take_cases (e : Expansion) (file : List Char) :
    (Path.parts file ∈ e.seen ∧ e.take file = e) ∨ (Path.parts file ∉ e.seen ∧
      e.take file =
        { e with files := e.files ++ [file], seen := Path.parts file :: e.seen }) := by
  rw [take]
  by_cases hseen : Path.parts file ∈ e.seen
  · exact .inl ⟨hseen, if_pos (List.contains_iff_mem.mpr hseen)⟩
  · exact .inr ⟨hseen, if_neg (mt List.contains_iff_mem.mp hseen)⟩

theorem note_cases (arg : String) (found : List (List Char)) (e : Expansion) :
    (found = [] ∧ e.note arg found = { e with unmatched := e.unmatched ++ [arg] }) ∨
      (found ≠ [] ∧ e.note arg found = e) := by
  cases found with
  | nil => exact .inl ⟨rfl, rfl⟩
  | cons file found => exact .inr ⟨List.cons_ne_nil _ _, rfl⟩

/-! ## What has been taken -/

/-- The paths that have been seen are those of the files, and no two of these are the same. -/
structure Sound (e : Expansion) : Prop where
  mem_seen_iff : ∀ parts, parts ∈ e.seen ↔ parts ∈ e.files.map Path.parts
  nodup : (e.files.map Path.parts).Nodup

theorem sound_empty : Sound {} := ⟨fun _ => Iff.rfl, .nil⟩

theorem Sound.take_file (h : e.Sound) (file : List Char) : (e.take file).Sound := by
  rcases e.take_cases file with ⟨-, htake⟩ | ⟨hnew, htake⟩
  · rwa [htake]
  · rw [htake]
    refine ⟨fun parts => ?_, ?_⟩
    · rw [List.mem_cons, h.mem_seen_iff, List.map_append, List.mem_append, List.map_singleton,
        List.mem_singleton, or_comm]
    · rw [List.map_append, List.map_singleton]
      refine List.nodup_append.mpr ⟨h.nodup, List.nodup_singleton _, fun parts hparts _ hfile => ?_⟩
      rintro rfl
      rw [List.mem_singleton.mp hfile, ← h.mem_seen_iff] at hparts
      exact hnew hparts

theorem Sound.take_all (h : e.Sound) (found : List (List Char)) : (found.foldl take e).Sound := by
  induction found generalizing e with
  | nil => exact h
  | cons file found ih => exact ih (h.take_file file)

theorem Sound.note (h : e.Sound) : (e.note arg found).Sound := by
  rcases e.note_cases arg found with ⟨-, hnote⟩ | ⟨-, hnote⟩ <;> rw [hnote]
  · exact ⟨h.mem_seen_iff, h.nodup⟩
  · exact h

theorem Sound.takeNamed_all (h : e.Sound) (args : List String) :
    (args.foldl (takeNamed p base) e).Sound := by
  induction args generalizing e with
  | nil => exact h
  | cons arg args ih => exact ih (h.note.take_all _)

theorem mem_seen_take {parts : List PathPart} :
    parts ∈ (e.take file).seen ↔ parts ∈ e.seen ∨ parts = Path.parts file := by
  rcases e.take_cases file with ⟨hseen, htake⟩ | ⟨-, htake⟩
  · rw [htake]
    refine ⟨.inl, ?_⟩
    rintro (h | rfl)
    · exact h
    · exact hseen
  · rw [htake, List.mem_cons, or_comm]

/-- Every file that is found has been seen afterwards, and nothing else is new. -/
theorem mem_seen_foldl_take {parts : List PathPart} (found : List (List Char)) (e : Expansion) :
    parts ∈ (found.foldl take e).seen ↔ parts ∈ e.seen ∨ parts ∈ found.map Path.parts := by
  induction found generalizing e with
  | nil => simp
  | cons file found ih =>
    rw [List.foldl_cons, ih, mem_seen_take, List.map_cons, List.mem_cons, or_assoc]

theorem seen_note : (e.note arg found).seen = e.seen := by
  rcases e.note_cases arg found with ⟨-, hnote⟩ | ⟨-, hnote⟩ <;> rw [hnote]

theorem mem_seen_foldl_takeNamed {parts : List PathPart} (args : List String) (e : Expansion) :
    parts ∈ (args.foldl (takeNamed p base) e).seen ↔
      parts ∈ e.seen ∨ ∃ arg ∈ args, parts ∈ (filesOf p base arg.toList).map Path.parts := by
  induction args generalizing e with
  | nil => simp
  | cons arg args ih =>
    rw [List.foldl_cons, ih, takeNamed, mem_seen_foldl_take, seen_note, or_assoc,
      List.exists_mem_cons_iff]

theorem of_mem_files_take {f : List Char} (h : f ∈ (e.take file).files) :
    f ∈ e.files ∨ f = file := by
  rcases e.take_cases file with ⟨-, htake⟩ | ⟨-, htake⟩ <;> rw [htake] at h
  · exact .inl h
  · exact (List.mem_append.mp h).imp_right List.mem_singleton.mp

theorem of_mem_files_foldl_take {f : List Char} (h : f ∈ (found.foldl take e).files) :
    f ∈ e.files ∨ f ∈ found := by
  induction found generalizing e with
  | nil => exact .inl h
  | cons file found ih =>
    rcases ih h with h | h
    · rcases of_mem_files_take h with h | rfl
      · exact .inl h
      · exact .inr List.mem_cons_self
    · exact .inr (List.mem_cons_of_mem _ h)

theorem files_note : (e.note arg found).files = e.files := by
  rcases e.note_cases arg found with ⟨-, hnote⟩ | ⟨-, hnote⟩ <;> rw [hnote]

/-- Nothing is taken but what an argument names. -/
theorem of_mem_files_foldl_takeNamed {f : List Char} {args : List String}
    (h : f ∈ (args.foldl (takeNamed p base) e).files) :
    f ∈ e.files ∨ ∃ arg ∈ args, f ∈ filesOf p base arg.toList := by
  induction args generalizing e with
  | nil => exact .inl h
  | cons arg args ih =>
    rw [List.exists_mem_cons_iff, ← or_assoc]
    rcases ih h with h | h
    · refine .inl ((of_mem_files_foldl_take h).imp_left fun h => ?_)
      rwa [files_note] at h
    · exact .inr h

/-! ## The arguments that name no file -/

theorem unmatched_take : (e.take file).unmatched = e.unmatched := by
  rcases e.take_cases file with ⟨-, htake⟩ | ⟨-, htake⟩ <;> rw [htake]

theorem unmatched_foldl_take (found : List (List Char)) (e : Expansion) :
    (found.foldl take e).unmatched = e.unmatched := by
  induction found generalizing e with
  | nil => rfl
  | cons file found ih => rw [List.foldl_cons, ih, unmatched_take]

/-- Whether an argument is noted does not depend on the files that have been taken. -/
theorem unmatched_foldl_takeNamed (args : List String) (e : Expansion) :
    (args.foldl (takeNamed p base) e).unmatched =
      e.unmatched ++ args.filter fun arg => filesOf p base arg.toList = [] := by
  induction args generalizing e with
  | nil => exact (List.append_nil _).symm
  | cons arg args ih =>
    rw [List.foldl_cons, ih, takeNamed, unmatched_foldl_take]
    rcases e.note_cases arg (filesOf p base arg.toList) with ⟨hnone, hnote⟩ | ⟨hsome, hnote⟩
    · rw [hnote, List.filter_cons_of_pos (by simpa using hnone), List.append_assoc,
        List.singleton_append]
    · rw [hnote, List.filter_cons_of_neg (by simpa using hsome)]

/-! ## One run that starts with some files and one that starts with none -/

/-- What `e'` is if it starts as `e` and takes what `d` takes from the beginning. -/
structure Extends (e d e' : Expansion) : Prop where
  files : e'.files = e.files ++ d.files.filter (Path.parts · ∉ e.seen)
  seen : ∀ parts, parts ∈ e'.seen ↔ parts ∈ e.seen ∨ parts ∈ d.seen

theorem extends_empty (e : Expansion) : Extends e {} e where
  files := (List.append_nil _).symm
  seen _ := (or_iff_left List.not_mem_nil).symm

theorem Extends.take_file (h : Extends e d e') (file : List Char) :
    Extends e (d.take file) (e'.take file) := by
  rcases d.take_cases file with ⟨hd, htake⟩ | ⟨hd, htake⟩ <;>
    rcases e'.take_cases file with ⟨he', htake'⟩ | ⟨he', htake'⟩ <;> rw [htake, htake']
  · exact h
  · exact absurd ((h.seen _).mpr (.inr hd)) he'
  · -- The file is new to `d` only, so `e` has seen it.
    have he := ((h.seen _).mp he').resolve_right hd
    refine ⟨?_, fun parts => ?_⟩
    · rw [List.filter_append, List.filter_cons_of_neg (by simpa using he), List.filter_nil,
        List.append_nil]
      exact h.files
    · rw [h.seen, List.mem_cons]
      refine or_congr_right' fun hparts => ⟨.inr, ?_⟩
      rintro (rfl | hmem)
      · exact absurd he hparts
      · exact hmem
  · have he := mt (fun he => (h.seen _).mpr (.inl he)) he'
    refine ⟨?_, fun parts => ?_⟩
    · rw [List.filter_append, List.filter_cons_of_pos (by simpa using he), List.filter_nil,
        ← List.append_assoc, ← h.files]
    · rw [List.mem_cons, List.mem_cons, h.seen, or_left_comm]

theorem Extends.take_all (h : Extends e d e') (found : List (List Char)) :
    Extends e (found.foldl take d) (found.foldl take e') := by
  induction found generalizing d e' with
  | nil => exact h
  | cons file found ih => exact ih (h.take_file file)

theorem Extends.note (h : Extends e d e') :
    Extends e (d.note arg found) (e'.note arg found) where
  files := by rw [files_note, files_note, h.files]
  seen parts := by rw [seen_note, seen_note, h.seen]

theorem Extends.takeNamed_all (h : Extends e d e') (args : List String) :
    Extends e (args.foldl (takeNamed p base) d) (args.foldl (takeNamed p base) e') := by
  induction args generalizing d e' with
  | nil => exact h
  | cons arg args ih => exact ih (h.note.take_all _)

/-! ## Paths as texts -/

theorem samePath_ofList {f g : List Char} :
    SamePath (String.ofList f) (String.ofList g) ↔ Path.parts f = Path.parts g := by
  rw [SamePath, String.toList_ofList, String.toList_ofList]

theorem Sound.pairwise (h : e.Sound) :
    (e.files.map String.ofList).Pairwise fun f g => ¬SamePath f g := by
  refine List.pairwise_map.mpr ((List.pairwise_map.mp h.nodup).imp fun hne hsame => ?_)
  exact hne (samePath_ofList.mp hsame)

theorem Sound.notMem_seen_iff (h : e.Sound) : Path.parts file ∉ e.seen ↔
    ∀ g ∈ e.files.map String.ofList, ¬SamePath g (String.ofList file) := by
  rw [h.mem_seen_iff, ← not_iff_not]
  push Not
  simp only [List.mem_map, exists_exists_and_eq_and, samePath_ofList]

end Expansion

open Expansion

/-! ## The answer for some arguments -/

section

variable {p : Place} {base f : String} {args : List String} {arg : String}

theorem sound_expand (p : Place) (base : String) (args : List String) :
    (args.foldl (takeNamed p base.toList) {}).Sound := sound_empty.takeNamed_all args

theorem unmatched_expand (p : Place) (base : String) (args : List String) :
    (expand p base args).2 = args.filter fun arg => filesOf p base.toList arg.toList = [] := by
  change (args.foldl (takeNamed p base.toList) {}).unmatched = _
  rw [unmatched_foldl_takeNamed]
  rfl

theorem files_expand_append (p : Place) (base : String) (front back : List String) :
    (expand p base (front ++ back)).1 = (expand p base front).1 ++
      (expand p base back).1.filter fun f => ∀ g ∈ (expand p base front).1, ¬SamePath g f := by
  have hback : Extends (front.foldl (takeNamed p base.toList) {})
      (back.foldl (takeNamed p base.toList) {})
      (back.foldl (takeNamed p base.toList) (front.foldl (takeNamed p base.toList) {})) :=
    (extends_empty _).takeNamed_all back
  change ((front ++ back).foldl (takeNamed p base.toList) {}).files.map String.ofList =
    (expand p base front).1 ++
      (((back.foldl (takeNamed p base.toList) {}).files.map String.ofList).filter _)
  rw [List.foldl_append, hback.files, List.map_append, List.filter_map]
  refine congrArg (fun new : List (List Char) =>
    (expand p base front).1 ++ new.map String.ofList) ?_
  refine List.filter_congr fun f _ => ?_
  exact decide_eq_decide.mpr (sound_expand p base front).notMem_seen_iff

/-- What an argument names is returned, in this spelling of its path or in another one. -/
theorem exists_samePath (harg : arg ∈ args)
    (hf : f ∈ (filesOf p base.toList arg.toList).map String.ofList) :
    ∃ g ∈ (expand p base args).1, SamePath g f := by
  obtain ⟨f, hnamed, rfl⟩ := List.mem_map.mp hf
  have hseen : Path.parts f ∈ (args.foldl (takeNamed p base.toList) {}).seen :=
    (mem_seen_foldl_takeNamed args {}).mpr (.inr ⟨arg, harg, List.mem_map_of_mem hnamed⟩)
  obtain ⟨g, hg, hparts⟩ := List.mem_map.mp (((sound_expand p base args).mem_seen_iff _).mp hseen)
  exact ⟨String.ofList g, List.mem_map_of_mem hg, samePath_ofList.mpr hparts⟩

theorem exists_named (hf : f ∈ (expand p base args).1) :
    ∃ arg ∈ args, f ∈ (filesOf p base.toList arg.toList).map String.ofList := by
  obtain ⟨f, htaken, rfl⟩ := List.mem_map.mp hf
  rcases of_mem_files_foldl_takeNamed htaken with hnone | ⟨arg, harg, hnamed⟩
  · exact absurd hnone List.not_mem_nil
  · exact ⟨arg, harg, List.mem_map_of_mem hnamed⟩

/-! ## Single arguments -/

theorem named_of_mem_single (hf : f ∈ (expand p base [arg]).1) :
    f ∈ (filesOf p base.toList arg.toList).map String.ofList := by
  obtain ⟨_, harg, hnamed⟩ := exists_named hf
  rwa [List.mem_singleton.mp harg] at hnamed

theorem single_eq_nil_iff :
    (expand p base [arg]).1 = [] ↔ filesOf p base.toList arg.toList = [] := by
  rw [← not_iff_not]
  constructor
  · intro hsome hnone
    obtain ⟨f, hf⟩ := List.exists_mem_of_ne_nil _ hsome
    have hnamed := named_of_mem_single hf
    rw [hnone] at hnamed
    cases hnamed
  · intro hsome hnone
    obtain ⟨f, hf⟩ := List.exists_mem_of_ne_nil _ hsome
    obtain ⟨g, hg, -⟩ := exists_samePath List.mem_cons_self (List.mem_map_of_mem hf)
    rw [hnone] at hg
    cases hg

/-- What is returned for some arguments is returned for one of them on its own. -/
theorem exists_mem_single (hf : f ∈ (expand p base args).1) :
    ∃ arg ∈ args, f ∈ (expand p base [arg]).1 := by
  induction args with
  | nil => cases hf
  | cons arg args ih =>
    rw [← List.singleton_append, files_expand_append] at hf
    rcases List.mem_append.mp hf with hf | hf
    · exact ⟨arg, List.mem_cons_self, hf⟩
    · obtain ⟨arg', harg', hf'⟩ := ih (List.mem_of_mem_filter hf)
      exact ⟨arg', List.mem_cons_of_mem _ harg', hf'⟩

end

/-- The files of a list of arguments and another one behind it are those of the first list, and of
those of the second list the ones that are new. Each path is returned once, and it is returned if
and only if an argument names it. An argument is returned as well if it names no file, whatever the
arguments before it name. What an argument names is what is returned for it on its own, up to the
repetitions. -/
theorem arguments_expanded_once (p : Place) (base : String) :
    let files args := (expand p base args).1
    let unmatched args := (expand p base args).2
    let named (arg : String) := (filesOf p base.toList arg.toList).map String.ofList
    (∀ front back,
      files (front ++ back) =
        files front ++ (files back).filter (fun f => ∀ g ∈ files front, ¬SamePath g f) ∧
      unmatched (front ++ back) = unmatched front ++ unmatched back) ∧
    (∀ args, (files args).Pairwise (fun f g => ¬SamePath f g) ∧
      (∀ arg ∈ args, ∀ f ∈ named arg, ∃ g ∈ files args, SamePath g f) ∧
      (∀ f ∈ files args, ∃ arg ∈ args, f ∈ named arg) ∧
      unmatched args = args.filter fun arg => named arg = []) ∧
    (∀ arg, (∀ f ∈ files [arg], f ∈ named arg) ∧
      ∀ f ∈ named arg, ∃ g ∈ files [arg], SamePath g f) ∧
    ∀ args, (∀ arg ∈ args, ∀ f ∈ files [arg], ∃ g ∈ files args, SamePath g f) ∧
      (∀ f ∈ files args, ∃ arg ∈ args, f ∈ files [arg]) ∧
      unmatched args = args.filter fun arg => files [arg] = [] := by
  intro files unmatched named
  refine ⟨fun front back => ⟨files_expand_append p base front back, ?_⟩,
    fun args => ⟨(sound_expand p base args).pairwise, fun arg harg f hf => exists_samePath harg hf,
      fun f hf => exists_named hf, ?_⟩,
    fun arg => ⟨fun f hf => named_of_mem_single hf,
      fun f hf => exists_samePath List.mem_cons_self hf⟩,
    fun args => ⟨fun arg harg f hf => exists_samePath harg (named_of_mem_single hf),
      fun f hf => exists_mem_single hf, ?_⟩⟩
  · simp only [unmatched, unmatched_expand, List.filter_append]
  · simp only [unmatched, unmatched_expand, named, List.map_eq_nil_iff]
  · simp only [unmatched, unmatched_expand, files, single_eq_nil_iff]

end LintDesk.Glob
