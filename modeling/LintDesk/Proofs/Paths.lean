import LintDesk.FileTree
import Mathlib.Data.List.Infix

/-! # Paths and their pieces

A path is cut at its slashes, and all that is asked about it depends on the pieces: its parts, what
is above it and where a lookup leads.
-/

namespace LintDesk

namespace Text

variable {p : Char → Bool} {c : Char} {s : List Char}

/-! ## Splitting -/

theorem splitWhere_ne_nil (p : Char → Bool) (s : List Char) : splitWhere p s ≠ [] := by
  cases s with
  | nil => exact List.cons_ne_nil _ _
  | cons c s =>
    rw [splitWhere]
    split
    · exact List.cons_ne_nil _ _
    · split <;> exact List.cons_ne_nil _ _

theorem splitWhere_cons_of_pos (hc : p c = true) (s : List Char) :
    splitWhere p (c :: s) = [] :: splitWhere p s := by
  rw [splitWhere, if_pos hc]

/-- A character at which a text is not split belongs to the first piece. -/
theorem splitWhere_cons_of_neg (hc : p c = false) {piece : List Char} {pieces : List (List Char)}
    (h : splitWhere p s = piece :: pieces) : splitWhere p (c :: s) = (c :: piece) :: pieces := by
  rw [splitWhere, if_neg (by simp [hc]), h]

/-- A front at which a text is not split belongs to the first piece. -/
theorem splitWhere_append_of_free {front piece : List Char} {pieces : List (List Char)}
    (hfront : ∀ c ∈ front, p c = false) (h : splitWhere p s = piece :: pieces) :
    splitWhere p (front ++ s) = (front ++ piece) :: pieces := by
  induction front with
  | nil => exact h
  | cons c front ih =>
    obtain ⟨hc, hfront⟩ := List.forall_mem_cons.mp hfront
    exact splitWhere_cons_of_neg hc (ih hfront)

theorem splitWhere_of_free (h : ∀ c ∈ s, p c = false) : splitWhere p s = [s] := by
  have hsplit := splitWhere_append_of_free h (s := []) rfl
  rwa [List.append_nil] at hsplit

theorem splitWhere_append (hc : p c = true) (s t : List Char) :
    splitWhere p (s ++ c :: t) = splitWhere p s ++ splitWhere p t := by
  induction s with
  | nil => exact splitWhere_cons_of_pos hc t
  | cons d s ih =>
    cases hd : p d with
    | true => rw [List.cons_append, splitWhere_cons_of_pos hd, ih, splitWhere_cons_of_pos hd,
        List.cons_append]
    | false =>
      obtain ⟨piece, pieces, hs⟩ := List.exists_cons_of_ne_nil (splitWhere_ne_nil p s)
      rw [splitWhere_cons_of_neg hd hs, List.cons_append, List.cons_append]
      exact splitWhere_cons_of_neg hd (by rw [ih, hs, List.cons_append])

theorem free_of_mem_splitWhere {piece : List Char} (h : piece ∈ splitWhere p s) :
    ∀ c ∈ piece, p c = false := by
  induction s generalizing piece with
  | nil =>
    rw [List.mem_singleton.mp h]
    exact nofun
  | cons d s ih =>
    obtain ⟨first, pieces, hs⟩ := List.exists_cons_of_ne_nil (splitWhere_ne_nil p s)
    cases hd : p d with
    | true =>
      rw [splitWhere_cons_of_pos hd] at h
      rcases List.mem_cons.mp h with rfl | h
      · exact nofun
      · exact ih h
    | false =>
      rw [splitWhere_cons_of_neg hd hs] at h
      rcases List.mem_cons.mp h with rfl | h
      · exact List.forall_mem_cons.mpr ⟨hd, ih (hs ▸ List.mem_cons_self)⟩
      · exact ih (hs ▸ List.mem_cons_of_mem _ h)

/-- A character at which a text is not split is in one of the pieces. -/
theorem exists_mem_splitWhere (hmem : c ∈ s) (hc : p c = false) :
    ∃ piece ∈ splitWhere p s, c ∈ piece := by
  induction s with
  | nil => cases hmem
  | cons d s ih =>
    obtain ⟨first, pieces, hs⟩ := List.exists_cons_of_ne_nil (splitWhere_ne_nil p s)
    cases hd : p d with
    | true =>
      rw [splitWhere_cons_of_pos hd]
      have hne : c ≠ d := by
        rintro rfl
        rw [hc] at hd
        cases hd
      obtain ⟨piece, hpiece, hin⟩ := ih ((List.mem_cons.mp hmem).resolve_left hne)
      exact ⟨piece, List.mem_cons_of_mem _ hpiece, hin⟩
    | false =>
      rw [splitWhere_cons_of_neg hd hs]
      rw [hs] at ih
      rcases List.mem_cons.mp hmem with rfl | hmem
      · exact ⟨_, List.mem_cons_self, List.mem_cons_self⟩
      · obtain ⟨piece, hpiece, hin⟩ := ih hmem
        rcases List.mem_cons.mp hpiece with rfl | hpiece
        · exact ⟨_, List.mem_cons_self, List.mem_cons_of_mem _ hin⟩
        · exact ⟨piece, List.mem_cons_of_mem _ hpiece, hin⟩

theorem length_splitWhere_le (p : Char → Bool) (s : List Char) :
    (splitWhere p s).length ≤ s.length + 1 := by
  induction s with
  | nil => exact Nat.le_refl 1
  | cons c s ih =>
    obtain ⟨piece, pieces, hs⟩ := List.exists_cons_of_ne_nil (splitWhere_ne_nil p s)
    cases hc : p c with
    | true =>
      rw [splitWhere_cons_of_pos hc]
      exact Nat.succ_le_succ ih
    | false =>
      rw [splitWhere_cons_of_neg hc hs]
      rw [hs] at ih
      exact Nat.le_succ_of_le ih

end Text

open LintDesk.Text

namespace Path

variable {p q r : List Char}

/-! ## Pieces -/

/-- The pieces of a path between its slashes. -/
abbrev split (p : List Char) : List (List Char) := splitWhere (· == '/') p

/-- The pieces of a path that have any characters. -/
def steps (p : List Char) : List FileName := (split p).filter (· ≠ [])

theorem split_ne_nil (p : List Char) : split p ≠ [] := splitWhere_ne_nil _ p

theorem split_append (p q : List Char) : split (p ++ '/' :: q) = split p ++ split q :=
  splitWhere_append (p := (· == '/')) (beq_self_eq_true '/') p q

theorem split_of_notMem (h : '/' ∉ p) : split p = [p] :=
  splitWhere_of_free fun _ hc => beq_false_of_ne (ne_of_mem_of_not_mem hc h)

theorem slash_notMem_of_mem_split (h : p ∈ split q) : '/' ∉ p := fun hp =>
  absurd (beq_self_eq_true '/') (by simpa using free_of_mem_splitWhere h _ hp)

theorem steps_append (p q : List Char) : steps (p ++ '/' :: q) = steps p ++ steps q := by
  rw [steps, split_append, List.filter_append]
  rfl

theorem steps_append_slash (p : List Char) : steps (p ++ ['/']) = steps p := by
  rw [steps_append]
  exact List.append_nil _

theorem steps_of_notMem (h : '/' ∉ p) (hne : p ≠ []) : steps p = [p] := by
  rw [steps, split_of_notMem h]
  exact List.filter_cons_of_pos (decide_eq_true hne)

theorem pieces_eq (p : List Char) : FileTree.pieces p =
    (split p).dropLast.filter (· ≠ []) ++
      ((split p).getLast?.map fun n => if n = [] then ['.'] else n).toList := rfl

/-- The pieces that a lookup passes through are those that have any characters, with a dot behind
them if the last one has none. -/
theorem pieces_cases (p : List Char) :
    FileTree.pieces p = steps p ∨ FileTree.pieces p = steps p ++ [['.']] := by
  have hne := split_ne_nil p
  have hsteps : steps p = (split p).dropLast.filter (· ≠ []) ++
      [(split p).getLast hne].filter (· ≠ []) := by
    rw [← List.filter_append, List.dropLast_append_getLast hne, steps]
  rw [pieces_eq, List.getLast?_eq_some_getLast hne, hsteps]
  by_cases hlast : (split p).getLast hne = []
  · exact .inr (by simp [hlast])
  · exact .inl (by simp [hlast])

/-- A lookup passes through the pieces that have any characters, and through the last one. -/
theorem pieces_append (p q : List Char) :
    FileTree.pieces (p ++ '/' :: q) = steps p ++ FileTree.pieces q := by
  have hq := split_ne_nil q
  rw [pieces_eq, split_append, List.dropLast_append_of_ne_nil hq, List.filter_append,
    List.getLast?_append_of_ne_nil _ hq, List.append_assoc]
  rfl

theorem pieces_of_notMem (h : '/' ∉ p) (hne : p ≠ []) : FileTree.pieces p = [p] := by
  rw [pieces_eq, split_of_notMem h]
  simp [hne]

/-! ## Joined paths -/

theorem isAbsolute_of_notMem (h : '/' ∉ p) : isAbsolute p = false := by
  cases p with
  | nil => rfl
  | cons c p =>
    have hc : c ≠ '/' := fun hc => h (hc ▸ List.mem_cons_self)
    simpa [isAbsolute] using hc

theorem exists_of_isAbsolute (h : isAbsolute p = true) : ∃ rest, p = '/' :: rest := by
  cases p with
  | nil => cases h
  | cons c p => exact ⟨p, by simpa [isAbsolute] using h⟩

theorem ne_nil_of_isAbsolute (h : isAbsolute p = true) : p ≠ [] := by
  rintro rfl
  cases h

/-- What stands before a path that is put behind `p`. -/
def lead (p : List Char) : List Char := if p = [] ∨ p.getLast? = some '/' then p else p ++ ['/']

theorem join_eq (h : isAbsolute q = false) (p : List Char) : join p q = lead p ++ q := by
  rw [join, if_neg (by simp [h]), lead]
  by_cases hp : p = [] ∨ p.getLast? = some '/'
  · rw [if_pos hp, if_pos (by simpa using hp)]
  · rw [if_neg hp, if_neg (by simpa using hp), List.append_assoc, List.singleton_append]

theorem join_nil (q : List Char) : join [] q = q := by
  rw [join]
  split <;> rfl

/-- It is empty or ends with a slash, which adds no piece. -/
theorem lead_cases (p : List Char) : (p = [] ∧ lead p = []) ∨
    p ≠ [] ∧ ∃ front, lead p = front ++ ['/'] ∧ steps front = steps p ∧
      (p = front ∨ p = front ++ ['/']) := by
  rw [lead]
  by_cases hp : p = []
  · exact .inl ⟨hp, by simp [hp]⟩
  · refine .inr ⟨hp, ?_⟩
    by_cases hlast : p.getLast? = some '/'
    · obtain ⟨front, rfl⟩ := List.getLast?_eq_some_iff.mp hlast
      exact ⟨front, if_pos (.inr hlast), (steps_append_slash front).symm, .inr rfl⟩
    · exact ⟨p, if_neg (not_or.mpr ⟨hp, hlast⟩), rfl, .inl rfl⟩

theorem lead_append (hq : q ≠ []) (p : List Char) : lead (p ++ q) = p ++ lead q := by
  rw [lead, lead, List.getLast?_append_of_ne_nil _ hq]
  by_cases hlast : q.getLast? = some '/'
  · rw [if_pos (.inr hlast), if_pos (.inr hlast)]
  · rw [if_neg (by simp [hq, hlast]), if_neg (by simp [hq, hlast]), List.append_assoc]

theorem lead_lead (p : List Char) : lead (lead p) = lead p := by
  rcases lead_cases p with ⟨-, h⟩ | ⟨-, front, h, -⟩ <;> rw [h]
  · rfl
  · exact lead_append (List.cons_ne_nil _ _) front

theorem isAbsolute_join (h : isAbsolute q = false) (p : List Char) :
    isAbsolute (join p q) = isAbsolute p := by
  rw [join_eq h]
  rcases lead_cases p with ⟨rfl, hlead⟩ | ⟨hne, front, hlead, -, rfl | rfl⟩ <;> rw [hlead]
  · exact h
  · obtain ⟨c, p, rfl⟩ := List.exists_cons_of_ne_nil hne
    rfl
  · cases front <;> rfl

/-- Joining is associative for paths that are not absolute. -/
theorem join_join (hq : isAbsolute q = false) (hr : isAbsolute r = false) (p : List Char) :
    join (join p q) r = join p (join q r) := by
  have hqr : isAbsolute (join q r) = false := (isAbsolute_join hr q).trans hq
  rw [join_eq hqr, join_eq hr, join_eq hr, join_eq hq]
  by_cases hne : q = []
  · rw [hne, List.append_nil, lead_lead]
    rfl
  · rw [lead_append hne, List.append_assoc]

theorem steps_join (h : isAbsolute q = false) (p : List Char) :
    steps (join p q) = steps p ++ steps q := by
  rw [join_eq h]
  rcases lead_cases p with ⟨rfl, hlead⟩ | ⟨-, front, hlead, hsteps, -⟩ <;> rw [hlead]
  · rfl
  · rw [← hsteps, List.append_assoc, List.singleton_append, steps_append]

theorem pieces_join (h : isAbsolute q = false) (p : List Char) :
    FileTree.pieces (join p q) = steps p ++ FileTree.pieces q := by
  rw [join_eq h]
  rcases lead_cases p with ⟨rfl, hlead⟩ | ⟨-, front, hlead, hsteps, -⟩ <;> rw [hlead]
  · rfl
  · rw [← hsteps, List.append_assoc, List.singleton_append, pieces_append]

/-! ## Parts -/

end Path

/-- The name that a part of a path is, if it is one. -/
def PathPart.name? : PathPart → Option FileName
  | .name n => some n
  | _ => none

/-- What a directory can have as a name of an entry. -/
structure FileName.Legal (n : FileName) : Prop where
  ne_nil : n ≠ []
  ne_dot : n ≠ ['.']
  ne_up : n ≠ ['.', '.']
  slash_notMem : '/' ∉ n

instance (n : FileName) : Decidable n.Legal :=
  decidable_of_iff (n ≠ [] ∧ n ≠ ['.'] ∧ n ≠ ['.', '.'] ∧ '/' ∉ n)
    ⟨fun ⟨h₁, h₂, h₃, h₄⟩ => ⟨h₁, h₂, h₃, h₄⟩, fun ⟨h₁, h₂, h₃, h₄⟩ => ⟨h₁, h₂, h₃, h₄⟩⟩

namespace Path

variable {n : FileName} {ns : List FileName} {part : PathPart} {first : Bool}
  {ps : List (List Char)} {start stop : Nat}

/-- The names in a path. -/
def names (p : List Char) : List FileName := (parts p).filterMap PathPart.name?

/-- The parts that a path adds to another which it is put behind. -/
def added (p : List Char) : List PathPart := (split p).filterMap (part? false)

/-- Whether a piece of a path is a name. -/
def isName (n : List Char) : Bool := n ≠ [] ∧ n ≠ ['.'] ∧ n ≠ ['.', '.']

theorem isName_of_legal {n : FileName} (h : n.Legal) : isName n := by
  simp [isName, h.ne_nil, h.ne_dot, h.ne_up]

theorem part?_bind_name? (first : Bool) (n : List Char) :
    (part? first n).bind PathPart.name? = if isName n then some n else none := by
  rw [part?, isName]
  split_ifs <;> simp_all [PathPart.name?]

theorem part?_eq_up_iff {n : List Char} : part? first n = some .up ↔ n = ['.', '.'] := by
  rw [part?]
  split_ifs <;> simp_all

theorem partsFrom_cons (start : Nat) (first : Bool) (n : List Char) (ps : List (List Char)) :
    partsFrom start first (n :: ps) = ((part? first n).map (·, start + n.length)).toList ++
      partsFrom (start + n.length + 1) false ps := rfl

theorem map_fst_partsFrom (start : Nat) (ps : List (List Char)) :
    (partsFrom start false ps).map (·.1) = ps.filterMap (part? false) := by
  induction ps generalizing start with
  | nil => rfl
  | cons n ps ih =>
    rw [partsFrom_cons, List.map_append, ih, List.filterMap_cons]
    cases part? false n <;> rfl

theorem length_partsFrom_le (start : Nat) (first : Bool) (ps : List (List Char)) :
    (partsFrom start first ps).length ≤ ps.length := by
  induction ps generalizing start first with
  | nil => exact Nat.le_refl 0
  | cons n ps ih =>
    have hpiece : ((part? first n).map (·, start + n.length)).toList.length ≤ 1 := by
      cases part? first n <;> simp
    rw [partsFrom_cons, List.length_append, List.length_cons, Nat.add_comm]
    exact Nat.add_le_add (ih _ _) hpiece

theorem added_append (p q : List Char) : added (p ++ '/' :: q) = added p ++ added q := by
  rw [added, split_append, List.filterMap_append]
  rfl

theorem added_join (h : isAbsolute q = false) (p : List Char) :
    added (join p q) = added p ++ added q := by
  rw [join_eq h]
  rcases lead_cases p with ⟨rfl, hlead⟩ | ⟨-, front, hlead, -, rfl | rfl⟩ <;> rw [hlead]
  · rfl
  · rw [List.append_assoc, List.singleton_append, added_append]
  · rw [List.append_assoc, List.singleton_append, added_append, added_append]
    exact congrArg (· ++ added q) (List.append_nil _).symm

theorem parts_of_isAbsolute (h : isAbsolute p = true) : parts p = .root :: added p := by
  obtain ⟨p, rfl⟩ := exists_of_isAbsolute h
  have hmarked : marked ('/' :: p) = (.root, 1) :: partsFrom 1 false (split p) := rfl
  rw [parts, hmarked, List.map_cons, map_fst_partsFrom, ← List.nil_append ('/' :: p), added_append]
  rfl

theorem marked_of_not_isAbsolute (h : isAbsolute p = false) :
    marked p = partsFrom 0 true (split p) := by
  cases p with
  | nil => rfl
  | cons c p =>
    have hc : c ≠ '/' := by simpa [isAbsolute] using h
    rw [marked]
    rintro rest ⟨⟩
    exact hc rfl

theorem length_parts_le (p : List Char) : (parts p).length ≤ p.length + 1 := by
  rw [parts, List.length_map]
  cases h : isAbsolute p with
  | true =>
    obtain ⟨rest, rfl⟩ := exists_of_isAbsolute h
    exact Nat.succ_le_succ ((length_partsFrom_le 1 false _).trans (length_splitWhere_le _ rest))
  | false =>
    rw [marked_of_not_isAbsolute h]
    exact (length_partsFrom_le 0 true _).trans (length_splitWhere_le _ p)

/-- The first piece of a path that is not absolute can be a dot. -/
theorem parts_of_not_isAbsolute (h : isAbsolute p = false) :
    ∃ n ns, split p = n :: ns ∧ parts p = (part? true n).toList ++ ns.filterMap (part? false) := by
  obtain ⟨n, ns, hsplit⟩ := List.exists_cons_of_ne_nil (split_ne_nil p)
  refine ⟨n, ns, hsplit, ?_⟩
  rw [parts, marked_of_not_isAbsolute h, hsplit, partsFrom_cons, List.map_append, map_fst_partsFrom]
  cases part? true n <;> rfl

theorem parts_join (h : isAbsolute q = false) (hp : isAbsolute p = true) :
    parts (join p q) = parts p ++ added q := by
  rw [parts_of_isAbsolute hp, parts_of_isAbsolute ((isAbsolute_join h p).trans hp), added_join h,
    List.cons_append]

theorem filterMap_name?_filterMap (first : Bool) (n : List Char) (ns : List (List Char)) :
    ((part? first n).toList ++ ns.filterMap (part? false)).filterMap PathPart.name? =
      (n :: ns).filter isName := by
  have hpiece (first : Bool) (n : List Char) :
      (part? first n).toList.filterMap PathPart.name? = [n].filter isName := by
    have hname := part?_bind_name? first n
    cases hpart : part? first n <;> rw [hpart] at hname <;> cases hn : isName n <;>
      simp_all
  rw [List.filterMap_append, hpiece, ← List.singleton_append (x := n) (l := ns), List.filter_append]
  congr 1
  induction ns with
  | nil => rfl
  | cons n ns ih =>
    have hcons : (n :: ns).filterMap (part? false) =
        (part? false n).toList ++ ns.filterMap (part? false) := by
      rw [List.filterMap_cons]
      cases part? false n <;> rfl
    rw [hcons, List.filterMap_append, hpiece, ih, ← List.filter_append]
    rfl

theorem names_eq (p : List Char) : names p = (split p).filter isName := by
  rw [names]
  cases h : isAbsolute p with
  | true =>
    rw [parts_of_isAbsolute h, added]
    exact filterMap_name?_filterMap false [] (split p)
  | false =>
    obtain ⟨n, ns, hsplit, hparts⟩ := parts_of_not_isAbsolute h
    rw [hsplit, hparts, filterMap_name?_filterMap]

theorem up_mem_parts_iff (p : List Char) : .up ∈ parts p ↔ ['.', '.'] ∈ split p := by
  have hpieces (ns : List (List Char)) :
      .up ∈ ns.filterMap (part? false) ↔ ['.', '.'] ∈ ns := by
    simp only [List.mem_filterMap, part?_eq_up_iff, exists_eq_right]
  cases h : isAbsolute p with
  | true =>
    rw [parts_of_isAbsolute h, added, List.mem_cons, hpieces]
    exact or_iff_right nofun
  | false =>
    obtain ⟨n, ns, hsplit, hparts⟩ := parts_of_not_isAbsolute h
    rw [hsplit, hparts, List.mem_append, hpieces, Option.mem_toList, part?_eq_up_iff, List.mem_cons,
      eq_comm]

/-! ## The path above another -/

theorem join_split (p : List Char) : Text.join ['/'] (split p) = p := by
  induction p with
  | nil => rfl
  | cons c p ih =>
    obtain ⟨n, ns, hsplit⟩ := List.exists_cons_of_ne_nil (split_ne_nil p)
    by_cases hc : c = '/'
    · have hcons : split (c :: p) = [] :: n :: ns := by
        rw [← hsplit, hc]
        exact split_append [] p
      rw [hcons, join_cons_cons, ← hsplit, ih, hc]
      rfl
    · have hcons : split (c :: p) = (c :: n) :: ns :=
        splitWhere_cons_of_neg (p := (· == '/')) (beq_false_of_ne hc) hsplit
      rw [hcons, join_cons, List.cons_append, ← join_cons, ← hsplit, ih]

theorem split_join {pieces : List (List Char)} (hne : pieces ≠ [])
    (hfree : ∀ piece ∈ pieces, '/' ∉ piece) : split (Text.join ['/'] pieces) = pieces := by
  induction pieces with
  | nil => exact absurd rfl hne
  | cons n ns ih =>
    obtain ⟨hn, hns⟩ := List.forall_mem_cons.mp hfree
    cases ns with
    | nil => exact split_of_notMem hn
    | cons m ms =>
      rw [join_cons_cons, List.singleton_append, split_append, split_of_notMem hn,
        ih (List.cons_ne_nil _ _) hns, List.singleton_append]

/-- The beginning of a path that ends with one of its parts has this part as its last one, and the
parts before it. -/
theorem partsFrom_take {l l' : List (PathPart × Nat)} {x : PathPart × Nat}
    (hfree : ∀ n ∈ ps, '/' ∉ n) (h : partsFrom start first ps = l ++ x :: l') :
    ∃ k, x.2 = start + k ∧
      partsFrom start first (split ((Text.join ['/'] ps).take k)) = l ++ [x] := by
  induction ps generalizing start first l with
  | nil => exact absurd h.symm (by simp [partsFrom])
  | cons n ps ih =>
    obtain ⟨hn, hps⟩ := List.forall_mem_cons.mp hfree
    rw [partsFrom_cons] at h
    obtain ⟨hpart, hl⟩ | ⟨l₁, rfl, htail⟩ :
        ((part? first n).map (·, start + n.length) = some x ∧ l = []) ∨
          ∃ l₁, l = ((part? first n).map (·, start + n.length)).toList ++ l₁ ∧
            partsFrom (start + n.length + 1) false ps = l₁ ++ x :: l' := by
      cases hopt : (part? first n).map (·, start + n.length) with
      | none =>
        rw [hopt] at h
        exact .inr ⟨l, rfl, h⟩
      | some y =>
        rw [hopt] at h
        cases l with
        | nil => exact .inl ⟨congrArg some (List.cons.inj h).1, rfl⟩
        | cons z l =>
          obtain ⟨rfl, htail⟩ := List.cons.inj h
          exact .inr ⟨l, rfl, htail⟩
    · -- The part is the first piece.
      have hx : x.2 = start + n.length := by
        obtain ⟨part, -, rfl⟩ := Option.map_eq_some_iff.mp hpart
        rfl
      refine ⟨n.length, hx, ?_⟩
      rw [join_cons, List.take_left, split_of_notMem hn, partsFrom_cons, hpart, hl]
      rfl
    · -- The part is in one of the pieces behind the first.
      obtain ⟨k, hk, htake⟩ := ih hps htail
      refine ⟨n.length + (k + 1), by omega, ?_⟩
      obtain ⟨m, ms, rfl⟩ : ∃ m ms, ps = m :: ms := by
        cases ps with
        | nil => exact absurd htail.symm (by simp [partsFrom])
        | cons m ms => exact ⟨m, ms, rfl⟩
      rw [join_cons_cons, List.take_length_add_append, List.singleton_append, List.take_succ_cons,
        split_append, split_of_notMem hn, List.singleton_append, partsFrom_cons, htake,
        List.append_assoc]

theorem isAbsolute_take (h : isAbsolute p = false) (n : Nat) : isAbsolute (p.take n) = false := by
  cases p with
  | nil => rw [List.take_nil]; rfl
  | cons c p =>
    cases n with
    | zero => rfl
    | succ n => exact h

theorem marked_take {l l' : List (PathPart × Nat)} {x : PathPart × Nat}
    (h : marked p = l ++ x :: l') : marked (p.take x.2) = l ++ [x] := by
  cases habs : isAbsolute p with
  | true =>
    obtain ⟨rest, rfl⟩ := exists_of_isAbsolute habs
    have hmarked (rest : List Char) :
        marked ('/' :: rest) = (.root, 1) :: partsFrom 1 false (split rest) := rfl
    rw [hmarked] at h
    cases l with
    | nil =>
      obtain ⟨rfl, -⟩ := List.cons.inj h
      rfl
    | cons y l =>
      obtain ⟨rfl, htail⟩ := List.cons.inj h
      obtain ⟨k, hk, htake⟩ := partsFrom_take (fun n => slash_notMem_of_mem_split) htail
      rw [join_split] at htake
      rw [hk, Nat.add_comm, List.take_succ_cons, hmarked, htake, List.cons_append]
  | false =>
    rw [marked_of_not_isAbsolute habs] at h
    obtain ⟨k, hk, htake⟩ := partsFrom_take (fun n => slash_notMem_of_mem_split) h
    rw [join_split] at htake
    rw [marked_of_not_isAbsolute (isAbsolute_take habs _), hk, Nat.zero_add, htake]

/-- The path above another has the parts of that one but the last. -/
theorem parts_of_parent? (h : parent? p = some q) : parts q = (parts p).dropLast := by
  rw [parent?] at h
  split at h
  · cases h
  · rename_i part stop hrev
    have hmarked : marked p = [(part, stop)] := List.reverse_eq_iff.mp hrev
    split at h
    · cases h
    · obtain rfl := Option.some.inj h
      rw [parts, parts, hmarked]
      rfl
  · rename_i y part stop ms hrev
    obtain rfl := Option.some.inj h
    have hmarked : marked p = ms.reverse ++ (part, stop) :: [y] := by
      rw [List.reverse_eq_iff.mp hrev]
      simp
    rw [parts, parts, marked_take hmarked, hmarked]
    simp

theorem parent?_eq_none_iff : parent? p = none ↔ parts p = [] ∨ parts p = [.root] := by
  rw [parent?, parts]
  split
  · rename_i hrev
    simp [List.reverse_eq_iff.mp hrev]
  · rename_i part stop hrev
    simp [List.reverse_eq_iff.mp hrev]
  · rename_i hrev
    have hlength : 1 < ((marked p).map (·.1)).length := by
      rw [List.length_map, ← List.length_reverse, hrev]
      exact Nat.succ_lt_succ (Nat.succ_pos _)
    refine iff_of_false nofun ?_
    rintro (hparts | hparts) <;> rw [hparts] at hlength
    · exact absurd hlength (by decide)
    · exact absurd hlength (by decide)

theorem isAbsolute_iff_head?_parts : isAbsolute p = true ↔ (parts p).head? = some .root := by
  cases h : isAbsolute p with
  | true => exact iff_of_true rfl (by rw [parts_of_isAbsolute h]; rfl)
  | false =>
    obtain ⟨n, ns, -, hparts⟩ := parts_of_not_isAbsolute h
    refine iff_of_false Bool.false_ne_true fun hroot => ?_
    have hmem := hparts ▸ List.mem_of_head? hroot
    rcases List.mem_append.mp hmem with hmem | hmem
    · rw [Option.mem_toList, part?] at hmem
      split_ifs at hmem <;> simp at hmem
    · obtain ⟨m, -, hm⟩ := List.mem_filterMap.mp hmem
      rw [part?] at hm
      split_ifs at hm <;> simp at hm

/-! ## Paths made of names -/

theorem isAbsolute_ofNames (ns : List FileName) : isAbsolute (ofNames ns) = true := by
  cases ns <;> rfl

/-- What is put behind a path made of names follows a slash. -/
theorem join_ofNames (hns : ∀ n ∈ ns, n.Legal) (hq : isAbsolute q = false) :
    join (ofNames ns) q = ns.flatMap ('/' :: ·) ++ '/' :: q := by
  rw [join_eq hq, ofNames]
  by_cases hnil : ns = []
  · rw [hnil]
    rfl
  · obtain ⟨front, n, rfl⟩ := List.eq_nil_or_concat' ns |>.resolve_left hnil
    have hn := hns n (List.mem_append_right _ List.mem_cons_self)
    have hlast : (('/' :: n : List Char)).getLast? ≠ some '/' := by
      rw [List.getLast?_cons_of_ne_nil hn.ne_nil]
      exact fun h => hn.slash_notMem (List.mem_of_getLast? h)
    have hlead : lead ('/' :: n) = '/' :: n ++ ['/'] :=
      if_neg (not_or.mpr ⟨List.cons_ne_nil _ _, hlast⟩)
    rw [if_neg hnil, List.flatMap_append, List.flatMap_singleton,
      lead_append (List.cons_ne_nil _ _), hlead]
    simp

theorem join_ofNames_name (hns : ∀ n ∈ ns, n.Legal) (hn : n.Legal) :
    join (ofNames ns) n = ofNames (ns ++ [n]) := by
  rw [join_ofNames hns (isAbsolute_of_notMem hn.slash_notMem), ofNames,
    if_neg (List.append_ne_nil_of_right_ne_nil _ (List.cons_ne_nil _ _)), List.flatMap_append,
    List.flatMap_singleton]

/-- Such a path begins with a slash, and then come the names as the first pieces. -/
theorem exists_join_ofNames (hns : ∀ n ∈ ns, n.Legal) (hq : isAbsolute q = false) :
    ∃ r, join (ofNames ns) q = '/' :: r ∧ split r = ns ++ split q := by
  rw [join_ofNames hns hq]
  clear hq
  induction ns with
  | nil => exact ⟨q, rfl, rfl⟩
  | cons n ns ih =>
    obtain ⟨hn, hns⟩ := List.forall_mem_cons.mp hns
    obtain ⟨r, hr, hsplit⟩ := ih hns
    refine ⟨n ++ '/' :: r, ?_, ?_⟩
    · rw [List.flatMap_cons, List.append_assoc, hr, List.cons_append]
    · rw [split_append, split_of_notMem hn.slash_notMem, hsplit]
      rfl

theorem steps_ofNames (hns : ∀ n ∈ ns, n.Legal) : steps (ofNames ns) = ns := by
  obtain ⟨r, hr, hsplit⟩ := exists_join_ofNames hns (q := []) rfl
  have hjoin : steps (join (ofNames ns) []) = ns := by
    have hfilter : ns.filter (· ≠ []) = ns :=
      List.filter_eq_self.mpr fun n hn => decide_eq_true (hns n hn).ne_nil
    rw [hr, ← List.nil_append ('/' :: r), steps_append, steps, steps, hsplit, List.filter_append,
      hfilter]
    exact List.append_nil ns
  rw [steps_join rfl] at hjoin
  exact (List.append_nil _).symm.trans hjoin

theorem pieces_ofNames (hns : ∀ n ∈ ns, n.Legal) (hne : ns ≠ []) :
    FileTree.pieces (ofNames ns) = ns := by
  obtain ⟨front, n, rfl⟩ := (List.eq_nil_or_concat' ns).resolve_left hne
  have hfront : ∀ n ∈ front, n.Legal := fun m hm => hns m (List.mem_append_left _ hm)
  have hn := hns n (List.mem_append_right _ List.mem_cons_self)
  rw [← join_ofNames_name hfront hn, pieces_join (isAbsolute_of_notMem hn.slash_notMem),
    steps_ofNames hfront, pieces_of_notMem hn.slash_notMem hn.ne_nil]

/-! ## The order of paths -/

theorem compare_self (part : PathPart) : part.compare part = .eq := by
  cases part <;> simp [PathPart.compare, compareOfLessAndEq]

theorem comparePartLists_append (l as bs : List PathPart) :
    comparePartLists (l ++ as) (l ++ bs) = comparePartLists as bs := by
  induction l with
  | nil => rfl
  | cons part l ih =>
    rw [List.cons_append, List.cons_append, comparePartLists, compare_self, ih]
    rfl

end Path
end LintDesk
