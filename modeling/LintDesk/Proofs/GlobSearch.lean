import LintDesk.Proofs.Lookups
import LintDesk.Proofs.Patterns

/-! # Searching

A search goes down a directory with each name that it takes, and up only where a piece of the
pattern says so. Since a path to a directory has a limited number of names, the depth that a search
may have is enough for it.
-/

namespace LintDesk.Glob

variable {p : Place} {n : Nat} {piece : List Token} {rest : List (List Token)}
  {path name : List Char}

/-! ## One step -/

/-- What is found where a piece has led to. -/
def onwards (p : Place) (n : Nat) (rest : List (List Token)) (next : List Char) :
    List (List Char) :=
  if rest.isEmpty then [next] else descend p n rest next

/-- The dots that a piece matches. -/
def dots (piece : List Token) : List (List Char) :=
  if piece.head? = some (.char '.') then [['.'], ['.', '.']].filter (matchesName piece) else []

theorem below_of_isAbsolute (h : Path.isAbsolute path = true) (name : List Char) :
    below path name = Path.join path name := by
  rw [below, Path.parts_of_isAbsolute h]
  exact if_neg nofun

theorem descend_of_literal (h : Path.isAbsolute path = true) (hname : literal? piece = some name) :
    descend p (n + 1) (piece :: rest) path =
      if if name = ['.'] || name = ['.', '.'] then p.isDir path
        else p.hasEntry (Path.join path name)
      then onwards p n rest (Path.join path name) else [] := by
  rw [descend, hname]
  simp only [below_of_isAbsolute h]
  rfl

theorem descend_of_wild (h : Path.isAbsolute path = true) (hname : literal? piece = none) :
    descend p (n + 1) (piece :: rest) path =
      if p.isDir path then
        (dots piece).flatMap (fun name => onwards p n rest (Path.join path name)) ++
          (p.namesIn path).flatMap fun name => meet p n piece rest (Path.join path name) name
      else [] := by
  rw [descend, hname]
  simp only [below_of_isAbsolute h]
  cases p.isDir path <;> rfl

theorem meet_of_name (h : piece ≠ [.anyDirs]) : meet p (n + 1) piece rest path name =
    if matchesName piece name then onwards p n rest path else [] := by
  rw [meet.eq_def]
  exact if_neg h

theorem meet_anyDirs_nil : meet p (n + 1) [.anyDirs] [] path name =
    if p.isDir path then path :: descend p n [[.anyDirs]] path else [] := by
  rw [meet.eq_def]
  exact if_pos rfl

theorem meet_anyDirs_cons (next : List Token) (more : List (List Token)) :
    meet p (n + 1) [.anyDirs] (next :: more) path name =
      meet p n next more path name ++
        if p.isDir path && next ≠ [.anyDirs] then descend p n ([.anyDirs] :: next :: more) path
        else [] := by
  rw [meet.eq_def]
  exact if_pos rfl

/-! ## Depth -/

/-- How many directories further down than a path there may be, as far as its text tells. -/
def room (p : Place) (path : List Char) : Nat :=
  41 * p.tree.entries.length + (Path.steps path).count ['.', '.'] -
    (Path.steps path).countP Path.isName

/-- A depth that is enough for the search for some pieces. -/
def Enough (p : Place) (n : Nat) (rest : List (List Token)) (path : List Char) : Prop :=
  2 * room p path + 4 * rest.length + 1 ≤ n

/-- A depth that is enough for an entry that has been met. There is less room in it than in the
directory of the entry. -/
def EnoughToMeet (p : Place) (n : Nat) (rest : List (List Token)) (path : List Char) : Prop :=
  ∃ above, room p path ≤ above ∧ (p.isDir path → room p path < above) ∧
    2 * above + 4 * (rest.length + 1) ≤ n

theorem steps_join_name (hname : '/' ∉ name) (path : List Char) :
    Path.steps (Path.join path name) = Path.steps path ++ if name = [] then [] else [name] := by
  rw [Path.steps_join (Path.isAbsolute_of_notMem hname)]
  by_cases hne : name = []
  · rw [hne]
    rfl
  · rw [if_neg hne, Path.steps_of_notMem hname hne]

theorem room_join_le (hname : '/' ∉ name) (path : List Char) :
    room p (Path.join path name) ≤ room p path + 1 := by
  have hcount : (if name = [] then [] else [name] : List FileName).count ['.', '.'] ≤ 1 :=
    List.count_le_length.trans (by split <;> simp)
  rw [room, room, steps_join_name hname, List.count_append, List.countP_append]
  omega

theorem count_steps_join (hname : FileName.Legal name) (path : List Char) :
    (Path.steps (Path.join path name)).count ['.', '.'] = (Path.steps path).count ['.', '.'] ∧
    (Path.steps (Path.join path name)).countP Path.isName =
      (Path.steps path).countP Path.isName + 1 := by
  rw [steps_join_name hname.slash_notMem, if_neg hname.ne_nil, List.count_append,
    List.countP_append]
  refine ⟨Nat.add_eq_left.mpr ?_, congrArg _ ?_⟩
  · exact List.count_eq_zero_of_not_mem (mt List.mem_singleton.mp hname.ne_up.symm)
  · exact List.countP_cons_of_pos (Path.isName_of_legal hname)

theorem room_join_legal (hname : FileName.Legal name) (path : List Char) :
    room p (Path.join path name) = room p path - 1 := by
  obtain ⟨hup, hnames⟩ := count_steps_join hname path
  rw [room, room, hup, hnames, Nat.sub_add_eq]

/-- The names of a path that leads to a directory have room. -/
theorem room_join_lt (habs : Path.isAbsolute path = true) (hname : FileName.Legal name)
    (hdir : p.isDir (Path.join path name)) : room p (Path.join path name) < room p path := by
  have hrelative := Path.isAbsolute_of_notMem hname.slash_notMem
  have hle := Place.names_le_of_isDir ((Path.isAbsolute_join hrelative path).trans habs) hdir
  obtain ⟨hup, hnames⟩ := count_steps_join hname path
  rw [hup, hnames] at hle
  rw [room_join_legal hname, room]
  omega

theorem Enough.pos (h : Enough p n rest path) : ∃ m, n = m + 1 :=
  ⟨n - 1, by unfold Enough at h; omega⟩

theorem Enough.onwards (h : Enough p (n + 1) (piece :: rest) path) (hname : '/' ∉ name) :
    Enough p n rest (Path.join path name) := by
  have hroom := room_join_le (p := p) hname path
  unfold Enough at h ⊢
  rw [List.length_cons] at h
  omega

theorem Enough.meet (h : Enough p (n + 1) (piece :: rest) path)
    (habs : Path.isAbsolute path = true) (hname : FileName.Legal name) :
    EnoughToMeet p n rest (Path.join path name) := by
  refine ⟨room p path, ?_, room_join_lt habs hname, ?_⟩
  · rw [room_join_legal hname]
    exact Nat.sub_le _ _
  · unfold Enough at h
    rw [List.length_cons] at h
    omega

theorem EnoughToMeet.pos (h : EnoughToMeet p n rest path) : ∃ m, n = m + 1 := by
  obtain ⟨above, -, -, hn⟩ := h
  exact ⟨n - 1, by omega⟩

theorem EnoughToMeet.more (h : EnoughToMeet p (n + 1) (piece :: rest) path) :
    EnoughToMeet p n rest path := by
  obtain ⟨above, hle, hlt, hn⟩ := h
  rw [List.length_cons] at hn
  exact ⟨above, hle, hlt, by omega⟩

theorem EnoughToMeet.onwards (h : EnoughToMeet p (n + 1) rest path) : Enough p n rest path := by
  obtain ⟨above, hle, -, hn⟩ := h
  unfold Enough
  omega

theorem EnoughToMeet.deeper (h : EnoughToMeet p (n + 1) rest path) (hdir : p.isDir path) :
    Enough p n (piece :: rest) path := by
  obtain ⟨above, -, hlt, hn⟩ := h
  have hroom := hlt hdir
  unfold Enough
  rw [List.length_cons]
  omega

end LintDesk.Glob
