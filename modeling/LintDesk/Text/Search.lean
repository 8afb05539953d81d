/-! # Occurrences of one text in another

Containment, splitting and left-to-right replacement. Replaced text is not searched again.
-/

namespace LintDesk.Text

section Stop

variable {p : Char → Bool} {s rest : List Char}

/-- The front of a text is passed over up to the first character at which to stop. -/
theorem dropWhile_append_of_stop (hs : ∀ c ∈ s, p c = true)
    (hrest : ∀ c ∈ rest.head?, p c = false) : (s ++ rest).dropWhile p = rest := by
  rw [List.dropWhile_append_of_pos hs]
  cases rest with
  | nil => rfl
  | cons c rest => exact List.dropWhile_cons_of_neg (by simp [hrest c rfl])

theorem takeWhile_append_of_stop (hs : ∀ c ∈ s, p c = true)
    (hrest : ∀ c ∈ rest.head?, p c = false) : (s ++ rest).takeWhile p = s := by
  have hwhole := List.takeWhile_append_dropWhile (p := p) (l := s ++ rest)
  rw [dropWhile_append_of_stop hs hrest] at hwhole
  exact List.append_cancel_right hwhole

end Stop

/-- Whether `part` occurs in a text, as a contiguous piece of it. -/
def occurs (part : List Char) : List Char → Bool
  | [] => part.isEmpty
  | c :: s => part.isPrefixOf (c :: s) || occurs part s

/-- The text after each occurrence of `part`, found from the left without overlap, has been
replaced by `fresh`. The counter holds the characters of an occurrence that are still to be passed
over. -/
def replaceFrom (part fresh : List Char) : Nat → List Char → List Char
  | _, [] => []
  | n + 1, _ :: s => replaceFrom part fresh n s
  | 0, c :: s =>
      if part.isPrefixOf (c :: s) then fresh ++ replaceFrom part fresh (part.length - 1) s
      else c :: replaceFrom part fresh 0 s

/-- Replaces every occurrence of the nonempty text `part` by `fresh`, from the left. -/
def replace (part fresh s : String) : String :=
  String.ofList (replaceFrom part.toList fresh.toList 0 s.toList)

/-- The pieces between the characters for which `p` holds; always at least one piece. -/
def splitWhere (p : Char → Bool) : List Char → List (List Char)
  | [] => [[]]
  | c :: s =>
      if p c then [] :: splitWhere p s
      else match splitWhere p s with
        | [] => [[c]]
        | piece :: rest => (c :: piece) :: rest

/-- Joins the pieces, with `sep` between every two of them. -/
def join (sep : List Char) : List (List Char) → List Char
  | [] => []
  | [piece] => piece
  | piece :: rest => piece ++ sep ++ join sep rest

theorem join_cons_cons (sep p q : List Char) (ps : List (List Char)) :
    join sep (p :: q :: ps) = p ++ (sep ++ join sep (q :: ps)) := List.append_assoc ..

theorem join_cons (sep p : List Char) (ps : List (List Char)) :
    join sep (p :: ps) = p ++ ps.flatMap (sep ++ ·) := by
  induction ps generalizing p with
  | nil => exact (List.append_nil p).symm
  | cons q ps ih => rw [join_cons_cons, ih, List.flatMap_cons, List.append_assoc]

/-- Joins texts with `sep` between every two of them. -/
def joinWith (sep : String) (xs : List String) : String :=
  String.ofList (join sep.toList (xs.map String.toList))

theorem toList_joinWith_empty (xs : List String) :
    (joinWith "" xs).toList = xs.flatMap String.toList := by
  rw [joinWith, String.toList_ofList]
  cases xs with
  | nil => rfl
  | cons x xs => simp [join_cons, List.flatMap_map]

def contains (s part : String) : Bool := occurs part.toList s.toList

/-- Lower case for the ASCII letters, all other characters unchanged. -/
def lowerAscii (c : Char) : Char := c.toLower

end LintDesk.Text
