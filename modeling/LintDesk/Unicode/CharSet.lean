/-! # Sets of characters

A set of characters is a list of ranges of code points, in ascending order and without overlap.
The operations keep that form.
-/

namespace LintDesk.Unicode

/-- The ranges, each with its first and its last code point. -/
structure CharSet where
  ranges : List (Nat × Nat)
deriving DecidableEq, Repr, Inhabited

namespace CharSet

def maxCode : Nat := 0x10FFFF

/-- Whether a code point lies in one of the ascending ranges. -/
def memRanges (n : Nat) : List (Nat × Nat) → Bool
  | [] => false
  | (lo, hi) :: rest => if n < lo then false else n ≤ hi || memRanges n rest

def mem (s : CharSet) (c : Char) : Bool := memRanges c.toNat s.ranges

def empty : CharSet := ⟨[]⟩

def full : CharSet := ⟨[(0, maxCode)]⟩

def ofRange (lo hi : Nat) : CharSet := if lo ≤ hi then ⟨[(lo, hi)]⟩ else empty

def ofChar (c : Char) : CharSet := ofRange c.toNat c.toNat

/-- Joins the ranges that touch or overlap, given in ascending order of their first code point; the
range `lo` to `hi` goes before them. -/
def coalesceAfter (lo hi : Nat) : List (Nat × Nat) → List (Nat × Nat)
  | [] => [(lo, hi)]
  | (lo', hi') :: rest =>
      if lo' ≤ hi + 1 then coalesceAfter lo (max hi hi') rest
      else (lo, hi) :: coalesceAfter lo' hi' rest

def coalesce : List (Nat × Nat) → List (Nat × Nat)
  | [] => []
  | (lo, hi) :: rest => coalesceAfter lo hi rest

/-- The set of the characters in any of the given ranges, in whatever order they stand. -/
def ofRanges (rs : List (Nat × Nat)) : CharSet :=
  ⟨coalesce (rs.mergeSort fun a b => a.1 ≤ b.1)⟩

def union (s t : CharSet) : CharSet := ofRanges (s.ranges ++ t.ranges)

def unions (sets : List CharSet) : CharSet := ofRanges (sets.flatMap ranges)

/-- The gaps between ascending ranges, from `start` on. -/
def gapsFrom (start : Nat) : List (Nat × Nat) → List (Nat × Nat)
  | [] => if start ≤ maxCode then [(start, maxCode)] else []
  | (lo, hi) :: rest =>
      if start < lo then (start, lo - 1) :: gapsFrom (hi + 1) rest else gapsFrom (hi + 1) rest

def complement (s : CharSet) : CharSet := ⟨gapsFrom 0 s.ranges⟩

def inter (s t : CharSet) : CharSet := (s.complement.union t.complement).complement

def diff (s t : CharSet) : CharSet := s.inter t.complement

def symmDiff (s t : CharSet) : CharSet := (s.union t).diff (s.inter t)

/-- Whether every code point of the set is below `n`. -/
def below (s : CharSet) (n : Nat) : Bool := s.ranges.all (·.2 < n)

/-! ## Packed tables

A table is packed as numbers to the base 36, two for each range: how many code points lie between
it and the range before it, and how many follow its first one.
-/

def digit36 (c : Char) : Nat :=
  if c.toNat < 'a'.toNat then c.toNat - '0'.toNat else c.toNat - 'a'.toNat + 10

/-- The numbers of a packed table, given the one that is being read. -/
def numbers36 (n : Nat) : List Char → List Nat
  | [] => [n]
  | ' ' :: s => n :: numbers36 0 s
  | c :: s => numbers36 (36 * n + digit36 c) s

def unpackFrom (start : Nat) : List Nat → List (Nat × Nat)
  | gap :: more :: rest =>
      let lo := start + gap
      (lo, lo + more) :: unpackFrom (lo + more + 1) rest
  | _ => []

/-- The set that the rows of a packed table hold together. -/
def unpack (rows : List String) : CharSet :=
  ⟨unpackFrom 0 (rows.flatMap fun row => numbers36 0 row.toList)⟩

end CharSet
end LintDesk.Unicode
