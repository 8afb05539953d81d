import LintDesk.Diagnostic

/-! # The store of latest diagnostics

One slot for each analyzer. A write replaces the slot, never adds to it, and a write for a request
is refused when the slot already holds a newer request's result. Plain writes belong to no request:
they are always made, and leave the request of the slot as it is.
-/

namespace LintDesk

structure Slot where
  sequence : Nat
  diagnostics : List Diagnostic
deriving DecidableEq, Repr

/-- The slots, each under the id of its analyzer. -/
structure Store where
  slots : List (String × Slot) := []
  /-- There is one slot for each id at most. -/
  distinct : (slots.map (·.1)).Nodup := by simp
deriving DecidableEq, Repr

namespace Store

def empty : Store := {}

def slot? (s : Store) (id : String) : Option Slot := (s.slots.find? (·.1 == id)).map (·.2)

/-- The slots with the one under `id` replaced, or added at the end. -/
def putSlot (id : String) (slot : Slot) : List (String × Slot) → List (String × Slot)
  | [] => [(id, slot)]
  | (k, old) :: rest => if k = id then (id, slot) :: rest else (k, old) :: putSlot id slot rest

theorem mem_keys_putSlot (id k : String) (slot : Slot) (slots : List (String × Slot)) :
    k ∈ (putSlot id slot slots).map (·.1) ↔ k = id ∨ k ∈ slots.map (·.1) := by
  induction slots with
  | nil => simp [putSlot]
  | cons p rest ih =>
    obtain ⟨j, old⟩ := p
    by_cases hj : j = id
    · simp [putSlot, hj]
    · simp only [putSlot, hj, if_false, List.map_cons, List.mem_cons, ih]
      exact or_left_comm

theorem nodup_keys_putSlot {slots : List (String × Slot)} (id : String) (slot : Slot)
    (h : (slots.map (·.1)).Nodup) : ((putSlot id slot slots).map (·.1)).Nodup := by
  induction slots with
  | nil => simp [putSlot]
  | cons p rest ih =>
    obtain ⟨j, old⟩ := p
    obtain ⟨hj, hrest⟩ := List.nodup_cons.mp h
    by_cases e : j = id
    · subst e
      simpa [putSlot] using h
    · simp only [putSlot, e, if_false, List.map_cons, List.nodup_cons]
      refine ⟨fun hmem => ?_, ih hrest⟩
      rcases (mem_keys_putSlot id j slot rest).mp hmem with h | h
      · exact e h
      · exact hj h

def put (s : Store) (id : String) (slot : Slot) : Store :=
  ⟨putSlot id slot s.slots, nodup_keys_putSlot id slot s.distinct⟩

/-- The sequence number of a slot; zero if there is none yet. -/
def sequence (s : Store) (id : String) : Nat := ((s.slot? id).map (·.sequence)).getD 0

/-- The diagnostics in a slot; none if there is no slot yet. -/
def get (s : Store) (id : String) : List Diagnostic :=
  ((s.slot? id).map (·.diagnostics)).getD []

/-- A plain write. -/
def set (s : Store) (id : String) (ds : List Diagnostic) : Store :=
  s.put id ⟨s.sequence id, ds⟩

/-- A write for the request with the given number, and whether it was made. -/
def setIfNewer (s : Store) (id : String) (sequence : Nat) (ds : List Diagnostic) :
    Bool × Store :=
  if s.sequence id > sequence then (false, s) else (true, s.put id ⟨sequence, ds⟩)

/-- The contents of all slots, in the order of their ids. -/
def snapshot (s : Store) : List (String × List Diagnostic) :=
  (s.slots.map fun (id, slot) => (id, slot.diagnostics)).mergeSort fun a b => a.1 ≤ b.1

@[simp] theorem slot?_empty (id : String) : empty.slot? id = none := rfl

theorem find?_putSlot (id k : String) (slot : Slot) (slots : List (String × Slot)) :
    (putSlot id slot slots).find? (·.1 == k) =
      if id = k then some (id, slot) else slots.find? (·.1 == k) := by
  induction slots with
  | nil => by_cases h : id = k <;> simp [putSlot, h]
  | cons p rest ih =>
    obtain ⟨j, old⟩ := p
    by_cases hj : j = id
    · by_cases h : id = k <;> simp [putSlot, hj, h]
    · by_cases h : id = k
      · subst h
        simpa [putSlot, hj] using ih
      · by_cases hk : j = k
        · simp [putSlot, h, hk, show ¬k = id from fun e => h e.symm]
        · simpa [putSlot, hj, h, hk] using ih

theorem slot?_put (s : Store) (id k : String) (slot : Slot) :
    (s.put id slot).slot? k = if id = k then some slot else s.slot? k := by
  simp only [slot?, put, find?_putSlot]
  split <;> rfl

end Store
end LintDesk
