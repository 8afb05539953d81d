import Mathlib.Data.List.Nodup
import LintDesk.Store

/-! # Laws of the store

What a write does to each slot. A snapshot shows the slots in the order of their ids, so that two
stores with the same slots have the same snapshot, however they were filled.
-/

namespace LintDesk.Store

variable {s t : Store} {id k : String} {slot : Slot}

/-! ## Slots -/

theorem find?_eq_some_of_mem {slots : List (String × Slot)} (h : (slots.map (·.1)).Nodup)
    (hmem : (id, slot) ∈ slots) : slots.find? (·.1 == id) = some (id, slot) := by
  induction slots with
  | nil => cases hmem
  | cons p rest ih =>
    obtain ⟨hp, hrest⟩ := List.nodup_cons.mp h
    rcases List.mem_cons.mp hmem with rfl | hmem
    · simp
    · have hne : p.1 ≠ id := fun e => hp (List.mem_map.mpr ⟨_, hmem, e.symm⟩)
      simp [hne, ih hrest hmem]

theorem slot?_eq_some_iff : s.slot? id = some slot ↔ (id, slot) ∈ s.slots := by
  constructor
  · intro h
    obtain ⟨p, hp, rfl⟩ := Option.map_eq_some_iff.mp h
    have hid : p.1 = id := by simpa using List.find?_some hp
    exact hid ▸ List.mem_of_find?_eq_some hp
  · intro h
    simp [slot?, find?_eq_some_of_mem s.distinct h]

theorem sequence_of_slot? (h : s.slot? id = some slot) : s.sequence id = slot.sequence := by
  simp [sequence, h]

theorem get_of_slot? (h : s.slot? id = some slot) : s.get id = slot.diagnostics := by
  simp [get, h]

@[simp] theorem sequence_empty (id : String) : empty.sequence id = 0 := rfl

/-! ## Writes -/

@[simp] theorem slot?_put_self (s : Store) (id : String) (slot : Slot) :
    (s.put id slot).slot? id = some slot := by simp [slot?_put]

theorem slot?_put_of_ne (s : Store) (slot : Slot) (h : id ≠ k) :
    (s.put id slot).slot? k = s.slot? k := by simp [slot?_put, h]

theorem slot?_set (s : Store) (id k : String) (ds : List Diagnostic) :
    (s.set id ds).slot? k = if id = k then some ⟨s.sequence id, ds⟩ else s.slot? k :=
  slot?_put s id k _

theorem sequence_put (s : Store) (id k : String) (slot : Slot) :
    (s.put id slot).sequence k = if id = k then slot.sequence else s.sequence k := by
  simp only [sequence, slot?_put]
  split <;> rfl

/-- A plain write leaves the request of every slot as it is. -/
@[simp] theorem sequence_set (s : Store) (id k : String) (ds : List Diagnostic) :
    (s.set id ds).sequence k = s.sequence k := by
  rw [set, sequence_put]
  split
  · next h => rw [h]
  · rfl

/-! ## Snapshots -/

theorem mem_snapshot_iff {ds : List Diagnostic} :
    (id, ds) ∈ s.snapshot ↔ ∃ n, s.slot? id = some ⟨n, ds⟩ := by
  simp only [snapshot, List.mem_mergeSort, List.mem_map, Prod.mk.injEq, slot?_eq_some_iff]
  constructor
  · rintro ⟨⟨_, slot⟩, hmem, rfl, rfl⟩
    exact ⟨slot.sequence, hmem⟩
  · rintro ⟨n, hmem⟩
    exact ⟨_, hmem, rfl, rfl⟩

theorem mem_snapshot_ids_iff : id ∈ s.snapshot.map (·.1) ↔ ∃ slot, s.slot? id = some slot := by
  simp only [List.mem_map, Prod.exists, exists_and_right, exists_eq_right, mem_snapshot_iff]
  constructor
  · rintro ⟨ds, n, h⟩
    exact ⟨_, h⟩
  · rintro ⟨slot, h⟩
    exact ⟨slot.diagnostics, slot.sequence, h⟩

theorem nodup_snapshot_ids (s : Store) : (s.snapshot.map (·.1)).Nodup := by
  have hperm := (List.mergeSort_perm (s.slots.map fun p => (p.1, p.2.diagnostics))
    fun a b => a.1 ≤ b.1).map (·.1)
  rw [List.map_map] at hperm
  exact hperm.nodup_iff.mpr s.distinct

theorem pairwise_snapshot (s : Store) : s.snapshot.Pairwise (·.1 ≤ ·.1) := by
  have h := @List.pairwise_mergeSort _ (fun (a b : String × List Diagnostic) => a.1 ≤ b.1)
    (fun a b c hab hbc => by simpa using String.le_trans (by simpa using hab) (by simpa using hbc))
    (fun a b => by simpa using String.le_total a.1 b.1)
    (s.slots.map fun p => (p.1, p.2.diagnostics))
  simpa [snapshot] using h

/-- The slots alone decide on a snapshot. -/
theorem snapshot_congr (h : ∀ id, s.slot? id = t.slot? id) : s.snapshot = t.snapshot := by
  have hperm : s.snapshot.Perm t.snapshot := by
    refine (List.perm_ext_iff_of_nodup (s.nodup_snapshot_ids.of_map _)
      (t.nodup_snapshot_ids.of_map _)).mpr ?_
    rintro ⟨id, ds⟩
    rw [mem_snapshot_iff, mem_snapshot_iff, h]
  refine hperm.eq_of_pairwise ?_ s.pairwise_snapshot t.pairwise_snapshot
  rintro ⟨a, ds⟩ ⟨b, es⟩ ha hb hab hba
  obtain rfl : a = b := String.le_antisymm hab hba
  -- Both entries stem from the one slot under their id.
  obtain ⟨m, hm⟩ := mem_snapshot_iff.mp ha
  obtain ⟨n, hn⟩ := mem_snapshot_iff.mp hb
  rw [h, hn] at hm
  obtain ⟨-, rfl⟩ := Slot.mk.inj (Option.some.inj hm)
  rfl

end LintDesk.Store
