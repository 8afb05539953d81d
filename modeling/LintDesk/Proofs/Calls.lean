import Mathlib.Data.List.Induction
import LintDesk.Proofs.Store

/-! # The calls of a store

A store keeps one number for each slot, and plain writes leave it as it is. Still this number tells
whether a write for a request comes too late: it is the greatest number that was ever submitted for
the slot, as a number that is refused is smaller than the one that is kept.
-/

namespace LintDesk

/-- A call that writes to a store, or tries to. -/
inductive StoreCall where
  | set (id : String) (ds : List Diagnostic)
  | setIfNewer (id : String) (sequence : Nat) (ds : List Diagnostic)
deriving DecidableEq

namespace StoreCall

/-- The slot that a call is for. -/
def target : StoreCall → String
  | set id _ | setIfNewer id _ _ => id

def diagnostics : StoreCall → List Diagnostic
  | set _ ds | setIfNewer _ _ ds => ds

/-- The number that a call submits; a plain write submits none. -/
def sequence? : StoreCall → Option Nat
  | set .. => none
  | setIfNewer _ n _ => some n

/-- Makes a call, and tells whether it has written. -/
def make (s : Store) : StoreCall → Bool × Store
  | set id ds => (true, s.set id ds)
  | setIfNewer id n ds => s.setIfNewer id n ds

variable {s t : Store} {c : StoreCall} {id : String}

/-- A call is a plain write, or its number is too small, or it writes under its number. -/
theorem make_cases (s : Store) (c : StoreCall) :
    (c.sequence? = none ∧
      c.make s = (true, s.put c.target ⟨s.sequence c.target, c.diagnostics⟩)) ∨
    (∃ n, c.sequence? = some n ∧ n < s.sequence c.target ∧ c.make s = (false, s)) ∨
    ∃ n, c.sequence? = some n ∧ s.sequence c.target ≤ n ∧
      c.make s = (true, s.put c.target ⟨n, c.diagnostics⟩) := by
  cases c with
  | set id ds => exact .inl ⟨rfl, rfl⟩
  | setIfNewer id n ds =>
    rcases Nat.lt_or_ge n (s.sequence id) with hlt | hge
    · exact .inr (.inl ⟨n, rfl, hlt, by simp [make, Store.setIfNewer, hlt]⟩)
    · exact .inr (.inr ⟨n, rfl, hge, by
        simp [make, Store.setIfNewer, Nat.not_lt.mpr hge, target, diagnostics]⟩)

theorem slot?_make_of_ne (s : Store) (h : c.target ≠ id) :
    (c.make s).2.slot? id = s.slot? id := by
  rcases c.make_cases s with ⟨-, hs⟩ | ⟨n, -, -, hs⟩ | ⟨n, -, -, hs⟩
  · rw [hs, Store.slot?_put_of_ne _ _ h]
  · rw [hs]
  · rw [hs, Store.slot?_put_of_ne _ _ h]

/-- A call that writes leaves its diagnostics in its slot, and any other leaves the slot alone. -/
theorem get_make_self (s : Store) (c : StoreCall) : (c.make s).2.get c.target =
    if (c.make s).1 then c.diagnostics else s.get c.target := by
  rcases c.make_cases s with ⟨-, hs⟩ | ⟨n, -, -, hs⟩ | ⟨n, -, -, hs⟩ <;> simp [hs, Store.get]

/-- The number of a slot grows to the one that is submitted. -/
theorem lt_sequence_make_iff {n : Nat} : n < (c.make s).2.sequence id ↔
    n < s.sequence id ∨ c.target = id ∧ ∃ m, c.sequence? = some m ∧ n < m := by
  rcases c.make_cases s with ⟨hc, hs⟩ | ⟨m, hc, hlt, hs⟩ | ⟨m, hc, hge, hs⟩
  · by_cases hid : c.target = id
    · subst hid
      simp [hs, hc, Store.sequence_put]
    · simp [hs, hc, Store.sequence_put, hid]
  · simp only [hs, hc]
    grind
  · simp only [hs, hc, Store.sequence_put]
    grind

/-- A call for a slot that nobody has written to is made. -/
theorem isSome_slot?_make :
    ((c.make s).2.slot? id).isSome ↔ c.target = id ∨ (s.slot? id).isSome := by
  by_cases hid : c.target = id
  · subst hid
    rcases c.make_cases s with ⟨-, hs⟩ | ⟨n, -, hlt, hs⟩ | ⟨n, -, -, hs⟩
    · simp [hs]
    · have hsome : (s.slot? c.target).isSome := by
        by_contra hnone
        simp [Store.sequence, Option.not_isSome_iff_eq_none.mp hnone] at hlt
      simp [hs, hsome]
    · simp [hs]
  · simp [slot?_make_of_ne s hid, hid]

/-- What a call does to its slot depends on this slot alone. -/
theorem make_congr (hid : c.target = id) (h : s.slot? id = t.slot? id) :
    (c.make s).1 = (c.make t).1 ∧ (c.make s).2.slot? id = (c.make t).2.slot? id := by
  subst hid
  have hseq : s.sequence c.target = t.sequence c.target := by simp [Store.sequence, h]
  cases c with
  | set id ds =>
    have hseq : s.sequence id = t.sequence id := hseq
    simp [make, target, Store.slot?_set, hseq]
  | setIfNewer id n ds =>
    have hseq : s.sequence id = t.sequence id := hseq
    have h : s.slot? id = t.slot? id := h
    simp only [make, target, Store.setIfNewer, hseq]
    split
    · exact ⟨rfl, h⟩
    · simp

end StoreCall

namespace Store

variable {s t : Store} {id : String} {calls : List StoreCall}

/-- The store after some calls. -/
def after (s : Store) (calls : List StoreCall) : Store := calls.foldl (fun s c => (c.make s).2) s

/-- Those of some calls that write. -/
def made (s : Store) : List StoreCall → List StoreCall
  | [] => []
  | c :: calls =>
      let (written, s) := c.make s
      if written then c :: s.made calls else s.made calls

/-- The numbers that are submitted for a slot. -/
def submitted (id : String) (calls : List StoreCall) : List Nat :=
  (calls.filter (·.target == id)).filterMap StoreCall.sequence?

@[simp] theorem after_nil (s : Store) : s.after [] = s := rfl

@[simp] theorem after_cons (s : Store) (c : StoreCall) (calls : List StoreCall) :
    s.after (c :: calls) = (c.make s).2.after calls := rfl

theorem after_append (s : Store) (cs ds : List StoreCall) :
    s.after (cs ++ ds) = (s.after cs).after ds := List.foldl_append

theorem made_append (s : Store) (cs ds : List StoreCall) :
    s.made (cs ++ ds) = s.made cs ++ (s.after cs).made ds := by
  induction cs generalizing s with
  | nil => rfl
  | cons c cs ih =>
    simp only [List.cons_append, made, ih, after_cons]
    split <;> rfl

theorem mem_submitted_cons {n : Nat} {c : StoreCall} : n ∈ submitted id (c :: calls) ↔
    c.target = id ∧ c.sequence? = some n ∨ n ∈ submitted id calls := by
  by_cases hid : c.target = id
  · simp [submitted, hid]
  · simp [submitted, hid]

/-- The number of a slot is the greatest one among those submitted for it, whether they have been
refused or not. -/
theorem lt_sequence_after_iff {n : Nat} : n < (s.after calls).sequence id ↔
    n < s.sequence id ∨ ∃ m ∈ submitted id calls, n < m := by
  induction calls generalizing s with
  | nil => simp [submitted]
  | cons c calls ih =>
    rw [after_cons, ih, StoreCall.lt_sequence_make_iff, or_assoc]
    simp only [mem_submitted_cons, or_and_right, exists_or, and_assoc, exists_and_left]

theorem setIfNewer_eq_true_iff {n : Nat} {ds : List Diagnostic} :
    (s.setIfNewer id n ds).1 = true ↔ s.sequence id ≤ n := by
  rw [setIfNewer]
  split
  · next h => exact iff_of_false nofun (Nat.not_le.mpr h)
  · next h => exact iff_of_true rfl (Nat.not_lt.mp h)

/-- A slot holds what the last of the calls for it has brought that have written. -/
theorem get_after (s : Store) (id : String) (calls : List StoreCall) : (s.after calls).get id =
    (((s.made calls).filter (·.target == id)).getLast?.map (·.diagnostics)).getD (s.get id) := by
  induction calls using List.reverseRecOn with
  | nil => rfl
  | append_singleton calls c ih =>
    rw [after_append, made_append, List.filter_append, after_cons, after_nil]
    by_cases hid : c.target = id
    · subst hid
      rw [StoreCall.get_make_self]
      cases hw : (c.make (s.after calls)).1 <;> simp [made, hw, ih]
    · have hget : (c.make (s.after calls)).2.get id = (s.after calls).get id := by
        simp [get, StoreCall.slot?_make_of_ne _ hid]
      have hnil : ((s.after calls).made [c]).filter (·.target == id) = [] := by
        cases hw : (c.make (s.after calls)).1 <;> simp [made, hw, hid]
      rw [hget, hnil, List.append_nil, ih]

theorem isSome_slot?_after_iff : ((s.after calls).slot? id).isSome ↔
    (s.slot? id).isSome ∨ id ∈ calls.map (·.target) := by
  induction calls generalizing s with
  | nil => simp
  | cons c calls ih =>
    rw [after_cons, ih, StoreCall.isSome_slot?_make, List.map_cons, List.mem_cons]
    grind

/-- What becomes of a slot, and which calls for it write, is decided by the calls for it. -/
theorem after_filter (h : s.slot? id = t.slot? id) (calls : List StoreCall) :
    (s.after calls).slot? id = (t.after (calls.filter (·.target == id))).slot? id ∧
      (s.made calls).filter (·.target == id) = t.made (calls.filter (·.target == id)) := by
  induction calls generalizing s t with
  | nil => exact ⟨h, rfl⟩
  | cons c calls ih =>
    by_cases hid : c.target = id
    · obtain ⟨hwritten, hslot⟩ := StoreCall.make_congr hid h
      obtain ⟨hafter, hmade⟩ := ih hslot
      rw [List.filter_cons_of_pos (by simpa using hid)]
      refine ⟨hafter, ?_⟩
      simp only [made, hwritten]
      split
      · rw [List.filter_cons_of_pos (by simpa using hid), hmade]
      · exact hmade
    · obtain ⟨hafter, hmade⟩ := ih ((StoreCall.slot?_make_of_ne s hid).trans h)
      rw [List.filter_cons_of_neg (by simpa using hid)]
      refine ⟨hafter, ?_⟩
      simp only [made]
      split
      · rwa [List.filter_cons_of_neg (by simpa using hid)]
      · exact hmade

/-- After any calls a write for a request is made unless a greater number has been submitted for its
slot, be it in vain. A slot holds what the latest of its writes has brought, the snapshot shows the
slots that there was a call for, and the calls for other slots do not matter. -/
theorem slots_hold_latest_writes (calls : List StoreCall) :
    let s := empty.after calls
    let writes := fun id => (empty.made calls).filter (·.target == id)
    (∀ id n ds, (s.setIfNewer id n ds).1 = true ↔ ∀ m ∈ submitted id calls, m ≤ n) ∧
    (∀ id, s.get id = ((writes id).getLast?.map (·.diagnostics)).getD []) ∧
    (∀ id ds, (id, ds) ∈ s.snapshot ↔ id ∈ calls.map (·.target) ∧ s.get id = ds) ∧
    (s.snapshot.map (·.1)).Nodup ∧
    ∀ id, (empty.after (calls.filter (·.target == id))).slot? id = s.slot? id ∧
      empty.made (calls.filter (·.target == id)) = writes id := by
  intro s writes
  refine ⟨fun id n ds => ?_, fun id => get_after empty id calls, fun id ds => ?_,
    s.nodup_snapshot_ids, fun id => ?_⟩
  · rw [setIfNewer_eq_true_iff, ← Nat.not_lt, lt_sequence_after_iff]
    simp
  · have hkey : (∃ slot, s.slot? id = some slot) ↔ id ∈ calls.map (·.target) := by
      rw [← Option.isSome_iff_exists, isSome_slot?_after_iff]
      simp
    rw [mem_snapshot_iff, ← hkey]
    constructor
    · rintro ⟨n, h⟩
      exact ⟨⟨_, h⟩, get_of_slot? h⟩
    · rintro ⟨⟨slot, h⟩, rfl⟩
      exact ⟨slot.sequence, by rw [get_of_slot? h, h]⟩
  · have hslot : empty.slot? id = empty.slot? id := rfl
    obtain ⟨hafter, hmade⟩ := after_filter hslot calls
    exact ⟨hafter.symm, hmade.symm⟩

/-- The number that was refused counts no less than the one before it, and the plain write does not
open the slot for older requests. -/
example :
    let calls : List StoreCall := [.setIfNewer "lint" 3 [], .set "lint" [], .setIfNewer "lint" 2 []]
    (empty.made calls).map StoreCall.sequence? = [some 3, none] ∧
      ((empty.after calls).setIfNewer "lint" 2 []).1 = false := by decide

end Store
end LintDesk
