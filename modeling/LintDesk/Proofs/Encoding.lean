import LintDesk.Text.Utf8
import Mathlib.Algebra.Group.Nat.Defs
import Mathlib.Tactic.SplitIfs

/-! # Texts and the bytes that spell them

A text is spelled character by character, and what spells a character is read as that character,
whatever comes behind it. So a text is read back from its bytes.
-/

namespace LintDesk.Text.Utf8

/-- The character that an item is read as. -/
def Item.shown : Item → Char
  | .char c => c
  | .bad _ | .cut _ => '\uFFFD'

theorem lossy_nil : lossy [] = [] := by rw [lossy]

theorem lossy_cons (b : UInt8) (s : List UInt8) :
    lossy (b :: s) = (item b s).1.shown :: lossy (item b s).2 := by
  rw [lossy]
  split
  · next h => simp only [h, Item.shown]
  · next h => simp only [h, Item.shown]
  · next h => simp only [h, Item.shown]

variable {c d : Char} {lead n k : Nat}

theorem encode_ofList (s : List Char) :
    encode (String.ofList s) = s.flatMap String.utf8EncodeChar := by
  have hbytes : (String.ofList s).toUTF8 = s.utf8Encode := String.toByteArray_ofList
  rw [encode, hbytes, List.utf8Encode, List.data_toByteArray]

theorem encode_eq (s : String) : encode s = s.toList.flatMap String.utf8EncodeChar := by
  rw [← encode_ofList, String.ofList_toList]

/-! ## Bytes of one character -/

theorem toNat_ofNat_of_le (h : n ≤ 0xFF) : (UInt8.ofNat n).toNat = n :=
  UInt8.toNat_ofNat_of_lt' (Nat.lt_succ_of_le h)

theorem toNat_continuation (n : Nat) : (UInt8.ofNat (n % 64 + 0x80)).toNat = n % 64 + 0x80 :=
  toNat_ofNat_of_le (by omega)

/-- A byte that continues a character has six bits of it. -/
theorem readTail_continuation (acc size k n : Nat) (s : List UInt8) :
    readTail acc size (k + 1) (UInt8.ofNat (n % 64 + 0x80) :: s) =
      readTail (64 * acc + n % 64) (size + 1) k s := by
  have hcontinuation : isContinuation (UInt8.ofNat (n % 64 + 0x80)) = true := by
    simp only [isContinuation, Bool.and_eq_true, decide_eq_true_eq, UInt8.le_iff_toNat_le,
      toNat_continuation, UInt8.reduceToNat]
    omega
  have hbits : (n % 64 + 0x80) % 64 = n % 64 := by omega
  rw [readTail, if_pos hcontinuation, toNat_continuation, hbits]

/-- The leads of characters that `k` bytes follow after the second one. -/
def Leads (lead k : Nat) : Prop :=
  0xC2 ≤ lead ∧ lead < 0xE0 ∧ k = 0 ∨ 0xE0 ≤ lead ∧ lead < 0xF0 ∧ k = 1 ∨
    0xF0 ≤ lead ∧ lead ≤ 0xF4 ∧ k = 2

theorem Leads.toNat (h : Leads lead k) : (UInt8.ofNat lead).toNat = lead := by
  refine toNat_ofNat_of_le ?_
  rcases h with h | h | h <;> omega

theorem Leads.tailLength (h : Leads lead k) :
    tailLength (UInt8.ofNat lead) = some (k + 1) := by
  simp only [Utf8.tailLength, UInt8.lt_iff_toNat_lt, Bool.and_eq_true, decide_eq_true_eq,
    UInt8.le_iff_toNat_le, UInt8.reduceToNat, h.toNat]
  rcases h with ⟨h, h', rfl⟩ | ⟨h, h', rfl⟩ | ⟨h, h', rfl⟩
  · rw [if_neg (by omega), if_pos (by omega)]
  · rw [if_neg (by omega), if_neg (by omega), if_pos (by omega)]
  · rw [if_neg (by omega), if_neg (by omega), if_neg (by omega), if_pos (by omega)]

theorem Leads.leadBits (h : Leads lead k) :
    leadBits (UInt8.ofNat lead) (k + 1) = lead % 2 ^ (5 - k) := by
  have hnat := h.toNat
  rcases h with ⟨-, -, rfl⟩ | ⟨-, -, rfl⟩ | ⟨-, -, rfl⟩ <;>
    exact congrArg (· % _) hnat

/-- The second byte has to be one that the lead allows. -/
theorem item_lead (h : Leads lead k) (hE0 : lead = 0xE0 → 0x20 ≤ n % 64)
    (hED : lead = 0xED → n % 64 < 0x20) (hF0 : lead = 0xF0 → 0x10 ≤ n % 64)
    (hF4 : lead = 0xF4 → n % 64 < 0x10) (s : List UInt8) :
    item (UInt8.ofNat lead) (UInt8.ofNat (n % 64 + 0x80) :: s) =
      readTail (64 * (lead % 2 ^ (5 - k)) + n % 64) 2 k s := by
  have hrange : (secondRange (UInt8.ofNat lead)).1.toNat ≤ n % 64 + 0x80 ∧
      n % 64 + 0x80 ≤ (secondRange (UInt8.ofNat lead)).2.toNat := by
    simp only [secondRange, beq_iff_eq, ← UInt8.toNat_inj, h.toNat, UInt8.reduceToNat]
    split_ifs <;> simp only [UInt8.reduceToNat] <;> omega
  have hbits : (n % 64 + 0x80) % 64 = n % 64 := by omega
  simp only [item, h.tailLength, h.leadBits, Bool.and_eq_true, decide_eq_true_eq,
    UInt8.le_iff_toNat_le, toNat_continuation, hbits]
  rw [if_pos hrange]

/-- What spells a character is read as that character, whatever comes behind it. -/
theorem item_utf8EncodeChar (c : Char) : ∃ b bs, String.utf8EncodeChar c = b :: bs ∧
    ∀ s, item b (bs ++ s) = (.char c, s) := by
  have hvalid : c.val.toNat < 0xD800 ∨ 0xDFFF < c.val.toNat ∧ c.val.toNat < 0x110000 := c.valid
  have hread {n : Nat} (hn : n = c.val.toNat) (size : Nat) (s : List UInt8) :
      readTail n size 0 s = (.char c, s) := by
    rw [hn, readTail]
    exact congrArg (Item.char · , s) (Char.ofNat_toNat c)
  rw [String.utf8EncodeChar]
  split_ifs with hone htwo hthree
  · refine ⟨_, _, rfl, fun s => ?_⟩
    have hnat : (UInt8.ofNat c.val.toNat).toNat = c.val.toNat := toNat_ofNat_of_le (by omega)
    have hlength : tailLength (UInt8.ofNat c.val.toNat) = some 0 :=
      if_pos (UInt8.lt_iff_toNat_lt.mpr (by rw [hnat]; exact Nat.lt_succ_of_le hone))
    rw [item, hlength, hnat]
    exact hread rfl 0 s
  · refine ⟨_, _, rfl, fun s => ?_⟩
    have hlead : Leads (c.val.toNat / 64 % 32 + 0xC0) 0 := .inl (by omega)
    rw [List.cons_append, item_lead hlead (by omega) (by omega) (by omega) (by omega)]
    exact hread (by omega) 2 s
  · refine ⟨_, _, rfl, fun s => ?_⟩
    have hlead : Leads (c.val.toNat / 4096 % 16 + 0xE0) 1 := .inr (.inl (by omega))
    rw [List.cons_append, item_lead hlead (by omega) (by omega) (by omega) (by omega),
      List.cons_append, readTail_continuation]
    exact hread (by omega) 3 s
  · refine ⟨_, _, rfl, fun s => ?_⟩
    have hlead : Leads (c.val.toNat / 262144 % 8 + 0xF0) 2 := .inr (.inr (by omega))
    rw [List.cons_append, item_lead hlead (by omega) (by omega) (by omega) (by omega),
      List.cons_append, readTail_continuation, List.cons_append, readTail_continuation]
    exact hread (by omega) 4 s

theorem utf8EncodeChar_of_lt (h : c.val.toNat < 0x80) :
    String.utf8EncodeChar c = [UInt8.ofNat c.val.toNat] := if_pos (Nat.le_of_lt_succ h)

/-- A byte below 128 occurs in nothing but the character of its number. -/
theorem le_of_mem_utf8EncodeChar {b : UInt8} (h : 0x80 ≤ c.val.toNat)
    (hb : b ∈ String.utf8EncodeChar c) : 0x80 ≤ b.toNat := by
  have hall : ∀ b ∈ String.utf8EncodeChar c, 0x80 ≤ b.toNat := by
    rw [String.utf8EncodeChar, if_neg (by omega)]
    split_ifs <;> simp only [List.mem_cons, List.not_mem_nil, or_false, forall_eq_or_imp,
      forall_eq, UInt8.toNat_ofNat'] <;> omega
  exact hall b hb

/-! ## Bytes of a text -/

/-- A text is read back from its bytes, and then what comes behind them is read. -/
theorem lossy_flatMap_append (s : List Char) (rest : List UInt8) :
    lossy (s.flatMap String.utf8EncodeChar ++ rest) = s ++ lossy rest := by
  induction s with
  | nil => rfl
  | cons c s ih =>
    obtain ⟨b, bs, hbytes, hitem⟩ := item_utf8EncodeChar c
    rw [List.flatMap_cons, hbytes, List.append_assoc, List.cons_append, lossy_cons, hitem, ih,
      Item.shown, List.cons_append]

theorem lossy_encode (s : String) : lossy (encode s) = s.toList := by
  have hread := lossy_flatMap_append s.toList []
  rwa [lossy_nil, List.append_nil, List.append_nil, ← encode_eq] at hread

end LintDesk.Text.Utf8
