import LintDesk.Proofs.Encoding
import LintDesk.Proofs.Paths

/-! # Paths of any bytes

A path is put together from units: a path of any bytes from these, and a text from its characters,
each as the bytes that spell it. A unit is a slash or has none in it, so a slash never divides one,
and the pieces of a path are put together from units as well.
-/

namespace LintDesk

open LintDesk.Text

namespace Path

variable {α : Type} {unit : α → List Char} {n : List Char} {ns : List (List Char)}

/-- What paths are put together from: a slash, and what has no slash in it. -/
structure Alphabet (unit : α → List Char) : Prop where
  slash : ∃ a, unit a = ['/']
  whole : ∀ a, unit a = ['/'] ∨ '/' ∉ unit a

namespace Alphabet

variable (h : Alphabet unit)
include h

/-- The pieces of a path are put together from the same units. -/
theorem exists_of_mem_split {s : List α} (hn : n ∈ split (s.flatMap unit)) :
    ∃ m : List α, n = m.flatMap unit := by
  induction s generalizing n with
  | nil => exact ⟨[], List.mem_singleton.mp hn⟩
  | cons a s ih =>
    obtain ⟨piece, pieces, hsplit⟩ := List.exists_cons_of_ne_nil (split_ne_nil (s.flatMap unit))
    rw [List.flatMap_cons] at hn
    rcases h.whole a with ha | ha
    · rw [ha, ← List.nil_append (['/'] ++ _), List.singleton_append, split_append] at hn
      rcases List.mem_cons.mp hn with rfl | hn
      · exact ⟨[], rfl⟩
      · exact ih hn
    · have hfree : ∀ c ∈ unit a, (c == '/') = false := fun c hc =>
        beq_false_of_ne (ne_of_mem_of_not_mem hc ha)
      rw [split, splitWhere_append_of_free hfree hsplit] at hn
      rcases List.mem_cons.mp hn with rfl | hn
      · obtain ⟨m, rfl⟩ := ih (hsplit ▸ List.mem_cons_self)
        exact ⟨a :: m, List.flatMap_cons.symm⟩
      · exact ih (hsplit ▸ List.mem_cons_of_mem _ hn)

theorem exists_join (hns : ∀ n ∈ ns, ∃ m : List α, n = m.flatMap unit) :
    ∃ m : List α, Text.join ['/'] ns = m.flatMap unit := by
  obtain ⟨a, ha⟩ := h.slash
  induction ns with
  | nil => exact ⟨[], rfl⟩
  | cons n ns ih =>
    obtain ⟨⟨m, rfl⟩, hrest⟩ := List.forall_mem_cons.mp hns
    obtain ⟨ms, hms⟩ := ih hrest
    cases ns with
    | nil => exact ⟨m, rfl⟩
    | cons n' ns => exact ⟨m ++ a :: ms, by simp [join_cons_cons, hms, ha]⟩

end Alphabet
end Path

namespace BytePath

variable {p : BytePath}

/-! ## Bytes -/

theorem ofChars_chars (p : BytePath) : ofChars p.chars = p := by
  have hbyte (b : UInt8) : (Char.ofUInt8 b).toUInt8 = b := by
    apply UInt8.toNat_inj.mp
    exact Nat.mod_eq_of_lt b.toNat_lt
  rw [ofChars, chars, List.map_map]
  exact List.map_id'' hbyte p

theorem chars_eq (p : BytePath) : p.chars = p.flatMap fun b => [Char.ofUInt8 b] :=
  List.map_eq_flatMap

theorem alphabet_bytes : Path.Alphabet fun b : UInt8 => [Char.ofUInt8 b] where
  slash := ⟨47, rfl⟩
  whole b := by
    by_cases hb : Char.ofUInt8 b = '/'
    · exact .inl (congrArg ([·]) hb)
    · exact .inr fun hslash => hb (List.mem_singleton.mp hslash).symm

/-! ## Texts -/

/-- The bytes of a path spell a text. -/
def IsText (p : BytePath) : Prop := ∃ s : String, p = Utf8.encode s

theorem text_encode (s : String) : text (Utf8.encode s) = s := by
  rw [text, Utf8.lossy_encode, String.ofList_toList]

/-- Nothing is lost where the path is a text. -/
theorem IsText.encode_text (h : p.IsText) : Utf8.encode p.text = p := by
  obtain ⟨s, rfl⟩ := h
  rw [text_encode]

theorem chars_encode_ofList (s : List Char) :
    chars (Utf8.encode (String.ofList s)) = s.flatMap fun c => chars (String.utf8EncodeChar c) := by
  rw [Utf8.encode_ofList]
  exact List.map_flatMap

theorem isText_iff : p.IsText ↔
    ∃ s : List Char, p.chars = s.flatMap fun c => chars (String.utf8EncodeChar c) := by
  constructor
  · rintro ⟨s, rfl⟩
    refine ⟨s.toList, ?_⟩
    rw [← chars_encode_ofList, String.ofList_toList]
  · rintro ⟨s, hs⟩
    refine ⟨String.ofList s, ?_⟩
    rw [← chars_encode_ofList] at hs
    rw [← ofChars_chars p, hs, ofChars_chars]

theorem alphabet_chars : Path.Alphabet fun c => chars (String.utf8EncodeChar c) where
  slash := ⟨'/', rfl⟩
  whole c := by
    rcases Nat.lt_or_ge c.val.toNat 0x80 with hc | hc
    · rw [Utf8.utf8EncodeChar_of_lt hc]
      exact alphabet_bytes.whole _
    · refine .inr fun hslash => ?_
      obtain ⟨b, hb, hchar⟩ := List.mem_map.mp hslash
      have hle := Utf8.le_of_mem_utf8EncodeChar hc hb
      have hnat : b.toNat = 47 := congrArg (·.val.toNat) hchar
      omega

end BytePath
end LintDesk
