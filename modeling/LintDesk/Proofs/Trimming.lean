import LintDesk.Text.Blank
import LintDesk.Text.Search
import Mathlib.Data.List.DropRight

/-! # Trimmed texts

Trimming takes a text apart into blanks, a text that neither begins nor ends with a blank, and
blanks again. There is only one such text between the blanks, so all that is said of trimming
follows from this.
-/

namespace LintDesk.Text

variable {s t before after : List Char}

/-- A text of blanks only. -/
def Blank (s : List Char) : Prop := ∀ c ∈ s, isBlank c = true

/-- A text that neither begins nor ends with a blank. -/
structure Trimmed (s : List Char) : Prop where
  head : ∀ c ∈ s.head?, isBlank c = false
  last : ∀ c ∈ s.getLast?, isBlank c = false

theorem blank_nil : Blank [] := nofun

theorem Blank.append (hs : Blank s) (ht : Blank t) : Blank (s ++ t) :=
  fun c hc => (List.mem_append.mp hc).elim (hs c) (ht c)

theorem trimChars_eq_rdropWhile (s : List Char) :
    trimChars s = (s.dropWhile isBlank).rdropWhile isBlank := rfl

theorem trimmed_trimChars (s : List Char) : Trimmed (trimChars s) where
  head c hc := by
    -- What is dropped at the end leaves the first character, which is the one behind the blanks.
    obtain ⟨rest, hrest⟩ := List.head?_eq_some_iff.mp hc
    have hprefix : trimChars s <+: s.dropWhile isBlank := List.rdropWhile_prefix isBlank _
    rw [hrest] at hprefix
    obtain ⟨more, hmore⟩ := hprefix
    have hne : s.dropWhile isBlank ≠ [] := by
      rw [← hmore]
      exact List.cons_ne_nil _ _
    have hhead := List.head_dropWhile_not isBlank hne
    simpa only [← hmore, List.cons_append, List.head_cons] using hhead
  last c hc := by
    have hne : trimChars s ≠ [] := by
      rintro hnil
      rw [hnil] at hc
      cases hc
    obtain rfl : (trimChars s).getLast hne = c := by
      rw [List.getLast?_eq_some_getLast hne] at hc
      exact Option.some.inj hc
    exact Bool.not_eq_true _ ▸ List.rdropWhile_last_not isBlank _ hne

theorem exists_trimChars (s : List Char) : ∃ before after, Blank before ∧ Blank after ∧
    s = before ++ trimChars s ++ after := by
  refine ⟨s.takeWhile isBlank, (s.dropWhile isBlank).rtakeWhile isBlank,
    fun c hc => List.mem_takeWhile_imp hc, fun c hc => List.mem_rtakeWhile_imp hc, ?_⟩
  rw [trimChars_eq_rdropWhile, List.append_assoc, List.rdropWhile_append_rtakeWhile,
    List.takeWhile_append_dropWhile]

theorem trimRight_append (hlast : ∀ c ∈ s.getLast?, isBlank c = false) (hafter : Blank after) :
    trimRight (s ++ after) = s := by
  have hblank : ∀ c ∈ after.reverse, isBlank c = true := fun c hc =>
    hafter c (List.mem_reverse.mp hc)
  have hhead : ∀ c ∈ s.reverse.head?, isBlank c = false := fun c hc =>
    hlast c (List.head?_reverse ▸ hc)
  rw [trimRight, List.reverse_append, dropWhile_append_of_stop hblank hhead, List.reverse_reverse]

/-- Trimming finds the text between the blanks. -/
theorem Trimmed.trimChars_append (h : Trimmed s) (hbefore : Blank before) (hafter : Blank after) :
    trimChars (before ++ s ++ after) = s := by
  rw [trimChars, trimLeft, List.append_assoc]
  cases s with
  | nil =>
    rw [List.nil_append, List.dropWhile_eq_nil_iff.mpr (hbefore.append hafter)]
    rfl
  | cons c s =>
    have hhead : ∀ d ∈ (c :: s ++ after).head?, isBlank d = false := h.head
    rw [dropWhile_append_of_stop hbefore hhead, trimRight_append h.last hafter]

theorem trimChars_eq_iff : trimChars s = t ↔
    Trimmed t ∧ ∃ before after, Blank before ∧ Blank after ∧ s = before ++ t ++ after := by
  constructor
  · rintro rfl
    exact ⟨trimmed_trimChars s, exists_trimChars s⟩
  · rintro ⟨h, before, after, hbefore, hafter, rfl⟩
    exact h.trimChars_append hbefore hafter

/-- Blanks around a text make no difference once it is trimmed. -/
theorem trimChars_append (hbefore : Blank before) (hafter : Blank after) (s : List Char) :
    trimChars (before ++ s ++ after) = trimChars s := by
  obtain ⟨before', after', hbefore', hafter', hs⟩ := exists_trimChars s
  refine trimChars_eq_iff.mpr ⟨trimmed_trimChars s, before ++ before', after' ++ after,
    hbefore.append hbefore', hafter'.append hafter, ?_⟩
  calc before ++ s ++ after
      = before ++ (before' ++ trimChars s ++ after') ++ after := by rw [← hs]
    _ = before ++ before' ++ trimChars s ++ (after' ++ after) := by simp only [List.append_assoc]

theorem Trimmed.trimChars_eq (h : Trimmed s) : trimChars s = s := by
  simpa using h.trimChars_append blank_nil blank_nil

@[simp] theorem trimChars_trimChars (s : List Char) : trimChars (trimChars s) = trimChars s :=
  (trimmed_trimChars s).trimChars_eq

theorem trimChars_dropWhile (s : List Char) : trimChars (s.dropWhile isBlank) = trimChars s := by
  have hblank : Blank (s.takeWhile isBlank) := fun c hc => List.mem_takeWhile_imp hc
  rw [← trimChars_append hblank blank_nil, List.takeWhile_append_dropWhile, List.append_nil]

theorem trimChars_append_blank {c : Char} (h : isBlank c = true) (s : List Char) :
    trimChars (s ++ [c]) = trimChars s :=
  trimChars_append blank_nil (fun _ hd => List.mem_singleton.mp hd ▸ h) s

theorem trimmed_cons_append {c d : Char} (hc : isBlank c = false) (hd : isBlank d = false)
    (s : List Char) : Trimmed (c :: (s ++ [d])) where
  head := by
    rintro _ ⟨⟩
    exact hc
  last := by
    rw [← List.cons_append, List.getLast?_concat]
    rintro _ ⟨⟩
    exact hd

theorem trimChars_eq_nil_iff : trimChars s = [] ↔ Blank s := by
  constructor
  · intro h
    obtain ⟨before, after, hbefore, hafter, hs⟩ := exists_trimChars s
    rw [hs, h, List.append_nil]
    exact hbefore.append hafter
  · intro h
    have htrim := trimChars_append h blank_nil []
    rwa [List.append_nil, List.append_nil] at htrim

end LintDesk.Text
