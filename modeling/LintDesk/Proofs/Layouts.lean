import LintDesk.Json.Printer
import LintDesk.Proofs.Spelling

/-! # The two layouts of a document

Both layouts spell the document that they show: on one line, and over several lines at any level of
indentation. The layout on one line is free of control characters, as all of them are escaped.
-/

namespace LintDesk.Json

open LintDesk.Text

/-! ## Integers -/

theorem isDigit_eq (c : Char) : isDigit c = c.isDigit := by
  simp only [isDigit, Char.isDigit, Char.le_def, ge_iff_le]

theorem digitsValue_decimal (n : Nat) : digitsValue (decimal n) = n :=
  Nat.ofDigitChars_toDigits (by decide) (by decide)

/-- Only zero begins with the digit zero. -/
theorem decimal_of_head {n : Nat} (h : (decimal n).head? = some '0') : decimal n = ['0'] := by
  have hdigit : ∀ d < 10, Nat.digitChar d = '0' → d = 0 := by decide
  induction n using Nat.strong_induction_on with
  | _ n ih =>
    rcases Nat.lt_or_ge n 10 with hn | hn
    · rw [decimal, Nat.toDigits_of_lt_base hn] at h ⊢
      rw [hdigit n hn (Option.some.inj h)]
      rfl
    · -- The first digit is the one of a smaller number, which is not zero.
      exfalso
      rw [decimal, Nat.toDigits_of_base_le (by decide) hn,
        List.head?_append_of_ne_nil _ Nat.toDigits_ne_nil] at h
      have hzero := congrArg digitsValue (ih (n / 10) (by omega) h)
      rw [digitsValue_decimal] at hzero
      have : digitsValue ['0'] = 0 := rfl
      omega

def Digits.decimal (n : Nat) : Digits where
  chars := Text.decimal n
  nonempty := Nat.toDigits_ne_nil
  ascii c hc := by
    rw [isDigit_eq]
    exact Nat.isDigit_of_mem_toDigits (by decide) (by decide) hc

/-- An integer, written without fraction and exponent. -/
def Number.ofInt (k : Int) : Number where
  negative := decide (k < 0)
  whole := .decimal k.natAbs
  fraction := none
  exponent := none
  noLeadingZero h := congrArg List.length (decimal_of_head h)

theorem Number.chars_ofInt (k : Int) : (ofInt k).chars = decimalInt k := by
  cases k with
  | ofNat n => simp [chars, sign, ofInt, fractionChars, mark, power, Digits.decimal, decimalInt]
  | negSucc n => simp [chars, sign, ofInt, fractionChars, mark, power, Digits.decimal, decimalInt]

theorem Number.value_ofInt (k : Int) : (ofInt k).value = int k := by
  rw [value, if_pos]
  · have hwhole : digitsValue (ofInt k).whole.chars = k.natAbs := digitsValue_decimal _
    rw [hwhole]
    refine congrArg int ?_
    split
    · next hneg =>
      have : k < 0 := of_decide_eq_true hneg
      omega
    · next hneg =>
      have : ¬k < 0 := of_decide_eq_false (Bool.not_eq_true _ ▸ hneg)
      omega
  · refine ⟨rfl, rfl, ?_⟩
    rintro ⟨hneg, hzero⟩
    have hvalue : k.natAbs = 0 := by
      rw [← digitsValue_decimal k.natAbs]
      exact congrArg digitsValue hzero
    have : k < 0 := of_decide_eq_true hneg
    omega

/-! ## Texts -/

theorem spellsChar_escape (c : Char) : SpellsChar (escape c) c := by
  rw [escape]
  split_ifs with hquote hslash hnewline hreturn htab hback hfeed hcontrol
  · subst hquote
    exact .short rfl
  · subst hslash
    exact .short rfl
  · subst hnewline
    exact .short rfl
  · subst hreturn
    exact .short rfl
  · subst htab
    exact .short rfl
  · obtain rfl : c = '\x08' := Char.toNat_inj.mp hback
    exact .short rfl
  · obtain rfl : c = '\x0c' := Char.toNat_inj.mp hfeed
    exact .short rfl
  · have hnumeral : ∀ n < 0x20,
        numeral? 16 ['0', '0', hexDigit (n / 16), hexDigit (n % 16)] = some n := by decide
    have hvalid : c.toNat.isValidChar := c.valid
    refine .code ⟨rfl, hnumeral _ hcontrol⟩ ?_
    rw [charOf?, if_pos hvalid, Char.ofNat_toNat]
  · exact .plain (Nat.not_lt.mp hcontrol) hquote hslash

theorem spellsText_escape (t : List Char) : SpellsText (t.flatMap escape) t := by
  induction t with
  | nil => exact .nil
  | cons c t ih => exact .cons (spellsChar_escape c) ih

theorem spells_quote (t : String) : Spells (quote t) (str t) := .text (spellsText_escape _)

/-! ## Whole documents -/

/-- A document without an object that has two members of one key, and whose numbers that are no
integers are spelled as numbers. -/
inductive WellFormed : Json → Prop where
  | null : WellFormed null
  | bool (b : Bool) : WellFormed (bool b)
  | int (k : Int) : WellFormed (int k)
  | real {n : Number} {s : String} : n.value = real s → WellFormed (real s)
  | str (s : String) : WellFormed (str s)
  | arr {xs : List Json} : (∀ x ∈ xs, WellFormed x) → WellFormed (arr xs)
  | obj {ms : List (String × Json)} :
      (ms.map (·.1)).Nodup → (∀ m ∈ ms, WellFormed m.2) → WellFormed (obj ms)

theorem Number.chars_of_value_eq_real {n : Number} {s : String} (h : n.value = real s) :
    n.chars = s.toList := by
  rw [value] at h
  split at h
  · cases h
  · rw [← Json.real.inj h, String.toList_ofList]

theorem Spells.indented {a s : List Char} {j : Json} (ha : Blanks a) (h : Spells s j) :
    Spells (a ++ s) j := by
  simpa using Spells.padded ha blanks_nil h

section Lists

variable {f : Json → List Char} {a b gap : List Char}

/-- Items that are spelled by `f`, each behind the blanks `a`, with `b` before the bracket. -/
theorem spells_arr (ha : Blanks a) (hb : Blanks b) {xs : List Json}
    (h : ∀ x ∈ xs, Spells (f x) x) :
    Spells ('[' :: (join [','] (xs.map fun x => a ++ f x) ++ (b ++ [']']))) (arr xs) := by
  have hitems : ∀ p ∈ xs.map fun x => (a ++ f x, x), Spells p.1 p.2 := by
    intro p hp
    obtain ⟨x, hx, rfl⟩ := List.mem_map.mp hp
    exact (h x hx).indented ha
  simpa [Function.comp_def] using Spells.array _ hb hitems

/-- The member of an object whose value is spelled by `f`, behind the blanks `a`. -/
def memberOf (f : Json → List Char) (ha : Blanks a) (gap : List Char) (m : String × Json) :
    Member where
  before := a
  quoted := m.1.toList.flatMap escape
  after := []
  text := gap ++ f m.2
  key := m.1
  value := m.2
  blanks_before := ha
  blanks_after := blanks_nil
  spells_key := spellsText_escape _

theorem chars_memberOf (ha : Blanks a) (m : String × Json) :
    (memberOf f ha gap m).chars = a ++ (quote m.1 ++ ':' :: (gap ++ f m.2)) := by
  simp [Member.chars, memberOf, quote]

theorem spells_obj (ha : Blanks a) (hb : Blanks b) (hgap : Blanks gap) {ms : List (String × Json)}
    (h : ∀ m ∈ ms, Spells (f m.2) m.2) :
    Spells ('\x7b' :: (join [','] (ms.map fun m => a ++ (quote m.1 ++ ':' :: (gap ++ f m.2))) ++
      (b ++ ['\x7d']))) (obj ms) := by
  have hmembers : ∀ m ∈ ms.map (memberOf f ha gap), Spells m.text m.value := by
    intro m hm
    obtain ⟨k, hk, rfl⟩ := List.mem_map.mp hm
    exact (h k hk).indented hgap
  have hentries : ∀ m, ((memberOf f ha gap m).key, (memberOf f ha gap m).value) = m := fun _ => rfl
  have hspells := Spells.object _ hb hmembers
  simpa only [List.map_map, Function.comp_def, chars_memberOf, hentries, List.map_id'] using hspells

end Lists

theorem compactItems_eq (xs : List Json) :
    compactItems xs = (xs.map compactChars).flatMap (',' :: ·) := by
  induction xs with
  | nil => rfl
  | cons x xs ih => simp [compactItems, ih]

theorem compactMembers_eq (ms : List (String × Json)) :
    compactMembers ms =
      (ms.map fun m => quote m.1 ++ ':' :: compactChars m.2).flatMap (',' :: ·) := by
  induction ms with
  | nil => rfl
  | cons m ms ih => simp [compactMembers, ih]

theorem compactChars_arr (xs : List Json) :
    compactChars (arr xs) = '[' :: (join [','] (xs.map compactChars) ++ [']']) := by
  cases xs with
  | nil => rfl
  | cons x xs => simp [compactChars, compactItems_eq, join_cons]

theorem compactChars_obj (ms : List (String × Json)) :
    compactChars (obj ms) =
      '\x7b' :: (join [','] (ms.map fun m => quote m.1 ++ ':' :: compactChars m.2) ++
        ['\x7d']) := by
  cases ms with
  | nil => rfl
  | cons m ms => simp [compactChars, compactMembers_eq, join_cons]

theorem prettyItems_eq (n : Nat) (xs : List Json) :
    prettyItems n xs =
      (xs.map fun x => newline (n + 1) ++ prettyChars (n + 1) x).flatMap (',' :: ·) := by
  induction xs with
  | nil => rfl
  | cons x xs ih => simp [prettyItems, ih]

theorem prettyMembers_eq (n : Nat) (ms : List (String × Json)) :
    prettyMembers n ms =
      (ms.map fun m => newline (n + 1) ++
        (quote m.1 ++ ':' :: ([' '] ++ prettyChars (n + 1) m.2))).flatMap (',' :: ·) := by
  induction ms with
  | nil => rfl
  | cons m ms ih => simp [prettyMembers, ih]

theorem prettyChars_arr (n : Nat) {xs : List Json} (h : xs ≠ []) :
    prettyChars n (arr xs) =
      '[' :: (join [','] (xs.map fun x => newline (n + 1) ++ prettyChars (n + 1) x) ++
        (newline n ++ [']'])) := by
  cases xs with
  | nil => exact absurd rfl h
  | cons x xs => simp [prettyChars, prettyItems_eq, join_cons]

theorem prettyChars_obj (n : Nat) {ms : List (String × Json)} (h : ms ≠ []) :
    prettyChars n (obj ms) =
      '\x7b' :: (join [','] (ms.map fun m => newline (n + 1) ++
        (quote m.1 ++ ':' :: ([' '] ++ prettyChars (n + 1) m.2))) ++ (newline n ++ ['\x7d'])) := by
  cases ms with
  | nil => exact absurd rfl h
  | cons m ms => simp [prettyChars, prettyMembers_eq, join_cons]

theorem blanks_newline (n : Nat) : Blanks (newline n) := by
  intro c hc
  rcases List.mem_cons.mp hc with rfl | hc
  · rfl
  · rw [List.eq_of_mem_replicate hc]
    rfl

theorem spells_printBool (b : Bool) : Spells (printBool b) (bool b) := by
  cases b with
  | false => exact .false
  | true => exact .true

theorem spells_decimalInt (k : Int) : Spells (decimalInt k) (int k) := by
  rw [← Number.chars_ofInt, ← Number.value_ofInt]
  exact .number _

theorem spells_real {n : Number} {s : String} (h : n.value = real s) :
    Spells s.toList (real s) := by
  rw [← h, ← Number.chars_of_value_eq_real h]
  exact .number n

/-- The layout on one line spells the document. -/
theorem WellFormed.spells_compact {j : Json} (h : WellFormed j) : Spells (compactChars j) j := by
  induction h with
  | null => exact .null
  | bool b => exact spells_printBool b
  | int k => exact spells_decimalInt k
  | real h => exact spells_real h
  | str s => exact spells_quote s
  | arr hxs ih =>
    rw [compactChars_arr]
    exact spells_arr blanks_nil blanks_nil ih
  | obj hkeys hms ih =>
    rw [compactChars_obj]
    exact spells_obj blanks_nil blanks_nil blanks_nil ih

/-- The layout over several lines spells the document, at any level of indentation. -/
theorem WellFormed.spells_pretty {j : Json} (h : WellFormed j) (n : Nat) :
    Spells (prettyChars n j) j := by
  have hgap : Blanks [' '] := blanks_singleton rfl
  induction h generalizing n with
  | null => exact .null
  | bool b => exact spells_printBool b
  | int k => exact spells_decimalInt k
  | real h => exact spells_real h
  | str s => exact spells_quote s
  | @arr xs hxs ih =>
    by_cases hnil : xs = []
    · subst hnil
      exact .array [] blanks_nil nofun
    · rw [prettyChars_arr n hnil]
      exact spells_arr (blanks_newline _) (blanks_newline n) fun x hx => ih x hx (n + 1)
  | @obj ms hkeys hms ih =>
    by_cases hnil : ms = []
    · subst hnil
      exact .object [] blanks_nil nofun
    · rw [prettyChars_obj n hnil]
      exact spells_obj (blanks_newline _) (blanks_newline n) hgap fun m hm => ih m hm (n + 1)

/-! ## Control characters -/

/-- There is no control character below U+0020. -/
def Plain (s : List Char) : Prop := ∀ c ∈ s, 0x20 ≤ c.toNat

instance (s : List Char) : Decidable (Plain s) :=
  decidable_of_iff (s.all fun c => 0x20 ≤ c.toNat) (by simp [Plain])

theorem Plain.append {s t : List Char} (hs : Plain s) (ht : Plain t) : Plain (s ++ t) :=
  List.forall_mem_append.mpr ⟨hs, ht⟩

theorem Plain.cons {c : Char} {s : List Char} (hc : 0x20 ≤ c.toNat) (hs : Plain s) :
    Plain (c :: s) := List.forall_mem_cons.mpr ⟨hc, hs⟩

theorem plain_nil : Plain [] := List.forall_mem_nil _

theorem Plain.join {sep : List Char} (hsep : Plain sep) {ps : List (List Char)}
    (h : ∀ p ∈ ps, Plain p) : Plain (join sep ps) := by
  cases ps with
  | nil => exact plain_nil
  | cons p ps =>
    obtain ⟨hp, hps⟩ := List.forall_mem_cons.mp h
    rw [join_cons]
    refine hp.append fun c hc => ?_
    obtain ⟨q, hq, hmem⟩ := List.mem_flatMap.mp hc
    exact hsep.append (hps q hq) c hmem

theorem Digits.plain (d : Digits) : Plain d.chars := by
  intro c hc
  have hdigit := d.ascii c hc
  simp only [isDigit, Bool.and_eq_true, decide_eq_true_eq, Char.le_def,
    UInt32.le_iff_toNat_le] at hdigit
  exact Nat.le_trans (by decide) hdigit.1

theorem Number.plain (n : Number) : Plain n.chars := by
  have hmarks : ∀ m ∈ marks, Plain m := by decide
  have hsign : Plain n.sign := by
    rw [sign]
    split
    · decide
    · exact plain_nil
  have hfraction : Plain n.fractionChars := by
    rw [fractionChars]
    cases n.fraction with
    | none => exact plain_nil
    | some d => exact d.plain.cons (by decide)
  have hexponent : Plain n.mark ∧ Plain n.power := by
    rw [mark, power]
    cases n.exponent with
    | none => exact ⟨plain_nil, plain_nil⟩
    | some e => exact ⟨hmarks _ e.1.2, e.2.plain⟩
  exact (((hsign.append n.whole.plain).append hfraction).append hexponent.1).append hexponent.2

theorem plain_escape (c : Char) : Plain (escape c) := by
  have hcode : ∀ n < 0x20, Plain ['\\', 'u', '0', '0', hexDigit (n / 16), hexDigit (n % 16)] := by
    decide
  rw [escape]
  split_ifs with _ _ _ _ _ _ _ hcontrol
  · decide
  · decide
  · decide
  · decide
  · decide
  · decide
  · decide
  · exact hcode _ hcontrol
  · exact plain_nil.cons (Nat.not_lt.mp hcontrol)

theorem plain_quote (s : String) : Plain (quote s) := by
  have hchars : Plain (s.toList.flatMap escape) := by
    intro c hc
    obtain ⟨d, -, hd⟩ := List.mem_flatMap.mp hc
    exact plain_escape d c hd
  exact (hchars.append (by decide)).cons (by decide)

/-- The layout on one line has no line breaks, nor any other control character. -/
theorem WellFormed.plain_compact {j : Json} (h : WellFormed j) : Plain (compactChars j) := by
  induction h with
  | null => decide
  | bool b => cases b <;> decide
  | int k =>
    rw [compactChars, ← Number.chars_ofInt]
    exact Number.plain _
  | real h =>
    rw [compactChars, ← Number.chars_of_value_eq_real h]
    exact Number.plain _
  | str s => exact plain_quote s
  | @arr xs hxs ih =>
    have hitems : ∀ p ∈ xs.map compactChars, Plain p := by
      intro p hp
      obtain ⟨x, hx, rfl⟩ := List.mem_map.mp hp
      exact ih x hx
    have hcomma : Plain [','] := by decide
    rw [compactChars_arr]
    exact ((hcomma.join hitems).append (by decide)).cons (by decide)
  | @obj ms hkeys hms ih =>
    have hmembers : ∀ p ∈ ms.map fun m => quote m.1 ++ ':' :: compactChars m.2, Plain p := by
      intro p hp
      obtain ⟨m, hm, rfl⟩ := List.mem_map.mp hp
      exact (plain_quote m.1).append ((ih m hm).cons (by decide))
    have hcomma : Plain [','] := by decide
    rw [compactChars_obj]
    exact ((hcomma.join hmembers).append (by decide)).cons (by decide)

end LintDesk.Json
