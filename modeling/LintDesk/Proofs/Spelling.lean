import Mathlib.Data.List.DropRight
import LintDesk.Json.Reader
import LintDesk.Text.Search

/-! # The spellings of a document

A document can be spelled in many ways: there may be blanks between its parts, and the characters
of a text may be escaped. The grammar here says which texts spell which documents, and the reader
finds the document that a text spells. So no text spells two documents.
-/

namespace LintDesk.Json

open LintDesk.Text

/-! ## The grammar -/

/-- Blanks that may stand between the parts of a document. -/
def Blanks (s : List Char) : Prop := ∀ c ∈ s, isSpace c = true

theorem blanks_nil : Blanks [] := List.forall_mem_nil _

theorem blanks_singleton {c : Char} (h : isSpace c = true) : Blanks [c] :=
  List.forall_mem_singleton.mpr h

/-- Four hexadecimal digits, of either case, and the number that they denote. -/
structure Hex4 (s : List Char) (n : Nat) : Prop where
  length_eq : s.length = 4
  denotes : numeral? 16 s = some n

/-- The spellings of a character between quotes. A character beyond U+FFFF may be escaped as the
two surrogates that stand for it. -/
inductive SpellsChar : List Char → Char → Prop where
  | plain {c : Char} : 0x20 ≤ c.toNat → c ≠ '"' → c ≠ '\\' → SpellsChar [c] c
  | short {e c : Char} : shortEscape? e = some c → SpellsChar ['\\', e] c
  | code {s : List Char} {n : Nat} {c : Char} :
      Hex4 s n → charOf? n = some c → SpellsChar ('\\' :: 'u' :: s) c
  | surrogates {s t : List Char} {high low : Nat} :
      Hex4 s high → 0xD800 ≤ high → high < 0xDC00 →
      Hex4 t low → 0xDC00 ≤ low → low < 0xE000 →
      SpellsChar ('\\' :: 'u' :: (s ++ '\\' :: 'u' :: t))
        (Char.ofNat (0x10000 + (high - 0xD800) * 0x400 + (low - 0xDC00)))

/-- The spellings of a text between quotes, one character after the other. -/
inductive SpellsText : List Char → List Char → Prop where
  | nil : SpellsText [] []
  | cons {s t u : List Char} {c : Char} :
      SpellsChar s c → SpellsText t u → SpellsText (s ++ t) (c :: u)

/-- A row of decimal digits. -/
structure Digits where
  chars : List Char
  nonempty : chars ≠ []
  ascii : ∀ c ∈ chars, isDigit c = true

/-- What an exponent may begin with: a letter, and maybe a sign. -/
def marks : List (List Char) :=
  [['e', '+'], ['e', '-'], ['e'], ['E', '+'], ['E', '-'], ['E']]

/-- A number as it is written. -/
structure Number where
  negative : Bool
  whole : Digits
  fraction : Option Digits
  exponent : Option ({ m : List Char // m ∈ marks } × Digits)
  noLeadingZero : whole.chars.head? = some '0' → whole.chars.length = 1

namespace Number

def sign (n : Number) : List Char := if n.negative then ['-'] else []

def fractionChars (n : Number) : List Char := n.fraction.elim [] ('.' :: ·.chars)

def mark (n : Number) : List Char := n.exponent.elim [] (·.1)

def power (n : Number) : List Char := n.exponent.elim [] (·.2.chars)

def chars (n : Number) : List Char :=
  n.sign ++ n.whole.chars ++ n.fractionChars ++ n.mark ++ n.power

/-- An integer, unless there is a fraction or an exponent, or the number is minus zero. -/
def value (n : Number) : Json :=
  if n.fraction = none ∧ n.exponent = none ∧ ¬(n.negative ∧ n.whole.chars = ['0']) then
    int (if n.negative then -(digitsValue n.whole.chars) else digitsValue n.whole.chars)
  else real (String.ofList n.chars)

end Number

/-- A member of an object as it is written: a key, a colon and the spelling of a value. -/
structure Member where
  before : List Char
  quoted : List Char
  after : List Char
  text : List Char
  key : String
  value : Json
  blanks_before : Blanks before
  blanks_after : Blanks after
  spells_key : SpellsText quoted key.toList

def Member.chars (m : Member) : List Char :=
  m.before ++ '"' :: (m.quoted ++ '"' :: (m.after ++ ':' :: m.text))

/-- The spellings of a document. -/
inductive Spells : List Char → Json → Prop where
  | padded {a s b : List Char} {j : Json} :
      Blanks a → Blanks b → Spells s j → Spells (a ++ (s ++ b)) j
  | null : Spells "null".toList null
  | true : Spells "true".toList (bool true)
  | false : Spells "false".toList (bool false)
  | number (n : Number) : Spells n.chars n.value
  | text {s : List Char} {t : String} : SpellsText s t.toList → Spells ('"' :: (s ++ ['"'])) (str t)
  | array {b : List Char} (items : List (List Char × Json)) :
      Blanks b → (∀ p ∈ items, Spells p.1 p.2) →
      Spells ('[' :: (join [','] (items.map (·.1)) ++ (b ++ [']']))) (arr (items.map (·.2)))
  | object {b : List Char} (members : List Member) :
      Blanks b → (∀ m ∈ members, Spells m.text m.value) →
      Spells ('\x7b' :: (join [','] (members.map (·.chars)) ++ (b ++ ['\x7d'])))
        (obj (members.map fun m => (m.key, m.value)))

/-! ## Blanks -/

theorem skipSpace_append {b : List Char} (h : Blanks b) (s : List Char) :
    skipSpace (b ++ s) = skipSpace s := by
  rw [skipSpace, skipSpace, List.dropWhile_append_of_pos h]

theorem skipSpace_skipSpace (s : List Char) : skipSpace (skipSpace s) = skipSpace s :=
  List.dropWhile_idempotent ..

theorem skipSpace_cons {c : Char} (h : isSpace c = false) (s : List Char) :
    skipSpace (c :: s) = c :: s := List.dropWhile_cons_of_neg (by simp [h])

/-! ## Texts -/

theorem hex4?_append {s : List Char} {n : Nat} (h : Hex4 s n) (rest : List Char) :
    hex4? (s ++ rest) = some (n, rest) := by
  obtain ⟨a, b, c, d, rfl⟩ : ∃ a b c d, s = [a, b, c, d] := by
    have := h.length_eq
    match s with
    | [a, b, c, d] => exact ⟨a, b, c, d, rfl⟩
  have hn := h.denotes
  simp [hex4?, hn]

theorem unicodeEscape?_code {s : List Char} {n : Nat} {c : Char} (h : Hex4 s n)
    (hc : charOf? n = some c) (rest : List Char) :
    unicodeEscape? (s ++ rest) = some (c, rest) := by
  have hlow : 0xD800 ≤ n → ¬n < 0xDC00 := by
    obtain ⟨hvalid, -⟩ := Option.ite_none_right_eq_some.mp hc
    rw [Nat.isValidChar] at hvalid
    omega
  simpa [unicodeEscape?, hex4?_append h, hc] using fun hge hlt => absurd hlt (hlow hge)

theorem unicodeEscape?_surrogates {s t : List Char} {high low : Nat} (hs : Hex4 s high)
    (hhigh : 0xD800 ≤ high ∧ high < 0xDC00) (ht : Hex4 t low)
    (hlow : 0xDC00 ≤ low ∧ low < 0xE000) (rest : List Char) :
    unicodeEscape? (s ++ '\\' :: 'u' :: (t ++ rest)) =
      some (Char.ofNat (0x10000 + (high - 0xD800) * 0x400 + (low - 0xDC00)), rest) := by
  simp [unicodeEscape?, hex4?_append hs, hhigh, hex4?_append ht, hlow]

theorem text?_plain {c : Char} (hc : 0x20 ≤ c.toNat) (hquote : c ≠ '"') (hslash : c ≠ '\\')
    (n : Nat) (seen s : List Char) : text? (n + 1) seen (c :: s) = text? n (c :: seen) s := by
  rw [text?]
  · simp [hslash, Nat.not_lt.mpr hc]
  · simpa using hquote
  · simp [hslash]
  · simp [hslash]

theorem text?_short {e c : Char} (h : shortEscape? e = some c) (n : Nat) (seen s : List Char) :
    text? (n + 1) seen ('\\' :: e :: s) = text? n (c :: seen) s := by
  have hu : e ≠ 'u' := by
    rintro rfl
    cases h
  rw [text?]
  · simp [h]
  · simpa using hu

/-- One character is read at its spelling. -/
theorem text?_char {s : List Char} {c : Char} (h : SpellsChar s c) (n : Nat)
    (seen rest : List Char) : text? (n + 1) seen (s ++ rest) = text? n (c :: seen) rest := by
  cases h with
  | plain hc hquote hslash => exact text?_plain hc hquote hslash n seen rest
  | short h => exact text?_short h n seen rest
  | code h hc =>
    rw [List.cons_append, List.cons_append, text?, unicodeEscape?_code h hc]
    rfl
  | surrogates hs hge hlt ht hge' hlt' =>
    rw [List.cons_append, List.cons_append, text?, List.append_assoc, List.cons_append,
      List.cons_append, unicodeEscape?_surrogates hs ⟨hge, hlt⟩ ht ⟨hge', hlt'⟩]
    rfl

theorem SpellsChar.length_pos {s : List Char} {c : Char} (h : SpellsChar s c) : 0 < s.length := by
  cases h <;> simp

theorem text?_append {s t : List Char} (h : SpellsText s t) {n : Nat} (hn : s.length < n)
    (seen rest : List Char) :
    text? n seen (s ++ '"' :: rest) = some (String.ofList (seen.reverse ++ t), rest) := by
  induction h generalizing n seen with
  | nil =>
    obtain ⟨n, rfl⟩ := Nat.exists_eq_succ_of_ne_zero (Nat.ne_of_gt hn)
    rw [List.nil_append, text?, List.append_nil]
  | cons hc ht ih =>
    have := hc.length_pos
    rw [List.length_append] at hn
    obtain ⟨n, rfl⟩ := Nat.exists_eq_succ_of_ne_zero (Nat.ne_zero_of_lt hn)
    rw [List.append_assoc, text?_char hc, ih (by omega)]
    simp

/-! ## Numbers -/

/-- No digit stands at the front. -/
def NoDigit (s : List Char) : Prop := ∀ c ∈ s.head?, isDigit c = false

/-- What stands here does not go on with a number before it. -/
structure Stops (s : List Char) : Prop where
  noDigit : NoDigit s
  noPoint : '.' ∉ s.head?
  noMark : ∀ c ∈ s.head?, c ≠ 'e' ∧ c ≠ 'E'

namespace Digits

variable (d : Digits) {s : List Char}

theorem exists_cons : ∃ c cs, d.chars = c :: cs ∧ isDigit c = Bool.true := by
  obtain ⟨c, cs, hcons⟩ := List.exists_cons_of_ne_nil d.nonempty
  exact ⟨c, cs, hcons, d.ascii c (hcons ▸ List.mem_cons_self)⟩

theorem takeWhile_append (h : NoDigit s) : (d.chars ++ s).takeWhile isDigit = d.chars :=
  Text.takeWhile_append_of_stop d.ascii h

theorem dropWhile_append (h : NoDigit s) : (d.chars ++ s).dropWhile isDigit = s :=
  Text.dropWhile_append_of_stop d.ascii h

theorem takeSign_append : takeSign (d.chars ++ s) = ([], d.chars ++ s) := by
  obtain ⟨c, cs, hcons, hc⟩ := d.exists_cons
  rw [hcons, List.cons_append, takeSign]
  rintro t ht
  obtain ⟨rfl, -⟩ := List.cons.inj ht
  cases hc

theorem takeMark_append {m : List Char} (hm : m ∈ marks) :
    takeMark (m ++ (d.chars ++ s)) = (m, d.chars ++ s) := by
  obtain ⟨c, cs, hcons, hc⟩ := d.exists_cons
  have hplus : c ≠ '+' := by
    rintro rfl
    cases hc
  have hminus : c ≠ '-' := by
    rintro rfl
    cases hc
  rw [hcons]
  simp only [marks, List.mem_cons, List.not_mem_nil, or_false] at hm
  rcases hm with rfl | rfl | rfl | rfl | rfl | rfl <;> simp [takeMark, hplus, hminus]

end Digits

theorem takeFraction_eq {s : List Char} (h : '.' ∉ s.head?) : takeFraction s = ([], s) := by
  rw [takeFraction]
  rintro t rfl
  exact h rfl

theorem takeMark_eq {s : List Char} (h : ∀ c ∈ s.head?, c ≠ 'e' ∧ c ≠ 'E') :
    takeMark s = ([], s) := by
  cases s with
  | nil => rfl
  | cons c s =>
    obtain ⟨hlow, hup⟩ := h c rfl
    rw [takeMark] <;> simp [hlow, hup]

theorem ne_nil_of_mem_marks {m : List Char} (hm : m ∈ marks) : m ≠ [] := by
  rintro rfl
  exact absurd hm (by decide)

theorem head_of_mem_marks {m : List Char} (hm : m ∈ marks) (s : List Char) :
    ∀ c ∈ (m ++ s).head?, isDigit c = Bool.false ∧ c ≠ '.' := by
  have hall : ∀ m ∈ marks, ∃ c t, m = c :: t ∧ isDigit c = Bool.false ∧ c ≠ '.' := by
    simp [marks]
    decide
  obtain ⟨c, t, rfl, hc⟩ := hall m hm
  rintro d hd
  obtain rfl := Option.some.inj hd
  exact hc

namespace Number

variable (n : Number) {rest : List Char}

theorem takeSign_eq (s : List Char) :
    takeSign (n.sign ++ (n.whole.chars ++ s)) = (n.sign, n.whole.chars ++ s) := by
  rw [sign]
  split
  · rfl
  · exact n.whole.takeSign_append

/-- What follows the whole part and the fraction. -/
theorem head_exponent (h : Stops rest) :
    ∀ c ∈ (n.mark ++ (n.power ++ rest)).head?, isDigit c = Bool.false ∧ c ≠ '.' := by
  rw [mark, power]
  cases n.exponent with
  | none =>
    intro c hc
    refine ⟨h.noDigit c hc, ?_⟩
    rintro rfl
    exact h.noPoint hc
  | some e => exact head_of_mem_marks e.1.2 _

theorem takeFraction_append {s : List Char}
    (h : ∀ c ∈ s.head?, isDigit c = Bool.false ∧ c ≠ '.') :
    takeFraction (n.fractionChars ++ s) = (n.fractionChars, s) := by
  rw [fractionChars]
  cases n.fraction with
  | none => exact takeFraction_eq fun hc => (h '.' hc).2 rfl
  | some d =>
    have hs : NoDigit s := fun c hc => (h c hc).1
    rw [Option.elim_some, List.cons_append, takeFraction, d.takeWhile_append hs,
      d.dropWhile_append hs]

theorem takeExponent_append (h : Stops rest) :
    takeMark (n.mark ++ (n.power ++ rest)) = (n.mark, n.power ++ rest) ∧
      (if n.mark.isEmpty then ([], n.power ++ rest)
        else ((n.power ++ rest).takeWhile isDigit, (n.power ++ rest).dropWhile isDigit)) =
        (n.power, rest) := by
  rw [mark, power]
  cases n.exponent with
  | none => exact ⟨takeMark_eq h.noMark, rfl⟩
  | some e =>
    obtain ⟨⟨m, hm⟩, d⟩ := e
    refine ⟨d.takeMark_append hm, ?_⟩
    rw [Option.elim_some, Option.elim_some, if_neg (by simpa using ne_nil_of_mem_marks hm),
      d.takeWhile_append h.noDigit, d.dropWhile_append h.noDigit]

theorem noDigit_fraction {s : List Char} (h : ∀ c ∈ s.head?, isDigit c = Bool.false ∧ c ≠ '.') :
    NoDigit (n.fractionChars ++ s) := by
  rw [fractionChars]
  cases n.fraction with
  | none => exact fun c hc => (h c hc).1
  | some d =>
    rintro c hc
    obtain rfl := Option.some.inj hc
    rfl

theorem isEmpty_fractionChars : n.fractionChars.isEmpty = n.fraction.isNone := by
  rw [fractionChars]
  cases n.fraction <;> rfl

theorem isEmpty_mark : n.mark.isEmpty = n.exponent.isNone := by
  rw [mark]
  cases n.exponent with
  | none => rfl
  | some e => simpa using ne_nil_of_mem_marks e.1.2

theorem fractionChars_ne_point : n.fractionChars ≠ ['.'] := by
  rw [fractionChars]
  cases n.fraction with
  | none => exact nofun
  | some d => simpa using d.nonempty

theorem isEmpty_power (h : n.exponent.isNone = Bool.false) : n.power.isEmpty = Bool.false := by
  rw [power]
  cases hexp : n.exponent with
  | none => simp [hexp] at h
  | some e => simpa using e.2.nonempty

theorem isInteger_eq :
    (n.fractionChars.isEmpty && n.mark.isEmpty && !(n.sign == ['-'] && n.whole.chars == ['0'])) =
      decide (n.fraction = none ∧ n.exponent = none ∧
        ¬(n.negative ∧ n.whole.chars = ['0'])) := by
  rw [n.isEmpty_fractionChars, n.isEmpty_mark, sign, Bool.eq_iff_iff]
  cases n.negative <;> simp [and_assoc]

theorem number?_append (h : Stops rest) :
    number? (n.chars ++ rest) = some (n.value, rest) := by
  have htail := n.head_exponent h
  obtain ⟨hmark, hpower⟩ := n.takeExponent_append h
  have hwhole := n.noDigit_fraction htail
  have hleading : (n.whole.chars.isEmpty ||
      (n.whole.chars.head? == some '0' && n.whole.chars.length ≠ 1)) = Bool.false := by
    have := n.noLeadingZero
    simpa [n.whole.nonempty] using this
  have hexponent : (!n.mark.isEmpty && n.power.isEmpty) = Bool.false := by
    rw [n.isEmpty_mark]
    cases hexp : n.exponent.isNone with
    | true => rfl
    | false => simp [n.isEmpty_power hexp]
  simp only [chars, List.append_assoc, number?, n.takeSign_eq, n.whole.takeWhile_append hwhole,
    n.whole.dropWhile_append hwhole, n.takeFraction_append htail, hmark, hpower, hleading,
    hexponent]
  rw [if_neg Bool.false_ne_true, if_neg (by simpa using n.fractionChars_ne_point),
    if_neg Bool.false_ne_true, n.isInteger_eq]
  simp only [value, chars, sign]
  grind

end Number

/-! ## Values -/

theorem Stops.of_cons {c : Char} (h : isDigit c = Bool.false ∧ c ≠ '.' ∧ c ≠ 'e' ∧ c ≠ 'E')
    (s : List Char) : Stops (c :: s) := by
  constructor
  · rintro d hd
    obtain rfl := Option.some.inj hd
    exact h.1
  · intro hd
    exact h.2.1 (Option.some.inj hd)
  · rintro d hd
    obtain rfl := Option.some.inj hd
    exact h.2.2

theorem Stops.append {b s : List Char} (hb : Blanks b) (h : Stops s) : Stops (b ++ s) := by
  cases b with
  | nil => exact h
  | cons c b =>
    have hc := hb c List.mem_cons_self
    simp only [isSpace, Bool.or_eq_true, beq_iff_eq] at hc
    refine Stops.of_cons ?_ _
    rcases hc with ((rfl | rfl) | rfl) | rfl <;> decide

theorem Stops.nil : Stops [] := ⟨nofun, nofun, nofun⟩

/-- With enough fuel the value is read at the text, whatever blanks there are around it. -/
def Reads (s : List Char) (j : Json) : Prop :=
  ∀ n rest, 2 * s.length ≤ n → Stops rest → ∃ left,
    value? n (skipSpace (s ++ rest)) = some (j, left) ∧ skipSpace left = skipSpace rest

theorem Reads.of_cons {c : Char} {s : List Char} {j : Json} (hspace : isSpace c = Bool.false)
    (h : ∀ n rest, 2 * s.length < n → Stops rest →
      value? (n + 1) (c :: (s ++ rest)) = some (j, rest)) : Reads (c :: s) j := by
  intro n rest hn hstops
  rw [List.length_cons] at hn
  obtain ⟨n, rfl⟩ := Nat.exists_eq_succ_of_ne_zero (show n ≠ 0 by omega)
  refine ⟨rest, ?_, rfl⟩
  rw [List.cons_append, skipSpace_cons hspace]
  exact h n rest (by omega) hstops

/-- The spelling of a value does not look like the end of a list. -/
def Begins (s : List Char) : Prop := ∀ rest t, skipSpace (s ++ rest) ≠ ']' :: t

theorem Begins.of_cons {c : Char} {s : List Char} (hspace : isSpace c = Bool.false)
    (hc : c ≠ ']') : Begins (c :: s) := by
  intro rest t h
  rw [List.cons_append, skipSpace_cons hspace] at h
  exact hc (List.cons.inj h).1

theorem Number.exists_cons (n : Number) :
    ∃ c s, n.chars = c :: s ∧ (c = '-' ∨ isDigit c = Bool.true) := by
  obtain ⟨c, cs, hcons, hc⟩ := n.whole.exists_cons
  rw [chars, sign, hcons]
  split
  · exact ⟨_, _, rfl, .inl rfl⟩
  · exact ⟨_, _, rfl, .inr hc⟩

theorem isSpace_of_isDigit {c : Char} (h : isDigit c = Bool.true) : isSpace c = Bool.false := by
  rw [← Bool.not_eq_true, isSpace]
  simp only [Bool.or_eq_true, beq_iff_eq]
  rintro (((rfl | rfl) | rfl) | rfl) <;> cases h

theorem Spells.begins {s : List Char} {j : Json} (h : Spells s j) : Begins s := by
  induction h with
  | @padded a s b j ha hb hs ih =>
    intro rest t
    rw [List.append_assoc, skipSpace_append ha, List.append_assoc]
    exact ih (b ++ rest) t
  | null => exact .of_cons rfl (by decide)
  | true => exact .of_cons rfl (by decide)
  | false => exact .of_cons rfl (by decide)
  | number n =>
    obtain ⟨c, s, hcons, hc⟩ := n.exists_cons
    rw [hcons]
    rcases hc with rfl | hc
    · exact .of_cons rfl (by decide)
    · refine .of_cons (isSpace_of_isDigit hc) ?_
      rintro rfl
      cases hc
  | text h => exact .of_cons rfl (by decide)
  | array items hb hitems ih => exact .of_cons rfl (by decide)
  | object members hb hmembers ih => exact .of_cons rfl (by decide)

theorem items?_skipSpace (n : Nat) (s : List Char) : items? n (skipSpace s) = items? n s := by
  cases n with
  | zero => rfl
  | succ n => rw [items?, items?, skipSpace_skipSpace]

theorem members?_skipSpace (n : Nat) (s : List Char) : members? n (skipSpace s) = members? n s := by
  cases n with
  | zero => rfl
  | succ n => rw [members?, members?, skipSpace_skipSpace]

/-- What becomes of an item once its value has been read. -/
theorem items?_step {n : Nat} {s left t : List Char} {x : Json}
    (hvalue : value? n (skipSpace s) = some (x, left)) :
    (skipSpace left = ',' :: t →
      items? (n + 1) s = (items? n t).map fun r => (x :: r.1, r.2)) ∧
    (skipSpace left = ']' :: t → items? (n + 1) s = some ([x], t)) := by
  constructor
  · intro hleft
    simp only [items?, hvalue, Option.bind_eq_bind, Option.bind_some, hleft]
    cases items? n t <;> rfl
  · intro hleft
    simp only [items?, hvalue, Option.bind_eq_bind, Option.bind_some, hleft]

/-- The items of a list are read one after the other. -/
theorem items?_append {b : List Char} (hb : Blanks b) {p : List Char × Json}
    {ps : List (List Char × Json)} (h : ∀ q ∈ p :: ps, Reads q.1 q.2) {n : Nat}
    (hn : 2 * (join [','] ((p :: ps).map (·.1))).length < n) (rest : List Char) :
    items? n (join [','] ((p :: ps).map (·.1)) ++ (b ++ ']' :: rest)) =
      some ((p :: ps).map (·.2), rest) := by
  induction ps generalizing p n with
  | nil =>
    obtain ⟨n, rfl⟩ := Nat.exists_eq_succ_of_ne_zero (Nat.ne_zero_of_lt hn)
    have hstops : Stops (b ++ ']' :: rest) := (Stops.of_cons (by decide) rest).append hb
    obtain ⟨left, hvalue, hleft⟩ :=
      h p List.mem_cons_self n _ (Nat.le_of_lt_succ hn) hstops
    rw [skipSpace_append hb, skipSpace_cons rfl] at hleft
    exact (items?_step hvalue).2 hleft
  | cons q ps ih =>
    obtain ⟨n, rfl⟩ := Nat.exists_eq_succ_of_ne_zero (Nat.ne_zero_of_lt hn)
    obtain ⟨hp, hps⟩ := List.forall_mem_cons.mp h
    set t := join [','] ((q :: ps).map (·.1)) ++ (b ++ ']' :: rest) with ht
    have hjoin : join [','] ((p :: q :: ps).map (·.1)) =
        p.1 ++ ([','] ++ join [','] ((q :: ps).map (·.1))) := join_cons_cons ..
    rw [hjoin, List.length_append, List.length_append, List.length_singleton] at hn
    obtain ⟨left, hvalue, hleft⟩ := hp n (',' :: t) (by omega) (.of_cons (by decide) _)
    have hrest : items? n t = some ((q :: ps).map (·.2), rest) := ih hps (by omega)
    rw [skipSpace_cons rfl] at hleft
    rw [hjoin, List.append_assoc, List.append_assoc, List.singleton_append,
      (items?_step hvalue).1 hleft, hrest]
    rfl

/-- What becomes of a member once its value has been read. -/
theorem members?_step {m : Member} {n : Nat} {rest left t : List Char} (hn : m.quoted.length < n)
    (hvalue : value? n (skipSpace (m.text ++ rest)) = some (m.value, left)) :
    (skipSpace left = ',' :: t → members? (n + 1) (m.chars ++ rest) =
      (members? n t).map fun r => ((m.key, m.value) :: r.1, r.2)) ∧
    (skipSpace left = '\x7d' :: t →
      members? (n + 1) (m.chars ++ rest) = some ([(m.key, m.value)], t)) := by
  have hkey := text?_append m.spells_key hn [] (m.after ++ ':' :: (m.text ++ rest))
  rw [List.reverse_nil, List.nil_append, String.ofList_toList] at hkey
  have hquote (s : List Char) : skipSpace ('"' :: s) = '"' :: s := skipSpace_cons rfl s
  have hcolon (s : List Char) : skipSpace (':' :: s) = ':' :: s := skipSpace_cons rfl s
  simp only [Member.chars, List.append_assoc, List.cons_append, members?,
    skipSpace_append m.blanks_before, skipSpace_append m.blanks_after, hquote, hcolon, hkey,
    Option.bind_eq_bind, Option.bind_some, hvalue]
  constructor
  · intro hleft
    simp only [hleft]
    cases members? n t <;> rfl
  · intro hleft
    simp only [hleft]

/-- The members of an object are read one after the other. -/
theorem members?_append {b : List Char} (hb : Blanks b) {m : Member} {ms : List Member}
    (h : ∀ k ∈ m :: ms, Reads k.text k.value) {n : Nat}
    (hn : 2 * (join [','] ((m :: ms).map (·.chars))).length < n) (rest : List Char) :
    members? n (join [','] ((m :: ms).map (·.chars)) ++ (b ++ '\x7d' :: rest)) =
      some ((m :: ms).map fun m => (m.key, m.value), rest) := by
  have hchars (m : Member) : m.quoted.length + m.text.length < m.chars.length := by
    simp only [Member.chars, List.length_append, List.length_cons]
    omega
  induction ms generalizing m n with
  | nil =>
    obtain ⟨n, rfl⟩ := Nat.exists_eq_succ_of_ne_zero (Nat.ne_zero_of_lt hn)
    have hstops : Stops (b ++ '\x7d' :: rest) := (Stops.of_cons (by decide) rest).append hb
    have := hchars m
    rw [List.map_cons, List.map_nil, join] at hn ⊢
    obtain ⟨left, hvalue, hleft⟩ := h m List.mem_cons_self n _ (by omega) hstops
    rw [skipSpace_append hb, skipSpace_cons rfl] at hleft
    exact (members?_step (by omega) hvalue).2 hleft
  | cons k ms ih =>
    obtain ⟨n, rfl⟩ := Nat.exists_eq_succ_of_ne_zero (Nat.ne_zero_of_lt hn)
    obtain ⟨hm, hms⟩ := List.forall_mem_cons.mp h
    set t := join [','] ((k :: ms).map (·.chars)) ++ (b ++ '\x7d' :: rest) with ht
    have hjoin : join [','] ((m :: k :: ms).map (·.chars)) =
        m.chars ++ ([','] ++ join [','] ((k :: ms).map (·.chars))) := join_cons_cons ..
    rw [hjoin, List.length_append, List.length_append, List.length_singleton] at hn
    have := hchars m
    obtain ⟨left, hvalue, hleft⟩ := hm n (',' :: t) (by omega) (.of_cons (by decide) _)
    have hrest : members? n t = some ((k :: ms).map fun m => (m.key, m.value), rest) :=
      ih hms (by omega)
    rw [skipSpace_cons rfl] at hleft
    rw [hjoin, List.append_assoc, List.append_assoc, List.singleton_append,
      (members?_step (by omega) hvalue).1 hleft, hrest]
    rfl

theorem value?_number {c : Char} (h : c = '-' ∨ isDigit c = Bool.true) (n : Nat)
    (s : List Char) : value? (n + 1) (c :: s) = number? (c :: s) := by
  have hother : c ≠ 'n' ∧ c ≠ 't' ∧ c ≠ 'f' ∧ c ≠ '"' ∧ c ≠ '[' ∧ c ≠ '\x7b' := by
    rcases h with rfl | h
    · decide
    · refine ⟨?_, ?_, ?_, ?_, ?_, ?_⟩ <;> (rintro rfl; cases h)
  rw [value?] <;> simp [hother]

theorem value?_list {n : Nat} {s left : List Char} {xs : List Json}
    (hs : ∀ t, skipSpace s ≠ ']' :: t) (hitems : items? n s = some (xs, left)) :
    value? (n + 1) ('[' :: s) = some (arr xs, left) := by
  rw [← items?_skipSpace] at hitems
  rw [value?]
  split
  · next t ht => exact absurd ht (hs t)
  · rw [hitems]
    rfl

theorem value?_record {n : Nat} {s left : List Char} {ms : List (String × Json)}
    (hs : ∀ t, skipSpace s ≠ '\x7d' :: t) (hmembers : members? n s = some (ms, left)) :
    value? (n + 1) ('\x7b' :: s) = some (obj ms, left) := by
  rw [← members?_skipSpace] at hmembers
  rw [value?]
  split
  · next t ht => exact absurd ht (hs t)
  · rw [hmembers]
    rfl

theorem value?_array {items : List (List Char × Json)} {b : List Char} (hb : Blanks b)
    (hreads : ∀ p ∈ items, Reads p.1 p.2) (hbegins : ∀ p ∈ items, Begins p.1) {n : Nat}
    (hn : 2 * (join [','] (items.map (·.1))).length < n) (rest : List Char) :
    value? (n + 1) ('[' :: (join [','] (items.map (·.1)) ++ (b ++ ']' :: rest))) =
      some (arr (items.map (·.2)), rest) := by
  cases items with
  | nil =>
    rw [List.map_nil, join, List.nil_append, value?, skipSpace_append hb, skipSpace_cons rfl]
    rfl
  | cons p ps =>
    refine value?_list ?_ (items?_append hb hreads hn rest)
    rw [List.map_cons, join_cons, List.append_assoc]
    exact hbegins p List.mem_cons_self _

theorem value?_object {members : List Member} {b : List Char} (hb : Blanks b)
    (hreads : ∀ m ∈ members, Reads m.text m.value) {n : Nat}
    (hn : 2 * (join [','] (members.map (·.chars))).length < n) (rest : List Char) :
    value? (n + 1) ('\x7b' :: (join [','] (members.map (·.chars)) ++ (b ++ '\x7d' :: rest))) =
      some (obj (members.map fun m => (m.key, m.value)), rest) := by
  cases members with
  | nil =>
    rw [List.map_nil, join, List.nil_append, value?, skipSpace_append hb, skipSpace_cons rfl]
    rfl
  | cons m ms =>
    refine value?_record ?_ (members?_append hb hreads hn rest)
    intro t ht
    rw [List.map_cons, join_cons, Member.chars, List.append_assoc, List.append_assoc,
      skipSpace_append m.blanks_before, List.cons_append, skipSpace_cons rfl] at ht
    exact absurd (List.cons.inj ht).1 (by decide)

/-- The reader finds the value that a text spells. -/
theorem Spells.reads {s : List Char} {j : Json} (h : Spells s j) : Reads s j := by
  induction h with
  | @padded a s b j ha hb hs ih =>
    intro n rest hn hstops
    obtain ⟨left, hvalue, hleft⟩ := ih n (b ++ rest)
      (by simp only [List.length_append] at hn; omega) (hstops.append hb)
    refine ⟨left, ?_, hleft.trans (skipSpace_append hb rest)⟩
    rw [List.append_assoc, skipSpace_append ha, List.append_assoc, hvalue]
  | null => exact .of_cons rfl fun n rest _ _ => rfl
  | true => exact .of_cons rfl fun n rest _ _ => rfl
  | false => exact .of_cons rfl fun n rest _ _ => rfl
  | number m =>
    obtain ⟨c, t, hcons, hc⟩ := m.exists_cons
    have hspace : isSpace c = Bool.false := by
      rcases hc with rfl | hc
      · rfl
      · exact isSpace_of_isDigit hc
    rw [hcons]
    refine .of_cons hspace fun n rest _ hstops => ?_
    rw [value?_number hc, ← List.cons_append, ← hcons]
    exact m.number?_append hstops
  | @text s t ht =>
    refine .of_cons rfl fun n rest hn _ => ?_
    rw [List.length_append] at hn
    rw [value?, List.append_assoc, List.singleton_append, text?_append ht (by omega)]
    simp
  | @array b items hb hitems ih =>
    refine .of_cons rfl fun n rest hn _ => ?_
    rw [List.length_append] at hn
    rw [List.append_assoc, List.append_assoc]
    exact value?_array hb ih (fun p hp => (hitems p hp).begins) (by omega) rest
  | @object b members hb hmembers ih =>
    refine .of_cons rfl fun n rest hn _ => ?_
    rw [List.length_append] at hn
    rw [List.append_assoc, List.append_assoc]
    exact value?_object hb ih (by omega) rest

/-- A text that spells a document is read as this document. -/
theorem Spells.read? {s : List Char} {j : Json} (h : Spells s j) : Json.read? s = some j := by
  obtain ⟨left, hvalue, hleft⟩ := h.reads (2 * s.length + 2) [] (by omega) .nil
  rw [List.append_nil] at hvalue
  have hempty : (skipSpace left).isEmpty = Bool.true := by rw [hleft]; rfl
  rw [Json.read?, hvalue]
  exact if_pos hempty

/-- No text spells two documents. -/
theorem Spells.unique {s : List Char} {j k : Json} (hj : Spells s j) (hk : Spells s k) : j = k :=
  Option.some.inj (hj.read?.symm.trans hk.read?)

end LintDesk.Json
