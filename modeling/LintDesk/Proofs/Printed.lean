import LintDesk.Report
import LintDesk.Proofs.Preference
import LintDesk.Proofs.Trimming

/-! # Reports that are printed line by line

What a report of several lines says is found line by line, and said once. So to know what is read of
a report it is enough to know what is read of each line, without the carriage return that it may
end with.
-/

namespace LintDesk

open LintDesk.Text LintDesk.Unicode LintDesk.Regex

/-! ## Characters -/

theorem Unicode.CharSet.memRanges_iff {n : Nat} {ranges : List (Nat × Nat)}
    (h : (ranges.map (·.1)).Pairwise (· ≤ ·)) :
    memRanges n ranges = true ↔ ∃ r ∈ ranges, r.1 ≤ n ∧ n ≤ r.2 := by
  induction ranges with
  | nil => simp [memRanges]
  | cons r ranges ih =>
    obtain ⟨lo, hi⟩ := r
    obtain ⟨hlo, hrest⟩ := List.pairwise_cons.mp h
    rw [memRanges, List.exists_mem_cons_iff]
    split
    · next hlt =>
      refine iff_of_false Bool.false_ne_true ?_
      rintro (⟨hle, -⟩ | ⟨r, hr, hle, -⟩)
      · omega
      · have := hlo r.1 (List.mem_map_of_mem hr)
        simp only at this
        omega
    · next hge =>
      rw [Bool.or_eq_true, decide_eq_true_iff, ih hrest]
      simp only
      constructor
      · rintro (hhi | hr)
        · exact .inl ⟨Nat.not_lt.mp hge, hhi⟩
        · exact .inr hr
      · rintro (⟨-, hhi⟩ | hr)
        · exact .inl hhi
        · exact .inr hr

theorem mem_blanks_iff {c : Char} : blanks.mem c = true ↔ isBlank c = true := by
  rw [CharSet.mem, CharSet.memRanges_iff (by decide)]
  simp only [blanks, isBlank, List.mem_cons, List.not_mem_nil, or_false, exists_eq_or_imp,
    exists_eq_left, Bool.or_eq_true, Bool.and_eq_true, decide_eq_true_eq, beq_iff_eq]
  omega

theorem isDigit_iff {c : Char} : isDigit c = true ↔ 0x30 ≤ c.toNat ∧ c.toNat ≤ 0x39 := by
  simp only [isDigit, Bool.and_eq_true, decide_eq_true_eq, Char.le_def, UInt32.le_iff_toNat_le]
  exact Iff.rfl

theorem mem_digits_of_isDigit {c : Char} (h : isDigit c = true) : digits.mem c = true := by
  rw [CharSet.mem, CharSet.memRanges_iff (by decide)]
  exact ⟨(0x30, 0x39), List.mem_cons_self, isDigit_iff.mp h⟩

theorem isBlank_of_isDigit {c : Char} (h : isDigit c = true) : isBlank c = false := by
  rw [isDigit_iff] at h
  rw [← Bool.not_eq_true, isBlank]
  simp only [Bool.or_eq_true, Bool.and_eq_true, decide_eq_true_eq, beq_iff_eq]
  omega

theorem notMem_digits_of_isBlank {c : Char} (h : isBlank c = true) : digits.mem c = false := by
  have hapart : ∀ r ∈ blanks.ranges, ∀ d ∈ digits.ranges, r.2 < d.1 ∨ d.2 < r.1 := by decide
  rw [← mem_blanks_iff, CharSet.mem, CharSet.memRanges_iff (by decide)] at h
  obtain ⟨r, hr, hlo, hhi⟩ := h
  rw [← Bool.not_eq_true, CharSet.mem, CharSet.memRanges_iff (by decide)]
  rintro ⟨d, hd, hlo', hhi'⟩
  have := hapart r hr d hd
  omega

/-- The characters that a line is made of. -/
def lineChars : CharSet := .complement ⟨[(10, 10)]⟩

theorem mem_lineChars_iff {c : Char} : lineChars.mem c = true ↔ c ≠ '\n' := by
  have hranges : lineChars.ranges = [(0, 9), (11, CharSet.maxCode)] := by decide
  have hcode : c ≠ '\n' ↔ c.toNat ≠ 10 := not_congr Char.toNat_inj.symm
  have hmax : c.toNat ≤ CharSet.maxCode := by
    have := c.valid
    simp only [UInt32.isValidChar, Nat.isValidChar] at this
    change c.val.toNat ≤ 0x10FFFF
    omega
  rw [CharSet.mem, hranges, CharSet.memRanges_iff (by decide), hcode]
  simp only [List.mem_cons, List.not_mem_nil, or_false, exists_eq_or_imp, exists_eq_left]
  omega

theorem mem_lineChars_of_inLine {s : List Char} (h : '\n' ∉ s) :
    ∀ c ∈ s, lineChars.mem c = true :=
  fun _ hc => mem_lineChars_iff.mpr fun hnl => h (hnl ▸ hc)

/-! ## Lines -/

/-- A line without the carriage return that it may end with. -/
def chomp (l : List Char) : List Char := (dropReturn l.reverse).reverse

theorem chomp_append_singleton (l : List Char) (c : Char) :
    chomp (l ++ [c]) = if c = '\r' then l else l ++ [c] := by
  rw [chomp, List.reverse_append]
  split
  · next h => subst h; simp [dropReturn]
  · next h => simp [dropReturn, h]

theorem chomp_append {l : List Char} (h : l ≠ []) (p : List Char) :
    chomp (p ++ l) = p ++ chomp l := by
  obtain ⟨l, c, rfl⟩ := List.eq_nil_or_concat' l |>.resolve_left h
  rw [← List.append_assoc, chomp_append_singleton, chomp_append_singleton]
  split
  · rfl
  · rw [List.append_assoc]

theorem prefix_chomp (l : List Char) : chomp l <+: l := by
  rcases List.eq_nil_or_concat' l with rfl | ⟨l, c, rfl⟩
  · exact List.prefix_rfl
  · rw [chomp_append_singleton]
    split
    · exact List.prefix_append l [c]
    · exact List.prefix_rfl

theorem chomp_eq_self {l : List Char} (h : '\r' ∉ l) : chomp l = l := by
  rcases List.eq_nil_or_concat' l with rfl | ⟨l, c, rfl⟩
  · rfl
  · rw [chomp_append_singleton, if_neg]
    rintro rfl
    exact h (by simp)

theorem linesAfter_line {l : List Char} (h : '\n' ∉ l) (seen rest : List Char) :
    linesAfter seen (l ++ '\n' :: rest) =
      (dropReturn (l.reverse ++ seen)).reverse :: linesAfter [] rest := by
  induction l generalizing seen with
  | nil => rfl
  | cons c l ih =>
    obtain ⟨hc, hl⟩ := List.ne_and_not_mem_of_not_mem_cons h
    rw [List.cons_append, linesAfter.eq_3 _ _ _ hc.symm, ih hl]
    simp

/-- The lines that have been printed are the lines that are read. -/
theorem lines_printed {ls : List (List Char)} (h : ∀ l ∈ ls, '\n' ∉ l) :
    lines (ls.flatMap (· ++ ['\n'])) = ls.map chomp := by
  induction ls with
  | nil => rfl
  | cons l ls ih =>
    obtain ⟨hl, hls⟩ := List.forall_mem_cons.mp h
    rw [List.flatMap_cons, List.append_assoc, lines, List.singleton_append, linesAfter_line hl,
      List.append_nil, List.map_cons]
    exact congrArg (chomp l :: ·) (ih hls)

/-! ## Repetitions -/

namespace ReportReader

theorem withoutRepeats_eq_eraseDups (seen ds : List Diagnostic) :
    withoutRepeats seen ds = (ds.filter (· ∉ seen)).eraseDups := by
  induction ds generalizing seen with
  | nil => rfl
  | cons d ds ih =>
    rw [withoutRepeats]
    by_cases hd : d ∈ seen
    · rw [if_pos hd, ih, List.filter_cons_of_neg (by simpa using hd)]
    · rw [if_neg hd, ih, List.filter_cons_of_pos (by simpa using hd), List.eraseDups_cons,
        List.filter_filter]
      congr 3
      funext b
      by_cases hb : b = d <;> simp [hb]

theorem nodup_eraseDups (ds : List Diagnostic) : ds.eraseDups.Nodup := by
  induction hn : ds.length using Nat.strong_induction_on generalizing ds with
  | _ n ih =>
    cases ds with
    | nil => exact List.nodup_nil
    | cons d ds =>
      rw [List.eraseDups_cons, List.nodup_cons, List.mem_eraseDups]
      refine ⟨by simp, ih _ ?_ _ rfl⟩
      have := List.length_filter_le (fun b => !b == d) ds
      rw [List.length_cons] at hn
      omega

theorem readLines_eq (r : ReportReader) (ls : List (List Char)) :
    r.readLines ls = (ls.filterMap r.readLine).eraseDups := by
  simp [readLines, withoutRepeats_eq_eraseDups]

end ReportReader

/-! ## Numbers and messages -/

/-- A decimal number of 32 bits, as it is printed. -/
structure Numeral where
  digits : List Char
  nonempty : digits ≠ []
  ascii : ∀ c ∈ digits, isDigit c = true
  small : digitsValue digits < bound32

namespace Numeral

def value (n : Numeral) : Nat := digitsValue n.digits

/-- The number, counted from one, as a coordinate, counted from zero; zero counts as one. -/
def coordinate (n : Numeral) : UInt32 := .ofNat (max n.value 1 - 1)

theorem natBelow?_digits (n : Numeral) : natBelow? bound32 n.digits = some n.value := by
  obtain ⟨digits, hne, hascii, hsmall⟩ := n
  have hbelow : digitsBelow? bound32 digits = some (digitsValue digits) := by
    rw [digitsBelow?, if_neg (by simpa [hne] using hascii), if_pos hsmall]
  cases digits with
  | nil => exact absurd rfl hne
  | cons c digits =>
    have hplus : c ≠ '+' := by
      rintro rfl
      exact absurd (hascii '+' List.mem_cons_self) (by decide)
    rw [natBelow?]
    · exact hbelow
    · rintro s hs
      exact hplus (List.cons.inj hs).1

theorem fromOne_value (n : Numeral) : ReportReader.fromOne n.value = n.coordinate := by
  rw [ReportReader.fromOne, coordinate]
  congr 1
  omega

theorem mem_digits (n : Numeral) : ∀ c ∈ n.digits, Unicode.digits.mem c = true :=
  fun c hc => mem_digits_of_isDigit (n.ascii c hc)

theorem one_le_length (n : Numeral) : 1 ≤ n.digits.length :=
  List.length_pos_iff.mpr n.nonempty

theorem notMem (n : Numeral) {c : Char} (h : isDigit c = false) : c ∉ n.digits := by
  intro hc
  rw [n.ascii c hc] at h
  cases h

theorem chomp_digits (n : Numeral) (p : List Char) : chomp (p ++ n.digits) = p ++ n.digits := by
  obtain ⟨s, c, hs⟩ := (List.eq_nil_or_concat' n.digits).resolve_left n.nonempty
  have hc : c ≠ '\r' := by
    rintro rfl
    exact n.notMem (c := '\r') (by decide) (hs ▸ List.mem_append_right s List.mem_cons_self)
  rw [hs, ← List.append_assoc, chomp_append_singleton, if_neg hc]

end Numeral

/-- What is said of an issue: a text on one line that is not blank. -/
structure Message where
  text : List Char
  inLine : '\n' ∉ text
  visible : ∃ c ∈ text, isBlank c = false

namespace Message

theorem text_ne_nil (m : Message) : m.text ≠ [] := by
  obtain ⟨c, hc, -⟩ := m.visible
  exact List.ne_nil_of_mem hc

/-- The message without the carriage return that it may end with. -/
def chomped (m : Message) : Message where
  text := chomp m.text
  inLine h := m.inLine ((prefix_chomp m.text).subset h)
  visible := by
    obtain ⟨c, hc, hblank⟩ := m.visible
    refine ⟨c, ?_, hblank⟩
    obtain ⟨s, d, hs⟩ := (List.eq_nil_or_concat' m.text).resolve_left m.text_ne_nil
    rw [hs] at hc ⊢
    rw [chomp_append_singleton]
    split
    · next hd =>
      refine (List.mem_append.mp hc).resolve_right fun hlast => ?_
      rw [List.mem_singleton.mp hlast, hd] at hblank
      exact absurd hblank (by decide)
    · exact hc

theorem trimChars_chomped (m : Message) : trimChars m.chomped.text = trimChars m.text := by
  obtain ⟨s, d, hs⟩ := (List.eq_nil_or_concat' m.text).resolve_left m.text_ne_nil
  change trimChars (chomp m.text) = _
  rw [hs, chomp_append_singleton]
  split
  · next hd => rw [trimChars_append_blank (by rw [hd]; decide)]
  · rfl

theorem trimChars_ne_nil (m : Message) : trimChars m.text ≠ [] := by
  intro h
  obtain ⟨c, hc, hblank⟩ := m.visible
  rw [trimChars_eq_nil_iff.mp h c hc] at hblank
  cases hblank

/-- The blanks that the message begins with. -/
def lead (m : Message) : List Char := m.text.takeWhile isBlank

/-- The message from its first character on that is not blank. -/
def body (m : Message) : List Char := m.text.dropWhile isBlank

theorem lead_append_body (m : Message) : m.lead ++ m.body = m.text :=
  List.takeWhile_append_dropWhile

theorem mem_blanks_of_mem_lead (m : Message) : ∀ c ∈ m.lead, blanks.mem c = true :=
  fun _ hc => mem_blanks_iff.mpr (List.mem_takeWhile_imp hc)

theorem body_ne_nil (m : Message) : m.body ≠ [] := by
  intro h
  obtain ⟨c, hc, hblank⟩ := m.visible
  rw [List.dropWhile_eq_nil_iff.mp h c hc] at hblank
  cases hblank

theorem one_le_length_body (m : Message) : 1 ≤ m.body.length :=
  List.length_pos_iff.mpr m.body_ne_nil

theorem body_inLine (m : Message) : '\n' ∉ m.body :=
  fun h => m.inLine ((List.dropWhile_sublist isBlank).subset h)

/-- A repetition of blanks stops in front of the body. -/
theorem notMem_blanks_of_mem_head? (m : Message) (s : List Char) :
    ∀ c ∈ (m.body ++ s).head?, blanks.mem c = false := by
  intro c hc
  rw [List.head?_append_of_ne_nil _ m.body_ne_nil, List.head?_eq_some_head m.body_ne_nil,
    Option.mem_some_iff] at hc
  have hhead : isBlank c = false := hc ▸ List.head_dropWhile_not isBlank m.body_ne_nil
  rw [← Bool.not_eq_true, mem_blanks_iff, hhead]
  exact Bool.false_ne_true

theorem trimChars_body (m : Message) : trimChars m.body = trimChars m.text :=
  trimChars_dropWhile m.text

end Message

/-! ## What is read of the lines -/

/-- The output of the analyzer can be read back: its rules are in order, and of any report that is
printed line by line, they find what the lines say, each thing once and in the order in which it is
first said. -/
def Analyzer.Recovers {ε : Type} (a : Analyzer) (line : ε → List Char)
    (issue : ε → Option Diagnostic) : Prop :=
  ∃ reader, ReportReader.compile a.id a.rules = .ok reader ∧ ∀ report : List ε,
    reader.read (String.ofList (report.flatMap fun e => line e ++ ['\n'])) =
      (report.filterMap issue).eraseDups

/-- It is enough to know what the rule of an analyzer finds in each line. -/
theorem Analyzer.recovers_of_rule {ε : Type} {a : Analyzer} {line : ε → List Char}
    {issue : ε → Option Diagnostic} {rule : CompiledRule}
    (hregex : a.rules.map (fun r => Regex.compile? r.pattern) = [some rule.regex])
    (hgroup : rule.regex.hasGroup "line" = true)
    (hmessage : a.rules.map (·.message.getD OutputRule.defaultMessage) = [rule.message])
    (hseverity : a.rules.map (·.severity) = [rule.severity])
    (hline : ∀ e, '\n' ∉ line e)
    (hissue : ∀ e, (rule.regex.captures? (chomp (line e))).bind (ReportReader.diagnostic? rule) =
      issue e) :
    a.Recovers line issue := by
  have hcompile : ReportReader.compile a.id a.rules = .ok ⟨[rule]⟩ := by
    obtain ⟨r, hr, hpattern⟩ := List.map_eq_singleton_iff.mp hregex
    rw [hr, List.map_singleton, List.singleton_inj] at hmessage hseverity
    have hrule : r.compile a.id = .ok rule := by
      simp [OutputRule.compile, hpattern, hgroup, hmessage, hseverity]
    rw [ReportReader.compile, hr, List.mapM_cons, hrule]
    rfl
  have hread : ∀ e, ReportReader.readLine ⟨[rule]⟩ (chomp (line e)) = issue e := by
    intro e
    rw [← hissue e, ReportReader.readLine, ReportReader.firstMatch]
    cases h : rule.regex.captures? (chomp (line e)) with
    | none => simp [h]
    | some c => simp [h]
  refine ⟨_, hcompile, fun report => ?_⟩
  have hlines : lines (report.flatMap fun e => line e ++ ['\n']) =
      report.map fun e => chomp (line e) := by
    have hreport : ∀ l ∈ report.map line, '\n' ∉ l := by simpa using fun e _ => hline e
    simpa [List.flatMap_map, Function.comp_def] using lines_printed hreport
  rw [ReportReader.read, String.toList_ofList, hlines, ReportReader.readLines_eq,
    List.filterMap_map]
  simp only [Function.comp_def, hread]

theorem Template.groupText_name (name : String) (h : natBelow? bound64 name.toList = none)
    (c : Captures) : groupText c name.toList = (c.name? name).getD [] := by
  rw [groupText, h, String.ofList_toList]

/-- A rule that has no template gives the group `message`. -/
theorem Captures.expand_defaultMessage (c : Captures) :
    c.expand OutputRule.defaultMessage = (c.name? "message").getD [] := by
  have hparts : Template.parts OutputRule.defaultMessage.toList = [.group "message".toList] := by
    decide +kernel
  rw [Captures.expand, hparts, List.flatMap_singleton, Template.partText,
    Template.groupText_name "message" (by decide +kernel)]

/-- What a match says: the number of a line is there, the message is not blank, and the number of
a column may be there. -/
theorem ReportReader.diagnostic?_eq {rule : CompiledRule} {c : Captures} {line : Numeral}
    (column : Option Numeral) (hline : c.name? "line" = some line.digits)
    (hcolumn : c.name? "column" = column.map (·.digits))
    (hmessage : trimChars (c.expand rule.message) ≠ []) :
    diagnostic? rule c = some ⟨String.ofList (trimChars (c.expand rule.message)),
      ⟨line.coordinate, (column.map (·.coordinate)).getD 0⟩,
      match c.name? "severity" with
      | some token => .ofToken (String.ofList token)
      | none => rule.severity.getD .warning⟩ := by
  have hnumber : fromOne ((((c.name? "column").bind (natBelow? bound32)).getD 1)) =
      (column.map (·.coordinate)).getD 0 := by
    rw [hcolumn]
    cases column with
    | none => rfl
    | some n => simp [n.natBelow?_digits, n.fromOne_value]
  simp only [diagnostic?, hline, Option.bind_eq_bind, Option.bind_some, line.natBelow?_digits,
    line.fromOne_value, hnumber]
  exact if_neg (by simpa using hmessage)

end LintDesk
