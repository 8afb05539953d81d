import LintDesk.Output.Text
import LintDesk.Proofs.Latest
import LintDesk.Proofs.OutputParts

/-! # Coordinates

A match names a line and maybe a column, both counted from one, and a diagnostic holds them counted
from zero. What is named as zero is taken for one. So the coordinates of a diagnostic are never the
largest ones that there are, and there is room to count them from one again when they are printed.
-/

namespace LintDesk

open LintDesk.Text

/-! ## Numerals -/

theorem Text.natBelow?_lt {bound n : Nat} {s : List Char} (h : natBelow? bound s = some n) :
    n < bound := by
  have hdigits {t : List Char} (ht : digitsBelow? bound t = some n) : n < bound := by
    rw [digitsBelow?] at ht
    split at ht
    · cases ht
    · obtain ⟨hlt, hvalue⟩ := Option.ite_none_right_eq_some.mp ht
      rwa [← Option.some.inj hvalue]
  unfold natBelow? at h
  split at h
  · exact hdigits h
  · exact hdigits h

/-! ## Where a diagnostic comes from -/

namespace ReportReader

/-- The first of the rules whose pattern matches a line, and its match. -/
structure FirstMatch (r : ReportReader) (line : List Char) (rule : CompiledRule) (c : Captures) :
    Prop where
  captures : rule.regex.captures? line = some c
  first : ∃ before after, r.rules = before ++ rule :: after ∧
    ∀ q ∈ before, q.regex.captures? line = none

theorem firstMatch_of_eq_some {r : ReportReader} {line : List Char} {rule : CompiledRule}
    {c : Captures} (h : firstMatch r.rules line = some (rule, c)) : r.FirstMatch line rule c := by
  obtain ⟨before, q, after, hrules, hq, hbefore⟩ := List.findSome?_eq_some_iff.mp h
  obtain ⟨c', hc, hpair⟩ := Option.map_eq_some_iff.mp hq
  obtain ⟨rfl, rfl⟩ := Prod.mk.inj hpair
  exact ⟨hc, before, after, hrules, fun p hp => by simpa using hbefore p hp⟩

end ReportReader

/-- The line that a match names, and the column, which is one if none is named. -/
structure Captures.Names (c : Captures) (line column : Nat) : Prop where
  line : ∃ token, c.name? "line" = some token ∧ natBelow? bound32 token = some line
  column : column = ((c.name? "column").bind (natBelow? bound32)).getD 1

theorem Captures.Names.line_lt {c : Captures} {line column : Nat} (h : c.Names line column) :
    line < bound32 := by
  obtain ⟨token, -, hline⟩ := h.line
  exact natBelow?_lt hline

theorem Captures.Names.column_lt {c : Captures} {line column : Nat} (h : c.Names line column) :
    column < bound32 := by
  rw [h.column]
  cases hcolumn : (c.name? "column").bind (natBelow? bound32) with
  | none => decide
  | some n =>
    obtain ⟨token, -, hn⟩ := Option.bind_eq_some_iff.mp hcolumn
    exact natBelow?_lt hn

namespace ReportReader

theorem toNat_fromOne {n : Nat} (h : n < bound32) : (fromOne n).toNat = max n 1 - 1 := by
  have hbound : bound32 = 4294967296 := rfl
  rw [fromOne, UInt32.toNat_ofNat', Nat.mod_eq_of_lt (by omega)]
  omega

/-- A diagnostic is one that a line of the text gives rise to, whose match names the given line and
the given column. -/
structure Reports (r : ReportReader) (text : String) (d : Diagnostic) (line column : Nat) :
    Prop where
  source : ∃ l ∈ lines text.toList, ∃ rule c, r.FirstMatch l rule c ∧ c.Names line column
  line_eq : d.position.line.toNat = max line 1 - 1
  column_eq : d.position.column.toNat = max column 1 - 1
  message_ne : d.message ≠ ""
  trimmed : trim d.message = d.message

theorem position_of_diagnostic? {rule : CompiledRule} {c : Captures} {d : Diagnostic}
    (h : diagnostic? rule c = some d) : ∃ line column, c.Names line column ∧
      d.position = ⟨fromOne line, fromOne column⟩ ∧
      trimChars (c.expand rule.message) ≠ [] ∧
      d.message = String.ofList (trimChars (c.expand rule.message)) := by
  simp only [diagnostic?, Option.bind_eq_bind] at h
  obtain ⟨token, htoken, h⟩ := Option.bind_eq_some_iff.mp h
  obtain ⟨line, hline, h⟩ := Option.bind_eq_some_iff.mp h
  obtain ⟨hmessage, hd⟩ := Option.ite_none_left_eq_some.mp h
  obtain rfl := Option.some.inj hd
  exact ⟨line, _, ⟨⟨token, htoken, hline⟩, rfl⟩, rfl, by simpa using hmessage, rfl⟩

/-- Whatever is read of a text comes from one of its lines. -/
theorem reports_of_mem_read {r : ReportReader} {text : String} {d : Diagnostic}
    (h : d ∈ r.read text) : ∃ line column, r.Reports text d line column := by
  rw [read, readLines_eq, List.mem_eraseDups, List.mem_filterMap] at h
  obtain ⟨l, hl, hread⟩ := h
  simp only [readLine, Option.bind_eq_bind] at hread
  obtain ⟨⟨rule, c⟩, hmatch, hd⟩ := Option.bind_eq_some_iff.mp hread
  obtain ⟨line, column, hnames, hposition, hne, hmessage⟩ := position_of_diagnostic? hd
  refine ⟨line, column, ⟨l, hl, rule, c, firstMatch_of_eq_some hmatch, hnames⟩, ?_, ?_, ?_, ?_⟩
  · rw [hposition, toNat_fromOne hnames.line_lt]
  · rw [hposition, toNat_fromOne hnames.column_lt]
  · rw [hmessage]
    exact fun hempty => hne (String.ofList_eq_empty_iff.mp hempty)
  · rw [hmessage, trim, String.toList_ofList, trimChars_trimChars]

end ReportReader

/-! ## How a position is shown -/

/-- A position that is shown as the given line and column, counted from one. -/
structure Position.Shows (p : Position) (line column : Nat) : Prop where
  line_lt : p.line.toNat < bound32 - 1
  column_lt : p.column.toNat < bound32 - 1
  location : ∀ file : String,
    Output.location file p = file ++ ":" ++ toString line ++ ":" ++ toString column

theorem toNat_add_one_of_eq {u : UInt32} {n : Nat} (hn : n < bound32)
    (h : u.toNat = max n 1 - 1) : u.toNat < bound32 - 1 ∧ (u + 1).toNat = max n 1 := by
  have hbound : bound32 = 4294967296 := rfl
  have hlt : u.toNat + 1 < bound32 := by omega
  refine ⟨by omega, ?_⟩
  rw [UInt32.toNat_add, UInt32.toNat_one]
  refine (Nat.mod_eq_of_lt hlt).trans ?_
  omega

namespace ReportReader.Reports

variable {r : ReportReader} {text : String} {d : Diagnostic} {line column : Nat}

theorem line_lt (h : r.Reports text d line column) : line < bound32 := by
  obtain ⟨l, -, rule, c, -, hnames⟩ := h.source
  exact hnames.line_lt

theorem column_lt (h : r.Reports text d line column) : column < bound32 := by
  obtain ⟨l, -, rule, c, -, hnames⟩ := h.source
  exact hnames.column_lt

/-- There is room to count a position that has been read from one again. -/
theorem shows (h : r.Reports text d line column) :
    d.position.Shows (max line 1) (max column 1) := by
  obtain ⟨hline, hlineSucc⟩ := toNat_add_one_of_eq h.line_lt h.line_eq
  obtain ⟨hcolumn, hcolumnSucc⟩ := toNat_add_one_of_eq h.column_lt h.column_eq
  refine ⟨hline, hcolumn, fun file => ?_⟩
  rw [Output.location, hlineSucc, hcolumnSucc]

end ReportReader.Reports

/-! ## What runs write -/

theorem Registry.reports_of_mem_read {registry : Registry} {id text : String} {d : Diagnostic}
    (h : d ∈ registry.read id text) : ∃ r line column,
      registry.get? id = some r ∧ r.Reports text d line column := by
  rw [Registry.read] at h
  split at h
  · next r hr =>
    obtain ⟨line, column, hreports⟩ := ReportReader.reports_of_mem_read h
    exact ⟨r, line, column, hr, hreports⟩
  · cases h

namespace Desk

variable {d : Desk}

/-- A run that counts leaves a slot of what it has reported, and until there is a plain write the
slot holds what this run or a later one has reported. -/
theorem slot?_after_run {place : Nat} {job : Job} {result : Except Error Captured} {text : String}
    {history : List DeskEvent} (hopen : d.tickets[place]? = some ⟨job, none⟩)
    (htext : (EndedRun.mk job result).text? = some text)
    (hnewest : d.store.sequence job.analyzer ≤ job.sequence)
    (hwrites : ∀ ds, .write job.analyzer ds ∉ history) :
    ∃ run ∈ d.endedRuns (.complete place result :: history), ∃ text,
      run.job.analyzer = job.analyzer ∧ run.text? = some text ∧
      (d.after (.complete place result :: history)).store.slot? job.analyzer =
        some ⟨run.job.sequence, d.coordinator.registry.read job.analyzer text⟩ := by
  have hruns : d.endedRuns (.complete place result :: history) =
      ⟨job, result⟩ :: (d.step (.complete place result)).endedRuns history := by
    rw [← List.singleton_append, endedRuns_append, endedRuns_complete_of_open hopen]
    rfl
  rw [hruns, after_cons, store_after, coordinator_step]
  rcases StoreEvent.slot?_foldl_cases (d.step (.complete place result)).store
    (fun ds hmem => hwrites ds (written_mem_storeEvents hmem)) with
      hsame | ⟨run, text, hmem, hrest⟩
  · refine ⟨_, List.mem_cons_self, text, rfl, htext, hsame.trans ?_⟩
    rw [step, complete_of_open hopen, Job.settle_of_current htext _ hnewest,
      Store.slot?_put_self]
  · exact ⟨run, List.mem_cons_of_mem _ (ended_mem_storeEvents_iff.mp hmem), text, hrest⟩

end Desk

/-- Each diagnostic is read once, has a trimmed message, and comes from a line whose first match
names its place. What is shown for it is the line and the column that are named, with one in place
of zero; no coordinate is too large for that. The same goes for whatever a slot holds from the
moment at which a run that counts has ended until there is a plain write to it. -/
theorem coordinates_shown_as_named :
    (∀ (r : ReportReader) (text : String), (r.read text).Nodup ∧
      ∀ d ∈ r.read text, ∃ line column, line < bound32 ∧ column < bound32 ∧
        r.Reports text d line column ∧ d.position.Shows (max line 1) (max column 1)) ∧
    ∀ (desk : Desk) (place : Nat) (job : Job) (result : Except Error Captured) (output : String)
      (history : List DeskEvent),
      desk.tickets[place]? = some ⟨job, none⟩ →
      (EndedRun.mk job result).text? = some output →
      desk.store.sequence job.analyzer ≤ job.sequence →
      (∀ ds, .write job.analyzer ds ∉ history) →
      ∃ run ∈ desk.endedRuns (.complete place result :: history), ∃ text slot,
        run.job.analyzer = job.analyzer ∧ run.text? = some text ∧
        (desk.after (.complete place result :: history)).store.slot? job.analyzer = some slot ∧
        slot.diagnostics = desk.coordinator.registry.read job.analyzer text ∧
        ∀ d ∈ slot.diagnostics, ∃ r line column,
          desk.coordinator.registry.get? job.analyzer = some r ∧
          r.Reports text d line column ∧ d.position.Shows (max line 1) (max column 1) := by
  constructor
  · intro r text
    refine ⟨r.nodup_read text, fun d hd => ?_⟩
    obtain ⟨line, column, h⟩ := ReportReader.reports_of_mem_read hd
    exact ⟨line, column, h.line_lt, h.column_lt, h, h.shows⟩
  · intro desk place job result output history hopen htext hnewest hwrites
    obtain ⟨run, hrun, text, hid, hreport, hslot⟩ :=
      Desk.slot?_after_run hopen htext hnewest hwrites
    refine ⟨run, hrun, text, _, hid, hreport, hslot, rfl, fun d hd => ?_⟩
    obtain ⟨r, line, column, hr, h⟩ := Registry.reports_of_mem_read hd
    exact ⟨r, line, column, hr, h, h.shows⟩

/-- A run that names line 0, the last line that there can be, and one that there cannot be. -/
theorem coordinates_shown_as_named_extremes :
    let desk := (Desk.fresh Coordinator.numbers).request "a.php"
    let output := "0\n4294967295\n4294967296\n"
    let after := desk.after [.complete 0 (.ok ⟨output, some 0⟩)]
    after.store.get "alpha" =
        [⟨"issue", ⟨0, 0⟩, .warning⟩, ⟨"issue", ⟨4294967294, 0⟩, .warning⟩] ∧
      ∃ slot, after.store.slot? "alpha" = some slot ∧
        ∀ d ∈ slot.diagnostics, ∃ line column, d.position.Shows (max line 1) (max column 1) := by
  intro desk output after
  refine ⟨by decide +kernel, ?_⟩
  obtain ⟨run, -, text, slot, -, -, hslot, -, hshows⟩ := coordinates_shown_as_named.2 desk 0
    ⟨"alpha", 1, [0], ⟨"php", ["a.php"]⟩⟩ (.ok ⟨output, some 0⟩) output []
    rfl rfl (by decide) (by simp)
  refine ⟨slot, hslot, fun d hd => ?_⟩
  obtain ⟨r, line, column, -, -, h⟩ := hshows d hd
  exact ⟨line, column, h⟩

end LintDesk
