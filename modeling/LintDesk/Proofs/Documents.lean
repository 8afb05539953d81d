import LintDesk.Program
import LintDesk.Proofs.Layouts
import LintDesk.Proofs.Printed

/-! # Reports as documents

The documents that are printed for machines say all that there is to say: from the text alone, the
check, the command lines or the diagnostics can be found again. The answers of a session are one
line each.
-/

namespace LintDesk

open LintDesk.Text LintDesk.Json

/-! ## Finding the data in a document -/

namespace Output

def textAt? (key : String) (j : Json) : Option String := do (← j.get? key).str?

def countAt? (key : String) (j : Json) : Option Nat := do
  let n ← (← j.get? key).int?
  if 0 ≤ n then some n.toNat else none

def coordinateAt? (key : String) (j : Json) : Option UInt32 := do
  let n ← countAt? key j
  if n < bound32 then some (.ofNat n) else none

def listAt? {α : Type} (key : String) (item? : Json → Option α) (j : Json) : Option (List α) := do
  (← (← j.get? key).arr?).mapM item?

def position? (j : Json) : Option Position := do
  some ⟨← coordinateAt? "line" j, ← coordinateAt? "column" j⟩

def diagnostic? (j : Json) : Option Diagnostic := do
  some ⟨← textAt? "message" j, ← position? (← j.get? "position"),
    ← Severity.ofName? (← textAt? "severity" j)⟩

/-- The reason of a failure, which is a text if it is there at all. -/
def failure? (j : Json) : Option (Option String) :=
  match j.get? "failure" with
  | none => some none
  | some reason => reason.str?.map some

def analyzerReport? (j : Json) : Option AnalyzerReport := do
  some ⟨← textAt? "analyzer" j, ← textAt? "name" j, ← listAt? "diagnostics" diagnostic? j,
    ← failure? j⟩

def fileReport? (j : Json) : Option FileReport := do
  some ⟨← textAt? "file" j, ← listAt? "analyzers" analyzerReport? j⟩

def summary? (j : Json) : Option Summary := do
  some ⟨← countAt? "errors" j, ← countAt? "warnings" j, ← countAt? "failures" j,
    ← countAt? "files" j⟩

def check? (j : Json) : Option CheckResult := do
  some ⟨← listAt? "files" fileReport? j, ← summary? (← j.get? "summary")⟩

def command? (j : Json) : Option (String × CommandLine) := do
  some (← textAt? "analyzer" j, ⟨← textAt? "program" j, ← listAt? "args" str? j⟩)

def commands? (j : Json) : Option (List (String × CommandLine)) := listAt? "commands" command? j

def inspection? (j : Json) : Option (String × List Diagnostic) := do
  some (← textAt? "analyzer" j, ← listAt? "errors" diagnostic? j)

/-! ## What is shown is found -/

theorem mapM_map_eq_some {α : Type} {item? : Json → Option α} {item : α → Json}
    (h : ∀ x, item? (item x) = some x) (xs : List α) : (xs.map item).mapM item? = some xs := by
  induction xs with
  | nil => rfl
  | cons x xs ih => simp [h, ih]

@[simp] theorem position?_position (p : Position) : position? (position p) = some p := by
  obtain ⟨line, column⟩ := p
  have hline : line.toNat < bound32 := line.toNat_lt
  have hcolumn : column.toNat < bound32 := column.toNat_lt
  simp [position?, position, coordinateAt?, countAt?, get?, Json.ofNat, int?, hline, hcolumn]

@[simp] theorem diagnostic?_diagnostic (d : Diagnostic) : diagnostic? (diagnostic d) = some d := by
  simp [diagnostic?, diagnostic, textAt?, get?, str?]

@[simp] theorem analyzerReport?_analyzerReport (r : AnalyzerReport) :
    analyzerReport? (analyzerReport r) = some r := by
  obtain ⟨analyzer, name, ds, failure⟩ := r
  have hds := mapM_map_eq_some diagnostic?_diagnostic ds
  cases failure with
  | none =>
    simp [analyzerReport?, analyzerReport, diagnostics, textAt?, listAt?, failure?, get?, str?,
      arr?, hds]
  | some reason =>
    simp [analyzerReport?, analyzerReport, diagnostics, textAt?, listAt?, failure?, get?, str?,
      arr?, hds]

@[simp] theorem fileReport?_fileReport (r : FileReport) : fileReport? (fileReport r) = some r := by
  have hreports := mapM_map_eq_some analyzerReport?_analyzerReport r.analyzers
  simp [fileReport?, fileReport, textAt?, listAt?, get?, str?, arr?, hreports]

@[simp] theorem summary?_summary (s : Summary) : summary? (summary s) = some s := by
  simp [summary?, summary, countAt?, get?, Json.ofNat, int?]

theorem check?_check (r : CheckResult) : check? (check r) = some r := by
  have hfiles := mapM_map_eq_some fileReport?_fileReport r.files
  simp [check?, check, listAt?, get?, arr?, hfiles]

@[simp] theorem command?_command (c : String × CommandLine) :
    command? (command c.1 c.2) = some c := by
  have hstr : ∀ s : String, str? (str s) = some s := fun _ => rfl
  have hargs := mapM_map_eq_some hstr c.2.args
  simp [command?, command, strings, textAt?, listAt?, get?, str?, arr?, hargs]

theorem commands?_commands (cs : List (String × CommandLine)) :
    commands? (commands cs) = some cs := by
  have hcommands := mapM_map_eq_some command?_command cs
  simp [commands?, commands, listAt?, get?, arr?, hcommands]

theorem inspection?_inspection (analyzer : String) (ds : List Diagnostic) :
    inspection? (inspection analyzer ds) = some (analyzer, ds) := by
  have hds := mapM_map_eq_some diagnostic?_diagnostic ds
  simp [inspection?, inspection, diagnostics, textAt?, listAt?, get?, str?, arr?, hds]

/-! ## The documents are well-formed -/

theorem wellFormed_map {α : Type} {item : α → Json} (h : ∀ x, WellFormed (item x)) (xs : List α) :
    WellFormed (.arr (xs.map item)) := by
  refine .arr fun j hj => ?_
  obtain ⟨x, -, rfl⟩ := List.mem_map.mp hj
  exact h x

theorem wellFormed_ofNat (n : Nat) : WellFormed (.ofNat n) := .int _

theorem wellFormed_position (p : Position) : WellFormed (position p) :=
  .obj (by simp) (by simp [wellFormed_ofNat])

theorem wellFormed_diagnostic (d : Diagnostic) : WellFormed (diagnostic d) :=
  .obj (by simp) (by simp [WellFormed.str, wellFormed_position])

theorem wellFormed_diagnostics (ds : List Diagnostic) : WellFormed (diagnostics ds) :=
  wellFormed_map wellFormed_diagnostic ds

theorem wellFormed_analyzerReport (r : AnalyzerReport) : WellFormed (analyzerReport r) := by
  obtain ⟨analyzer, name, ds, failure⟩ := r
  cases failure with
  | none => exact .obj (by simp) (by simp [WellFormed.str, wellFormed_diagnostics])
  | some reason => exact .obj (by simp) (by simp [WellFormed.str, wellFormed_diagnostics])

theorem wellFormed_fileReport (r : FileReport) : WellFormed (fileReport r) :=
  .obj (by simp) (by simp [WellFormed.str, wellFormed_map wellFormed_analyzerReport])

theorem wellFormed_summary (s : Summary) : WellFormed (summary s) :=
  .obj (by simp) (by simp [wellFormed_ofNat])

theorem wellFormed_check (r : CheckResult) : WellFormed (check r) :=
  .obj (by simp) (by simp [wellFormed_map wellFormed_fileReport, wellFormed_summary])

theorem wellFormed_command (id : String) (c : CommandLine) : WellFormed (command id c) :=
  .obj (by simp) (by simp [WellFormed.str, strings, wellFormed_map WellFormed.str])

theorem wellFormed_commands (cs : List (String × CommandLine)) : WellFormed (commands cs) :=
  have hcommands (c : String × CommandLine) : WellFormed (command c.1 c.2) :=
    wellFormed_command c.1 c.2
  .obj (by simp) (by simp [wellFormed_map hcommands])

theorem wellFormed_inspection (analyzer : String) (ds : List Diagnostic) :
    WellFormed (inspection analyzer ds) :=
  .obj (by simp) (by simp [WellFormed.str, wellFormed_diagnostics])

/-! ## What a text conveys -/

/-- The text spells a document, which is found in it, and in which the data is found. -/
def Conveys {α : Type} (find? : Json → Option α) (text : String) (data : α) : Prop :=
  ∃ doc : Json, doc.WellFormed ∧ Spells text.toList doc ∧ Json.parse? text = some doc ∧
    find? doc = some data

section Conveys

variable {α : Type} {find? : Json → Option α} {text : String} {a b : α} {j : Json}

theorem Conveys.unique (ha : Conveys find? text a) (hb : Conveys find? text b) : a = b := by
  obtain ⟨doc, -, hspells, -, hfound⟩ := ha
  obtain ⟨doc', -, hspells', -, hfound'⟩ := hb
  obtain rfl := hspells.unique hspells'
  exact Option.some.inj (hfound.symm.trans hfound')

/-- A line conveys what its document does. -/
theorem conveys_line (hj : j.WellFormed) (hspells : Spells text.toList j) (ha : find? j = some a) :
    Conveys find? (line text) a := by
  have hend : Blanks ['\n'] := blanks_singleton rfl
  have hline : Spells (line text).toList j := by
    rw [line, String.toList_append]
    exact Spells.padded blanks_nil hend hspells
  exact ⟨j, hj, hline, hline.read?, ha⟩

theorem conveys_pretty (hj : j.WellFormed) (ha : find? j = some a) :
    Conveys find? (line j.pretty) a :=
  conveys_line hj (by rw [pretty, String.toList_ofList]; exact hj.spells_pretty 0) ha

theorem conveys_compact (hj : j.WellFormed) (ha : find? j = some a) :
    Conveys find? (line j.compact) a :=
  conveys_line hj (by rw [compact, String.toList_ofList]; exact hj.spells_compact) ha

end Conveys

theorem conveys_printCheck (r : CheckResult) (noColour : Option String) :
    Conveys check? (printCheck r "json" noColour) r := by
  rw [printCheck, if_pos rfl]
  exact conveys_pretty (wellFormed_check r) (check?_check r)

theorem conveys_printCommands (cs : List (String × CommandLine)) (noColour : Option String) :
    Conveys commands? (printCommands cs "json" noColour) cs := by
  rw [printCommands, if_pos rfl]
  exact conveys_pretty (wellFormed_commands cs) (commands?_commands cs)

theorem conveys_printInspection (analyzer : String) (ds : List Diagnostic) :
    Conveys inspection? (printInspection analyzer ds) (analyzer, ds) :=
  conveys_compact (wellFormed_inspection analyzer ds) (inspection?_inspection analyzer ds)

/-! ## Answers on lines -/

theorem notMem_compact {j : Json} (hj : j.WellFormed) {c : Char} (hc : c.toNat < 0x20) :
    c ∉ j.compact.toList := by
  intro hmem
  rw [compact, String.toList_ofList] at hmem
  exact absurd (hj.plain_compact c hmem) (Nat.not_le.mpr hc)

/-- Documents that are printed one after the other are a line each. -/
theorem lines_compact {docs : List Json} (h : ∀ j ∈ docs, j.WellFormed) :
    lines (joinWith "" (docs.map fun j => line j.compact)).toList =
      docs.map fun j => j.compact.toList := by
  have hlines : (joinWith "" (docs.map fun j => line j.compact)).toList =
      (docs.map fun j => j.compact.toList).flatMap (· ++ ['\n']) := by
    rw [toList_joinWith_empty, List.flatMap_map, List.flatMap_map]
    simp [line]
  have hinLine : ∀ l ∈ docs.map fun j => j.compact.toList, '\n' ∉ l ∧ '\r' ∉ l := by
    intro l hl
    obtain ⟨j, hj, rfl⟩ := List.mem_map.mp hl
    exact ⟨notMem_compact (h j hj) (by decide), notMem_compact (h j hj) (by decide)⟩
  rw [hlines, lines_printed fun l hl => (hinLine l hl).1]
  conv_rhs => rw [← List.map_id (docs.map _)]
  exact List.map_congr_left fun l hl => chomp_eq_self (hinLine l hl).2

end Output

/-- The providers that a query is about. -/
def Session.asked {σ : Type} (s : Session σ) : Option String → List Provider
  | none => s.providers
  | some id => (s.provider? id).toList

open LintDesk.Output

/-- An answer is a line for each provider that it is about. -/
theorem Program.lines_answer (p : Program) (s : Session Machine) (id : Option String) :
    lines (p.answer s id).out.toList =
      (s.asked id).map fun q => (inspection q.id (s.diagnostics q.id)).compact.toList := by
  have hout : (p.answer s id).out = joinWith "" (((s.asked id).map fun q =>
      inspection q.id (s.diagnostics q.id)).map fun j => line j.compact) := by
    cases id with
    | none => simp [answer, Session.asked, printInspection, Function.comp_def]
    | some id =>
      rw [answer, Session.asked]
      cases s.provider? id with
      | none => rfl
      | some q => simp [printInspection, joinWith, join]
  rw [hout, lines_compact, List.map_map]
  · rfl
  · intro j hj
    obtain ⟨q, -, rfl⟩ := List.mem_map.mp hj
    exact wellFormed_inspection _ _

/-- What is printed for machines spells a well-formed document, from which the check, the command
lines or the diagnostics are found again. So different reports are printed differently. An answer
to a query has a line for each provider that it is about, and no document goes over a line. -/
theorem printed_documents_convey :
    (∀ r noColour, Conveys check? (printCheck r "json" noColour) r) ∧
    (∀ cs noColour, Conveys commands? (printCommands cs "json" noColour) cs) ∧
    (∀ analyzer ds, Conveys inspection? (printInspection analyzer ds) (analyzer, ds)) ∧
    (∀ r s noColour noColour',
      printCheck r "json" noColour = printCheck s "json" noColour' ↔ r = s) ∧
    (∀ cs cs' noColour noColour',
      printCommands cs "json" noColour = printCommands cs' "json" noColour' ↔ cs = cs') ∧
    (∀ analyzer analyzer' ds ds', printInspection analyzer ds = printInspection analyzer' ds' ↔
      analyzer = analyzer' ∧ ds = ds') ∧
    (∀ analyzer ds, ∃ l : String, printInspection analyzer ds = l ++ "\n" ∧
      '\n' ∉ l.toList ∧ '\r' ∉ l.toList) ∧
    ∀ (p : Program) (s : Session Machine) (id : Option String),
      lines (p.answer s id).out.toList =
        (s.asked id).map fun q => (inspection q.id (s.diagnostics q.id)).compact.toList := by
  refine ⟨conveys_printCheck, conveys_printCommands, conveys_printInspection, ?_, ?_, ?_, ?_,
    Program.lines_answer⟩
  · intro r s noColour noColour'
    constructor
    · intro h
      exact (conveys_printCheck r noColour).unique (h ▸ conveys_printCheck s noColour')
    · rintro rfl
      rfl
  · intro cs cs' noColour noColour'
    constructor
    · intro h
      exact (conveys_printCommands cs noColour).unique (h ▸ conveys_printCommands cs' noColour')
    · rintro rfl
      rfl
  · intro analyzer analyzer' ds ds'
    constructor
    · intro h
      exact Prod.mk.inj ((conveys_printInspection analyzer ds).unique
        (h ▸ conveys_printInspection analyzer' ds'))
    · rintro ⟨rfl, rfl⟩
      rfl
  · intro analyzer ds
    have hwell := wellFormed_inspection analyzer ds
    exact ⟨_, rfl, notMem_compact hwell (by decide), notMem_compact hwell (by decide)⟩

end LintDesk
