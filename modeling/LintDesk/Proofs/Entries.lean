import LintDesk.Proofs.Check
import LintDesk.Proofs.Documents

/-! # Entries for readers

The form for readers shows of a report its failure or else its diagnostics, while the summary counts
them both. They agree about the reports of a check because a run that has failed is reported without
diagnostics.
-/

namespace LintDesk

open LintDesk.Text LintDesk.Output

/-- Something that a check has to say: an issue that an analyzer has found in a file, or why it has
failed on it. -/
inductive CheckEntry where
  | found (file analyzer : String) (d : Diagnostic)
  | failed (file analyzer reason : String)
deriving DecidableEq, Repr

namespace CheckEntry

def text (coloured : Bool) : CheckEntry → String
  | found file analyzer d => diagnosticLine coloured file analyzer d
  | failed file analyzer reason => failureLine coloured file analyzer reason

def hasSeverity (severity : Severity) : CheckEntry → Bool
  | found _ _ d => d.severity == severity
  | failed .. => false

def isFailure : CheckEntry → Bool
  | found .. => false
  | failed .. => true

end CheckEntry

namespace AnalyzerReport

/-- Everything in a report on a file. -/
def entries (file : String) (r : AnalyzerReport) : List CheckEntry :=
  r.diagnostics.map (.found file r.analyzer) ++ r.failure.toList.map (.failed file r.analyzer)

/-- A report of a failure is one without diagnostics. -/
def Exclusive (r : AnalyzerReport) : Prop := r.failure ≠ none → r.diagnostics = []

theorem Exclusive.reportLines_eq {r : AnalyzerReport} (h : r.Exclusive) (coloured : Bool)
    (file : String) : reportLines coloured file r = (r.entries file).map (·.text coloured) := by
  rw [reportLines, entries]
  cases hfailure : r.failure with
  | none => simp [CheckEntry.text, Function.comp_def]
  | some reason =>
    have hnone : r.diagnostics = [] := h (by simp [hfailure])
    simp [hnone, CheckEntry.text]

theorem countP_hasSeverity (severity : Severity) (file : String) (r : AnalyzerReport) :
    (r.entries file).countP (·.hasSeverity severity) =
      r.diagnostics.countP (·.severity == severity) := by
  simp [entries, List.countP_map, Function.comp_def, CheckEntry.hasSeverity]

theorem countP_isFailure (file : String) (r : AnalyzerReport) :
    (r.entries file).countP (·.isFailure) = if r.failure.isSome then 1 else 0 := by
  have hfound : (r.diagnostics.map (CheckEntry.found file r.analyzer)).countP (·.isFailure) = 0 := by
    simp [CheckEntry.isFailure]
  rw [entries, List.countP_append, hfound]
  cases r.failure <;> rfl

end AnalyzerReport

/-- Everything in the reports on a file, by analyzer. -/
def FileReport.entries (f : FileReport) : List CheckEntry := f.analyzers.flatMap (·.entries f.file)

/-- Everything in the reports of a check, by file and analyzer. -/
def CheckResult.entries (r : CheckResult) : List CheckEntry := r.files.flatMap FileReport.entries

namespace FileReport

theorem countP_hasSeverity (severity : Severity) (f : FileReport) :
    f.entries.countP (·.hasSeverity severity) = Summary.countSeverity severity f.analyzers := by
  simp only [entries, Summary.countSeverity, List.countP_flatMap, Function.comp_def,
    AnalyzerReport.countP_hasSeverity]

theorem countP_isFailure (f : FileReport) :
    f.entries.countP (·.isFailure) = f.analyzers.countP (·.failure.isSome) := by
  obtain ⟨file, reports⟩ := f
  rw [entries]
  induction reports with
  | nil => rfl
  | cons r reports ih =>
    rw [List.flatMap_cons, List.countP_append, ih, AnalyzerReport.countP_isFailure,
      List.countP_cons, Nat.add_comm]

end FileReport

namespace CheckResult

theorem checkLines_eq {r : CheckResult} (h : ∀ f ∈ r.files, ∀ a ∈ f.analyzers, a.Exclusive)
    (coloured : Bool) : checkLines coloured r =
      r.entries.map (·.text coloured) ++ [summaryLine coloured r.summary] := by
  have hfiles : r.files.flatMap (fileLines coloured) =
      r.files.flatMap fun f => f.entries.map (·.text coloured) := by
    refine List.flatMap_congr fun f hf => ?_
    rw [fileLines, FileReport.entries, List.map_flatMap]
    exact List.flatMap_congr fun a ha => (h f hf a ha).reportLines_eq coloured f.file
  rw [checkLines, hfiles, entries, List.map_flatMap]

/-- The summary counts the entries. -/
theorem countP_entries (files : List FileReport) :
    (ofFiles files).entries.countP (·.hasSeverity .error) = (ofFiles files).summary.errors ∧
    (ofFiles files).entries.countP (·.hasSeverity .warning) = (ofFiles files).summary.warnings ∧
    (ofFiles files).entries.countP (·.isFailure) = (ofFiles files).summary.failures := by
  have hseverity (severity : Severity) : (ofFiles files).entries.countP (·.hasSeverity severity) =
      Summary.countSeverity severity (files.flatMap (·.analyzers)) := by
    simp only [ofFiles, entries, List.countP_flatMap, Function.comp_def,
      FileReport.countP_hasSeverity, Summary.countSeverity, List.flatMap_assoc]
  refine ⟨hseverity .error, hseverity .warning, ?_⟩
  simp only [ofFiles, Summary.ofFiles, entries, List.countP_flatMap, Function.comp_def,
    FileReport.countP_isFailure]

/-- The form for readers has a line for each entry and then the summary, whatever the colours are;
the entries stand in the order of the document for machines, and the summary counts them. -/
structure PrintedInFull (r : CheckResult) : Prop where
  lines : ∀ mode noColour, mode ≠ "json" →
    let coloured := usesColour mode noColour
    printCheck r mode noColour =
      joinLines (r.entries.map (·.text coloured)) ++ line (summaryLine coloured r.summary)
  order : ∀ noColour, ((Json.parse? (printCheck r "json" noColour)).bind check?).map entries =
    some r.entries
  errors : r.entries.countP (·.hasSeverity .error) = r.summary.errors
  warnings : r.entries.countP (·.hasSeverity .warning) = r.summary.warnings
  failures : r.entries.countP (·.isFailure) = r.summary.failures

theorem joinLines_append_singleton (ls : List String) (l : String) :
    joinLines (ls ++ [l]) = joinLines ls ++ line l := by
  rw [← String.toList_inj, joinLines, joinLines, String.toList_append, toList_joinWith_empty,
    toList_joinWith_empty]
  simp

theorem printedInFull {files : List FileReport}
    (h : ∀ f ∈ files, ∀ a ∈ f.analyzers, a.Exclusive) : PrintedInFull (ofFiles files) := by
  obtain ⟨herrors, hwarnings, hfailures⟩ := countP_entries files
  refine ⟨fun mode noColour hmode => ?_, fun noColour => ?_, herrors, hwarnings, hfailures⟩
  · rw [printCheck, if_neg hmode, checkLines_eq h, joinLines_append_singleton]
  · obtain ⟨doc, -, -, hdoc, hcheck⟩ := conveys_printCheck (ofFiles files) noColour
    rw [hdoc, Option.bind_some, hcheck, Option.map_some]

end CheckResult

/-! ## The reports of a check -/

theorem Desk.exclusive_analyzerReport (d : Desk) (id : String) (o : Outcome) :
    (d.analyzerReport id o).Exclusive := by
  cases o with
  | failed reason => exact fun _ => rfl
  | updated n => exact fun h => absurd rfl h
  | superseded => exact fun h => absurd rfl h

theorem Desk.Reading.exclusive {d : Desk} {outcomes : List (String × Outcome)}
    {history : List DeskEvent} {reports : List AnalyzerReport}
    (h : d.Reading outcomes history reports) : ∀ a ∈ reports, a.Exclusive := by
  induction h with
  | done => nofun
  | complete _ ih => exact ih
  | read _ ih => exact List.forall_mem_cons.mpr ⟨exclusive_analyzerReport _ _ _, ih⟩

theorem Desk.Checking.exclusive {d : Desk} {root : String} {files : List String}
    {history : List DeskEvent} {reports : List FileReport}
    (h : d.Checking root files history reports) :
    ∀ f ∈ reports, ∀ a ∈ f.analyzers, a.Exclusive := by
  induction h with
  | done => nofun
  | complete _ ih => exact ih
  | file _ _ hreading _ ih => exact List.forall_mem_cons.mpr ⟨hreading.exclusive, ih⟩

theorem Session.exclusive_checkFiles {σ : Type} (root : String) (s : Session σ)
    (files : List String) : ∀ f ∈ (s.checkFiles root files).1, ∀ a ∈ f.analyzers, a.Exclusive := by
  induction files generalizing s with
  | nil => nofun
  | cons file files ih =>
    refine List.forall_mem_cons.mpr ⟨?_, ih _⟩
    intro a ha
    obtain ⟨⟨id, o⟩, -, rfl⟩ := List.mem_map.mp ha
    exact Desk.exclusive_analyzerReport _ _ _

/-- What a check has to say is printed in full, be it the check of a session or one during which
older runs end at any moments. -/
theorem checks_printed_in_full :
    (∀ {σ : Type} (s : Session σ) (root : String) (files : List String),
      (s.check root files).1.PrintedInFull) ∧
    ∀ (d : Desk) (root : String) (files : List String) (history : List DeskEvent)
      (reports : List FileReport), d.Checking root files history reports →
        (CheckResult.ofFiles reports).PrintedInFull := by
  constructor
  · intro σ s root files
    exact CheckResult.printedInFull (s.exclusive_checkFiles root files)
  · intro d root files history reports h
    exact CheckResult.printedInFull h.exclusive

/-- One analyzer fails on the file and the other one finds an issue. -/
theorem checks_printed_in_full_mixed :
    let s : Session Unit := ⟨{ runner := .twoSpeeds, state := (), desk := .fresh .numbers }⟩
    let r := (s.check "/" ["new.php"]).1
    let reason := (Error.unexpectedExit "php" 1).message
    r.entries = [.failed "new.php" "alpha" reason,
        .found "new.php" "beta" ⟨"issue", ⟨6, 0⟩, .warning⟩] ∧
      printCheck r "human" (some "") =
        "⟦failed⟧ new.php ❲alpha❳ — " ++ reason ++ "\n▲ ⟦warn⟧ new.php:7:1 ❲beta❳ — issue\n" ++
          "— Summary — errors=0 warnings=1 failures=1 files=1\n" ∧
      r.summary.warnings = 1 ∧ r.summary.failures = 1 ∧
      ∃ history, s.desk.Checking "/" ["new.php"] history r.files ∧
        (CheckResult.ofFiles r.files).PrintedInFull := by
  intro s r reason
  have hentries : r.entries = [.failed "new.php" "alpha" reason,
      .found "new.php" "beta" ⟨"issue", ⟨6, 0⟩, .warning⟩] := by decide +kernel
  have hfull : r.PrintedInFull := checks_printed_in_full.1 s "/" ["new.php"]
  obtain ⟨history, hchecking, -⟩ :=
    Session.checking_checkFiles (s := s) (.fresh ..) "/" ["new.php"]
  refine ⟨hentries, (hfull.lines "human" (some "") (by decide)).trans ?_, ?_, ?_,
    history, hchecking, checks_printed_in_full.2 _ _ _ _ _ hchecking⟩
  · rw [hentries]
    decide +kernel
  · rw [← hfull.warnings, hentries]
    rfl
  · rw [← hfull.failures, hentries]
    rfl

end LintDesk
