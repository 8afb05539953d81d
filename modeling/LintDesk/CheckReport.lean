import LintDesk.Diagnostic

/-! # Reports of a check -/

namespace LintDesk

/-- What one analyzer found in one file, or why it failed. -/
structure AnalyzerReport where
  analyzer : String
  name : String
  diagnostics : List Diagnostic
  failure : Option String
deriving DecidableEq, Repr

structure FileReport where
  file : String
  analyzers : List AnalyzerReport
deriving DecidableEq, Repr

/-- How much a check found. -/
structure Summary where
  errors : Nat
  warnings : Nat
  failures : Nat
  files : Nat
deriving DecidableEq, Repr

structure CheckResult where
  files : List FileReport
  summary : Summary
deriving DecidableEq, Repr

namespace Summary

def countSeverity (severity : Severity) (reports : List AnalyzerReport) : Nat :=
  (reports.flatMap (·.diagnostics)).countP (·.severity == severity)

def ofFiles (files : List FileReport) : Summary :=
  let reports := files.flatMap (·.analyzers)
  { errors := countSeverity .error reports
    warnings := countSeverity .warning reports
    failures := reports.countP (·.failure.isSome)
    files := files.length }

end Summary

/-- The reports with their summary. -/
def CheckResult.ofFiles (files : List FileReport) : CheckResult := ⟨files, .ofFiles files⟩

end LintDesk
