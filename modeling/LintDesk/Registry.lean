import LintDesk.Report

/-! # Report readers by analyzer -/

namespace LintDesk

/-- The report reader of each registered analyzer. -/
structure Registry where
  entries : List (String × ReportReader) := []

namespace Registry

def get? (r : Registry) (id : String) : Option ReportReader :=
  (r.entries.find? (·.1 == id)).map (·.2)

def contains (r : Registry) (id : String) : Bool := (r.get? id).isSome

/-- Adds a reader for an analyzer that has none yet. -/
def register (r : Registry) (id : String) (reader : ReportReader) : Except Error Registry :=
  if r.contains id then .error (.duplicateAnalyzer id)
  else .ok ⟨r.entries ++ [(id, reader)]⟩

/-- Reads the rules of an analyzer, and then adds it. -/
def registerRules (r : Registry) (id : String) (rules : List OutputRule) :
    Except Error Registry := do
  let reader ← ReportReader.compile id rules
  r.register id reader

/-- One reader for each of the analyzers, taken in order. -/
def ofAnalyzers (analyzers : List Analyzer) : Except Error Registry :=
  analyzers.foldlM (fun r a => r.registerRules a.id a.rules) {}

def get (r : Registry) (id : String) : Except Error ReportReader :=
  match r.get? id with
  | some reader => .ok reader
  | none => .error (.unknownAnalyzer id)

/-- The diagnostics in the output of an analyzer; those of an unknown analyzer are dropped. -/
def read (r : Registry) (id output : String) : List Diagnostic :=
  match r.get? id with
  | some reader => reader.read output
  | none => []

end Registry
end LintDesk
