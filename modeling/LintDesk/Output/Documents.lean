import LintDesk.CheckReport
import LintDesk.CommandLine
import LintDesk.Json.Printer

/-! # Reports as JSON documents -/

namespace LintDesk.Output

def position (p : Position) : Json :=
  .obj [("line", .ofNat p.line.toNat), ("column", .ofNat p.column.toNat)]

def diagnostic (d : Diagnostic) : Json :=
  .obj [("message", .str d.message), ("position", position d.position),
    ("severity", .str d.severity.name)]

def diagnostics (ds : List Diagnostic) : Json := .arr (ds.map diagnostic)

/-- The report of one analyzer; a failure is a member only if there is one. -/
def analyzerReport (r : AnalyzerReport) : Json :=
  .obj ([("analyzer", .str r.analyzer), ("name", .str r.name),
    ("diagnostics", diagnostics r.diagnostics)] ++
    r.failure.toList.map fun reason => ("failure", .str reason))

def fileReport (r : FileReport) : Json :=
  .obj [("file", .str r.file), ("analyzers", .arr (r.analyzers.map analyzerReport))]

def summary (s : Summary) : Json :=
  .obj [("errors", .ofNat s.errors), ("warnings", .ofNat s.warnings),
    ("failures", .ofNat s.failures), ("files", .ofNat s.files)]

def check (r : CheckResult) : Json :=
  .obj [("files", .arr (r.files.map fileReport)), ("summary", summary r.summary)]

def command (id : String) (c : CommandLine) : Json :=
  .obj [("analyzer", .str id), ("program", .str c.program), ("args", .strings c.args),
    ("shell", .str (c.render .host))]

def commands (cs : List (String × CommandLine)) : Json :=
  .obj [("commands", .arr (cs.map fun (id, c) => command id c))]

/-- The answer to a query for one analyzer. -/
def inspection (analyzer : String) (ds : List Diagnostic) : Json :=
  .obj [("analyzer", .str analyzer), ("errors", diagnostics ds)]

end LintDesk.Output
