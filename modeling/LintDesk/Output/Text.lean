import LintDesk.Output.Documents
import LintDesk.Output.Style

/-! # What the program prints

Lines for readers, one for each diagnostic and each failure, or the JSON document of a report.
-/

namespace LintDesk.Output

/-- A text as a line of its own. -/
def line (s : String) : String := s ++ "\n"

/-- A place in a file, counted from one. -/
def location (file : String) (p : Position) : String :=
  file ++ ":" ++ toString (p.line + 1).toNat ++ ":" ++ toString (p.column + 1).toNat

def severityColour : Severity → Colour
  | .error => .red
  | .warning => .yellow

def severityTag : Severity → String
  | .error => "⟦error⟧"
  | .warning => "⟦warn⟧"

def severityIcon : Severity → String
  | .error => "✖"
  | .warning => "▲"

def diagnosticLine (coloured : Bool) (file analyzer : String) (d : Diagnostic) : String :=
  let colour := severityColour d.severity
  tinted coloured colour (severityIcon d.severity) ++ " " ++
    strong coloured colour (severityTag d.severity) ++ " " ++
    emphasized coloured (location file d.position) ++ " ❲" ++ analyzer ++ "❳ — " ++ d.message

def failureLine (coloured : Bool) (file analyzer reason : String) : String :=
  strong coloured .magenta "⟦failed⟧" ++ " " ++ file ++ " ❲" ++ analyzer ++ "❳ — " ++ reason

/-- The lines of one report: the failure, or else the diagnostics. -/
def reportLines (coloured : Bool) (file : String) (r : AnalyzerReport) : List String :=
  match r.failure with
  | some reason => [failureLine coloured file r.analyzer reason]
  | none => r.diagnostics.map (diagnosticLine coloured file r.analyzer)

def fileLines (coloured : Bool) (f : FileReport) : List String :=
  f.analyzers.flatMap (reportLines coloured f.file)

def summaryLine (coloured : Bool) (s : Summary) : String :=
  emphasized coloured <| "— Summary — errors=" ++ toString s.errors ++ " warnings=" ++
    toString s.warnings ++ " failures=" ++ toString s.failures ++ " files=" ++ toString s.files

/-- The lines of a check for readers, the summary last. -/
def checkLines (coloured : Bool) (r : CheckResult) : List String :=
  r.files.flatMap (fileLines coloured) ++ [summaryLine coloured r.summary]

def joinLines (ls : List String) : String := Text.joinWith "" (ls.map line)

/-- What is printed for a check in the given mode. -/
def printCheck (r : CheckResult) (mode : String) (noColour : Option String) : String :=
  if mode = "json" then line (check r).pretty
  else joinLines (checkLines (usesColour mode noColour) r)

def commandText (coloured : Bool) (id : String) (c : CommandLine) : String :=
  strong coloured .cyan id ++ " " ++ c.render .host

/-- What is printed for a list of command lines in the given mode. -/
def printCommands (cs : List (String × CommandLine)) (mode : String) (noColour : Option String) :
    String :=
  if mode = "json" then line (commands cs).pretty
  else joinLines (cs.map fun (id, c) => commandText (usesColour mode noColour) id c)

/-- What is printed for a query: a document on a line of its own. -/
def printInspection (analyzer : String) (ds : List Diagnostic) : String :=
  line (inspection analyzer ds).compact

end LintDesk.Output
