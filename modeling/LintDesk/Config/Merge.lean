import LintDesk.Config.Basic
import LintDesk.Error

/-! # Analyzers of a configuration

The analyzers that come with the program, as the sections of a configuration file change them, and
after them those that the file describes itself.
-/

namespace LintDesk

namespace AnalyzerSection

/-- An analyzer with the fields that a section gives. -/
def override (s : AnalyzerSection) (a : Analyzer) : Analyzer where
  id := a.id
  name := s.name.getD a.name
  program := s.program.or a.program
  args := s.args.getD a.args
  enabled := s.enabled.getD a.enabled
  options := s.options.getD a.options
  optionFlag := s.optionFlag.getD a.optionFlag
  exitCodes := s.exitCodes.getD a.exitCodes
  rules := s.rules.getD a.rules

/-- The field that a section lacks to describe an analyzer of its own. -/
def missing? (s : AnalyzerSection) : Option String :=
  match s.args, s.rules with
  | none, _ => some "args"
  | some _, none => some "rules"
  | some _, some _ => none

/-- The analyzer that a section describes on its own. -/
def analyzer (s : AnalyzerSection) (id : String) : Analyzer :=
  s.override { id := id, name := id, args := [] }

/-- The analyzer for a section of a configuration file whose id is not built in. -/
def custom (path id : String) (s : AnalyzerSection) : Except Error Analyzer :=
  match s.missing? with
  | some field => .error (.config path (.missingField id field))
  | none => .ok (s.analyzer id)

end AnalyzerSection

/-- Changes the first analyzer with the given id, if there is one. -/
def Analyzer.changeFirst? (id : String) (change : Analyzer → Analyzer) :
    List Analyzer → Option (List Analyzer)
  | [] => none
  | a :: as => if a.id = id then some (change a :: as) else (changeFirst? id change as).map (a :: ·)

/-- The analyzers after one more section has been taken into account: it changes the analyzer with
its id, and otherwise describes a new one. -/
def AnalyzerSection.mergeInto (path : String) (as : List Analyzer) (id : String)
    (s : AnalyzerSection) : Except Error (List Analyzer) :=
  match Analyzer.changeFirst? id s.override as with
  | some as => .ok as
  | none => do return as ++ [← s.custom path id]

/-- All analyzers of the configuration at a path. -/
def AnalyzerSections.merge (sections : AnalyzerSections) (path : String) :
    Except Error (List Analyzer) :=
  sections.entries.foldlM (fun as (id, s) => s.mergeInto path as id) Analyzer.builtin

end LintDesk
