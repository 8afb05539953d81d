import LintDesk.Document.Format
import LintDesk.Analyzer

/-! # Analyzers in documents -/

namespace LintDesk.Document.Format

variable {ν : Type} (F : Format ν)

def severity? (v : ν) : Option Severity := (F.choice? v).bind Severity.ofName?

def ruleFields : List Field := [⟨"pattern", false⟩, ⟨"message", true⟩, ⟨"severity", true⟩]

def rule? (v : ν) : Option OutputRule := do
  let field ← F.record? ruleFields v
  return {
    pattern := ← required F.text? (field "pattern")
    message := ← F.optional F.text? (field "message")
    severity := ← F.optional F.severity? (field "severity") }

def rules? (v : ν) : Option (List OutputRule) := F.list? F.rule? v

def analyzerFields : List Field :=
  [⟨"id", false⟩, ⟨"name", false⟩, ⟨"program", true⟩, ⟨"args", false⟩, ⟨"enabled", true⟩,
    ⟨"options", true⟩, ⟨"option_prefix", true⟩, ⟨"exit_codes", true⟩, ⟨"rules", true⟩]

/-- An analyzer; what is not written has the default of its field. -/
def analyzer? (v : ν) : Option Analyzer := do
  let field ← F.record? analyzerFields v
  return {
    id := ← required F.text? (field "id")
    name := ← required F.text? (field "name")
    program := ← F.optional F.text? (field "program")
    args := ← required F.texts? (field "args")
    enabled := ← defaulted F.flag? true (field "enabled")
    options := ← defaulted F.texts? [] (field "options")
    optionFlag := ← defaulted F.text? "" (field "option_prefix")
    exitCodes := ← defaulted (F.list? F.int32?) [0] (field "exit_codes")
    rules := ← defaulted F.rules? [] (field "rules") }

end LintDesk.Document.Format
