import LintDesk.Config.Basic
import LintDesk.Document.Analyzer

/-! # Configurations in documents -/

namespace LintDesk.Document.Format

variable {ν : Type} (F : Format ν)

/-- An unsigned integer of 64 bits. -/
def nat64? (v : ν) : Option Nat := (F.integer? 0 (Nat.pow 2 64 - 1) v).map Int.toNat

def probeFields : List Field := [⟨"args", false⟩, ⟨"marker", false⟩]

def probeSection? (v : ν) : Option ProbeSection := do
  let field ← F.record? probeFields v
  return {
    args := ← F.optional F.texts? (field "args")
    marker := ← F.optional F.text? (field "marker") }

def sectionFields : List Field :=
  ["name", "program", "args", "enabled", "options", "option_prefix", "exit_codes", "rules"].map
    (⟨·, false⟩)

def analyzerSection? (v : ν) : Option AnalyzerSection := do
  let field ← F.record? sectionFields v
  return {
    name := ← F.optional F.text? (field "name")
    program := ← F.optional F.text? (field "program")
    args := ← F.optional F.texts? (field "args")
    enabled := ← F.optional F.flag? (field "enabled")
    options := ← F.optional F.texts? (field "options")
    optionFlag := ← F.optional F.text? (field "option_prefix")
    exitCodes := ← F.optional (F.list? F.int32?) (field "exit_codes")
    rules := ← F.optional F.rules? (field "rules") }

/-- The sections on analyzers; each of them has to be well formed, also one that a later one
replaces. -/
def analyzerSections? (v : ν) : Option AnalyzerSections := do
  let written ← F.fields? v
  return .ofList (← written.mapM fun (id, v) => (F.analyzerSection? v).map (id, ·))

def configFields : List Field :=
  [⟨"interpreter", false⟩, ⟨"vendor", false⟩, ⟨"output", false⟩, ⟨"timeout_secs", false⟩,
    ⟨"probe", true⟩, ⟨"analyzers", true⟩]

/-- A configuration; members that it does not know are passed over. -/
def config? (v : ν) : Option ConfigFile := do
  let field ← F.record? configFields v
  return {
    interpreter := ← F.optional F.text? (field "interpreter")
    vendor := ← F.optional F.text? (field "vendor")
    output := ← F.optional F.text? (field "output")
    timeout := ← F.optional F.nat64? (field "timeout_secs")
    probe := ← F.optional F.probeSection? (field "probe")
    analyzers := (← F.optional F.analyzerSections? (field "analyzers")).getD .empty }

end LintDesk.Document.Format
