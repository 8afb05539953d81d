import LintDesk.Text.Blank
import LintDesk.Text.Lines
import LintDesk.Analyzer
import LintDesk.Error
import LintDesk.Regex.Template

/-! # Reading the output of an analyzer

Output is read line by line. The first rule whose pattern matches a line decides on it; a line that
no rule matches, whose line number is no number, or whose message is blank says nothing. A
diagnostic that is reported twice counts once.
-/

namespace LintDesk

open LintDesk.Text

/-- An output rule whose pattern has been read. -/
structure CompiledRule where
  regex : Regex
  message : String
  severity : Option Severity

namespace OutputRule

/-- The template of rules that give none. -/
def defaultMessage : String := "$message"

/-- Reads the pattern of a rule of the named analyzer. -/
def compile (analyzer : String) (rule : OutputRule) : Except Error CompiledRule :=
  match Regex.compile? rule.pattern with
  | none => .error (.invalidPattern analyzer)
  | some regex =>
      if regex.hasGroup "line" then
        .ok ⟨regex, rule.message.getD defaultMessage, rule.severity⟩
      else .error (.invalidRule analyzer rule.pattern)

end OutputRule

/-- The rules for the output of one analyzer, in order. -/
structure ReportReader where
  rules : List CompiledRule

namespace ReportReader

/-- Reads the patterns of all rules; the first bad one is reported. -/
def compile (analyzer : String) (rules : List OutputRule) : Except Error ReportReader :=
  (rules.mapM (OutputRule.compile analyzer)).map ReportReader.mk

/-- The first rule that matches a line, with its match. -/
def firstMatch (rules : List CompiledRule) (line : List Char) : Option (CompiledRule × Captures) :=
  rules.findSome? fun r => (r.regex.captures? line).map (r, ·)

/-- The number one less, or zero, as a coordinate. -/
def fromOne (n : Nat) : UInt32 := UInt32.ofNat (n - 1)

/-- The diagnostic that a match of a rule stands for. -/
def diagnostic? (rule : CompiledRule) (c : Captures) : Option Diagnostic := do
  let line ← natBelow? bound32 (← c.name? "line")
  let column := ((c.name? "column").bind (natBelow? bound32)).getD 1
  let severity :=
    match c.name? "severity" with
    | some token => Severity.ofToken (String.ofList token)
    | none => rule.severity.getD .warning
  let message := trimChars (c.expand rule.message)
  if message.isEmpty then none
  else some ⟨String.ofList message, ⟨fromOne line, fromOne column⟩, severity⟩

def readLine (r : ReportReader) (line : List Char) : Option Diagnostic := do
  let (rule, c) ← firstMatch r.rules line
  diagnostic? rule c

/-- The list without the later repetitions of an item, and without the items of `seen`. -/
def withoutRepeats (seen : List Diagnostic) : List Diagnostic → List Diagnostic
  | [] => []
  | d :: ds => if d ∈ seen then withoutRepeats seen ds else d :: withoutRepeats (d :: seen) ds

def readLines (r : ReportReader) (ls : List (List Char)) : List Diagnostic :=
  withoutRepeats [] (ls.filterMap r.readLine)

/-- The diagnostics in the output of an analyzer. -/
def read (r : ReportReader) (output : String) : List Diagnostic := r.readLines (lines output.toList)

end ReportReader
end LintDesk
