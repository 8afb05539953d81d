import LintDesk.Text.Search

/-! # Diagnostics

One issue that an analyzer reports: a message, a position counted from zero, and a severity.
-/

namespace LintDesk

inductive Severity where
  | error
  | warning
deriving DecidableEq, Repr

namespace Severity

open LintDesk.Text

/-- The severity that a word of an analyzer's output stands for: whatever mentions `error` or
`fatal`, in any ASCII case, is an error, and everything else a warning. -/
def ofToken (token : String) : Severity :=
  let t := token.toList.map lowerAscii
  if occurs "error".toList t || occurs "fatal".toList t then error else warning

def name : Severity → String
  | error => "error"
  | warning => "warning"

def ofName? : String → Option Severity
  | "error" => some error
  | "warning" => some warning
  | _ => none

@[simp] theorem ofName?_name (s : Severity) : ofName? s.name = some s := by cases s <;> rfl

end Severity

/-- A place in a file; lines and columns are counted from zero. -/
structure Position where
  line : UInt32
  column : UInt32
deriving DecidableEq, Repr

structure Diagnostic where
  message : String
  position : Position
  severity : Severity
deriving DecidableEq, Repr

end LintDesk
