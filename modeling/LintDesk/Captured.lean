import LintDesk.Error

/-! # Captured output

What a finished process leaves behind, and when its text counts.
-/

namespace LintDesk

/-- The text a process wrote, standard output before standard error, and its exit code; a process
ended by a signal has none. -/
structure Captured where
  text : String
  exitCode : Option Int
deriving DecidableEq, Repr

/-- The text, provided that the process exited with one of the accepted codes. -/
def Captured.accept (c : Captured) (program : String) (accepted : List Int) :
    Except Error String :=
  match c.exitCode with
  | some code =>
      if accepted.contains code then .ok c.text else .error (.unexpectedExit program code)
  | none => .error (.terminated program)

end LintDesk
