/-! # Errors

Everything that can go wrong while a configuration is read, an interpreter is probed or an
analyzer is run, with the wording of each.
-/

namespace LintDesk

/-- What is wrong with a configuration file. -/
inductive ConfigFault where
  /-- The file cannot be read, or is no document of its format, or has a value of a wrong kind. -/
  | unreadable
  /-- An analyzer that does not come with the program lacks a field. -/
  | missingField (analyzer field : String)
deriving DecidableEq, Repr

inductive Error where
  | toolUnavailable (interpreter reason : String)
  | spawn (program reason : String)
  | unexpectedExit (program : String) (code : Int)
  | terminated (program : String)
  | timeout (program : String) (seconds : Nat)
  | unknownAnalyzer (id : String)
  | duplicateAnalyzer (id : String)
  /-- The pattern has no group `line`. -/
  | invalidRule (analyzer pattern : String)
  /-- The pattern is no regular expression. -/
  | invalidPattern (analyzer : String)
  | config (path : String) (fault : ConfigFault)
deriving DecidableEq, Repr

/-- A text between two backticks. -/
def ticked (s : String) : String := "`" ++ s ++ "`"

def ConfigFault.message : ConfigFault → String
  | unreadable => "not a readable configuration file"
  | missingField id field =>
      "analyzer " ++ ticked id ++ " is not built in and needs " ++ ticked field

def Error.message : Error → String
  | toolUnavailable interpreter reason =>
      "interpreter " ++ ticked interpreter ++ " is not available: " ++ reason
  | spawn program reason => "failed to spawn " ++ ticked program ++ ": " ++ reason
  | unexpectedExit program code =>
      ticked program ++ " exited with unexpected status " ++ toString code
  | terminated program => ticked program ++ " was terminated by a signal"
  | timeout program seconds =>
      ticked program ++ " timed out after " ++ toString seconds ++ "s"
  | unknownAnalyzer id => "no parser registered for analyzer " ++ ticked id
  | duplicateAnalyzer id => "analyzer " ++ ticked id ++ " is registered more than once"
  | invalidRule analyzer pattern =>
      "invalid output rule for analyzer " ++ ticked analyzer ++ ": pattern " ++ ticked pattern ++
        " has no " ++ ticked "line" ++ " group"
  | invalidPattern analyzer =>
      "invalid output pattern for analyzer " ++ ticked analyzer ++ ": not a regular expression"
  | config path fault => "invalid configuration " ++ path ++ ": " ++ fault.message

end LintDesk
