import LintDesk.Document.Format
import LintDesk.Json.Basic

/-! # JSON as a document format -/

namespace LintDesk.Json

open LintDesk.Document

/-- A name, written as a text or as the only member of an object, with the value null. -/
def choice? : Json → Option String
  | str s => some s
  | obj [(k, null)] => some k
  | _ => none

def integerWithin? (lo hi : Int) : Json → Option Int
  | int n => if lo ≤ n ∧ n ≤ hi then some n else none
  | _ => none

def fields? : Json → Option (List (String × Json))
  | obj ms => some ms
  | _ => none

def format : Format Json where
  isAbsent? v := some v.isNull
  text? := str?
  flag? := bool?
  integer? := integerWithin?
  choice? := choice?
  items? := arr?
  fields? := fields?
  allowsSurplus := false

end LintDesk.Json
