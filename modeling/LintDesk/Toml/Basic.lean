import LintDesk.Document.Format

/-! # TOML documents -/

namespace LintDesk

/-- How a table has come into being, which decides on what may be added to it. -/
inductive TableKind where
  /-- By a header of its own. -/
  | headed
  /-- On the way to a table below it that has a header. -/
  | passed
  /-- By a dotted key. -/
  | dotted
  /-- Between braces. -/
  | inline
deriving DecidableEq, Repr

/-- How an array has come into being: between brackets, or by headers of its tables. -/
inductive ArrayKind where
  | bracketed
  | ofTables
deriving DecidableEq, Repr

/-- A value of a document. Floats are not told apart; of a date or time the spelling is kept. -/
inductive Toml where
  | text (s : String)
  | integer (n : Int)
  | float
  | boolean (b : Bool)
  | moment (spelling : String)
  | array (kind : ArrayKind) (items : List Toml)
  | table (kind : TableKind) (fields : List (String × Toml))

namespace Toml

open LintDesk.Document

def text? : Toml → Option String
  | text s => some s
  | _ => none

def flag? : Toml → Option Bool
  | boolean b => some b
  | _ => none

def integerWithin? (lo hi : Int) : Toml → Option Int
  | integer n => if lo ≤ n ∧ n ≤ hi then some n else none
  | _ => none

def items? : Toml → Option (List Toml)
  | array _ items => some items
  | _ => none

/-- The fields of a table. A date or time counts as a record too, with its spelling as its only
field. -/
def fields? : Toml → Option (List (String × Toml))
  | table _ fields => some fields
  | moment spelling => some [("spelling", text spelling)]
  | _ => none

/-- A name, written as a text or as the only key of a table, with an empty table or array. -/
def choice? : Toml → Option String
  | text s => some s
  | table _ [(k, table _ [])] | table _ [(k, array _ [])] => some k
  | _ => none

/-- No value of a document stands for an absent one. -/
def format : Format Toml where
  isAbsent? _ := some false
  text? := text?
  flag? := flag?
  integer? := integerWithin?
  choice? := choice?
  items? := items?
  fields? := fields?
  allowsSurplus := true

end Toml
end LintDesk
