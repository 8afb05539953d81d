import LintDesk.Unicode.Category
import LintDesk.Unicode.Script
import LintDesk.Unicode.Property

/-! # Sets of characters by name

The names of categories, scripts and properties are compared without regard to case, blanks,
hyphens, underscores and a leading `is`.
-/

namespace LintDesk.Unicode.Names

def skipped (c : Char) : Bool := c == ' ' || c == '_' || c == '-'

/-- The name in the form in which the tables list it. -/
def normalize (name : List Char) : String :=
  let lower := name.map Char.toLower
  let (isGone, rest) := match lower with
    | 'i' :: 's' :: rest => (true, rest)
    | rest => (false, rest)
  let kept := rest.filter fun c => !skipped c && c.toNat < 0x80
  if isGone && kept == ['c'] then "isc" else String.ofList kept

def lookup (table : List (String × CharSet)) (name : String) : Option CharSet :=
  (table.find? (·.1 == name)).map (·.2)

/-- The set with a name of its own: a property, a category or a script. Three short names belong
to a category although a property has them too. -/
def byName? (name : List Char) : Option CharSet :=
  let n := normalize name
  let property := if n == "cf" || n == "sc" || n == "lc" then none else lookup Property.byName n
  property <|> lookup Category.byName n <|> lookup Script.byName n

/-- The set of the characters whose kind of the given name has the named value. -/
def byValue? (kind value : List Char) : Option CharSet :=
  let v := normalize value
  match normalize kind with
  | "gc" | "generalcategory" => lookup Category.byName v
  | "sc" | "script" => lookup Script.byName v
  | _ => none

end LintDesk.Unicode.Names
