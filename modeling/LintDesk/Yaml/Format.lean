import LintDesk.Document.Format
import LintDesk.Text.Numeral
import LintDesk.Yaml.Node

/-! # YAML as a document format

A plain scalar can be a text, a number, a truth value or nothing at all, depending on what is asked
for. Quoted and block scalars are texts.
-/

namespace LintDesk.Yaml

open LintDesk.Document LintDesk.Text

/-- A node, seen together with the nodes that aliases in it stand for. -/
structure Value where
  node : Node
  anchored : List (Nat × Node)

namespace Value

def ofDocument (d : Document) : Value := ⟨d.root, d.anchored⟩

/-- The node itself, or the one that an alias stands for. -/
def target? (v : Value) : Option Node :=
  match v.node with
  | .reference number => v.anchored.reverse.lookup number
  | node => some node

def isNullWord (s : List Char) : Bool :=
  ["null", "Null", "NULL", "~"].contains (String.ofList s)

def standardTag (name : String) : List Char := ("tag:yaml.org,2002:" ++ name).toList

/-- Only a plain scalar can be absent: an empty one or a word for nothing. With a tag it is not,
except that under the tag for nothing it has to be one of the words. -/
def isAbsent? (v : Value) : Option Bool :=
  match v.target? with
  | some (.scalar p .plain text) =>
      match p.tag with
      | none => some (text.isEmpty || isNullWord text)
      | some tag =>
          if tag = standardTag "null" then if isNullWord text then some true else none
          else some false
  | some _ => some false
  | none => none

def text? (v : Value) : Option String :=
  match v.target? with
  | some (.scalar _ _ text) => some (String.ofList text)
  | _ => none

/-- The text of a scalar that may be more than a text: of a plain one, or of a literal one with the
given tag. -/
def bare? (tag : String) (v : Value) : Option (List Char) :=
  match v.target? with
  | some (.scalar _ .plain text) => some text
  | some (.scalar p .literal text) => if p.tag = some (standardTag tag) then some text else none
  | _ => none

def flag? (v : Value) : Option Bool := do
  match String.ofList (← v.bare? "bool") with
  | "true" | "True" | "TRUE" => some true
  | "false" | "False" | "FALSE" => some false
  | _ => none

/-- A numeral without sign, in one of four bases. -/
def magnitude? : List Char → Option Nat
  | '0' :: 'x' :: s => numeral? 16 s
  | '0' :: 'o' :: s => numeral? 8 s
  | '0' :: 'b' :: s => numeral? 2 s
  | s => if s.head? = some '0' ∧ s.length ≠ 1 then none else numeral? 10 s

/-- An integer between two bounds. A minus sign is read only where negative numbers are allowed. -/
def integerWithin? (lo hi : Int) (v : Value) : Option Int := do
  let n : Int ← match ← v.bare? "int" with
    | '-' :: s => if lo < 0 then (magnitude? s).map fun n => -(n : Int) else none
    | '+' :: s => (magnitude? s).map fun n => (n : Int)
    | s => (magnitude? s).map fun n => (n : Int)
  if lo ≤ n ∧ n ≤ hi then some n else none

/-- A name: a local tag in front of nothing, or else the text of a scalar. -/
def choice? (v : Value) : Option String :=
  match v.target? with
  | some (.scalar p style text) =>
      match p.tag with
      | some ('!' :: name) =>
          if style = .plain && (text.isEmpty || isNullWord text) then
            some (String.ofList (if name.isEmpty then ['!'] else name))
          else none
      | _ => some (String.ofList text)
  | _ => none

def items? (v : Value) : Option (List Value) :=
  match v.target? with
  | some (.sequence _ items) => some (items.map (⟨·, v.anchored⟩))
  | some (.scalar _ .plain []) => some []
  | _ => none

/-- The fields of a mapping, all of whose keys have to be scalars. Nothing at all counts as a
mapping without fields. -/
def fields? (v : Value) : Option (List (String × Value)) :=
  match v.target? with
  | some (.mapping _ pairs) =>
      pairs.mapM fun (k, w) => ((⟨k, v.anchored⟩ : Value).text?).map (·, ⟨w, v.anchored⟩)
  | some (.scalar _ .plain []) => some []
  | _ => none

def format : Format Value where
  isAbsent? := isAbsent?
  text? := text?
  flag? := flag?
  integer? := integerWithin?
  choice? := choice?
  items? := items?
  fields? := fields?
  allowsSurplus := false

end Value
end LintDesk.Yaml
