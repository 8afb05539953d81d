import LintDesk.Toml.Basic

/-! # Building tables

Keys and headers add to a table under the rules that keep every table in one place: a table with a
header or between braces is complete, a table that a dotted key has made takes further dotted keys,
and one that was only passed on the way to another may still get its header.
-/

namespace LintDesk.Toml

abbrev Fields := List (String × Toml)

namespace Fields

/-- Gives a field a new value, at its place if it is there and at the end otherwise. -/
def put (key : String) (v : Toml) : Fields → Fields
  | [] => [(key, v)]
  | (k, w) :: rest => if k = key then (k, v) :: rest else (k, w) :: put key v rest

/-- Adds a field that is not there yet. -/
def add? (key : String) (v : Toml) (t : Fields) : Option Fields :=
  if (t.lookup key).isSome then none else some (t.put key v)

/-- Adds to the table at a dotted key; the tables on the way are made where they are missing. -/
def addDotted? (path : List String) (key : String) (v : Toml) (t : Fields) : Option Fields :=
  match path with
  | [] => t.add? key v
  | [k] =>
      match t.lookup k with
      | none => some (t.put k (.table .dotted [(key, v)]))
      | some (.table .dotted u) => do return t.put k (.table .dotted (← add? key v u))
      | _ => none
  | k :: rest =>
      match t.lookup k with
      | none => do return t.put k (.table .dotted (← addDotted? rest key v []))
      | some (.table .dotted u) => do return t.put k (.table .dotted (← addDotted? rest key v u))
      | some (.table .passed u) => do return t.put k (.table .passed (← addDotted? rest key v u))
      | some (.array .ofTables items) =>
          match items.getLast? with
          | some (.table kind u) => do
              let last := .table kind (← addDotted? rest key v u)
              return t.put k (.array .ofTables (items.dropLast ++ [last]))
          | _ => none
      | _ => none

/-- Changes the table that a header leads to; of an array of tables that is the last one. -/
def within? (path : List String) (f : Fields → Option Fields) (t : Fields) : Option Fields :=
  match path with
  | [] => f t
  | k :: rest =>
      match t.lookup k with
      | none => do return t.put k (.table .passed (← within? rest f []))
      | some (.table .inline _) => none
      | some (.table kind u) => do return t.put k (.table kind (← within? rest f u))
      | some (.array .ofTables items) =>
          match items.getLast? with
          | some (.table kind u) => do
              let last := .table kind (← within? rest f u)
              return t.put k (.array .ofTables (items.dropLast ++ [last]))
          | _ => none
      | some _ => none

/-- Opens the table of a header. -/
def openTable? (key : String) (t : Fields) : Option Fields :=
  match t.lookup key with
  | none => some (t.put key (.table .headed []))
  | some (.table .passed u) => some (t.put key (.table .headed u))
  | some _ => none

/-- Opens one more table of an array of tables. -/
def openItem? (key : String) (t : Fields) : Option Fields :=
  match t.lookup key with
  | none => some (t.put key (.array .ofTables [.table .headed []]))
  | some (.array .ofTables items) =>
      some (t.put key (.array .ofTables (items ++ [.table .headed []])))
  | some _ => none

end Fields

/-- What a line of a document says. -/
inductive Statement where
  /-- A header; the last part of its key comes apart from the others. -/
  | header (path : List String) (key : String)
  /-- The header of a table in an array. -/
  | item (path : List String) (key : String)
  | field (path : List String) (key : String) (value : Toml)

/-- A document up to some line: its tables, and the path to the table that fields go to. -/
structure Draft where
  fields : Fields := []
  current : List String := []

namespace Draft

/-- Adds what a line says. -/
def add? (d : Draft) : Statement → Option Draft
  | .header path key => do return ⟨← d.fields.within? path (Fields.openTable? key), path ++ [key]⟩
  | .item path key => do return ⟨← d.fields.within? path (Fields.openItem? key), path ++ [key]⟩
  | .field path key v => do
      return { d with fields := ← d.fields.within? d.current (Fields.addDotted? path key v) }

/-- The document with the given lines. -/
def ofStatements? (ss : List Statement) : Option Draft := ss.foldlM add? {}

end Draft
end LintDesk.Toml
