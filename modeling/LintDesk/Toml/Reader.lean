import LintDesk.Toml.Scalar
import LintDesk.Toml.Table
import LintDesk.Toml.Text

/-! # Reading TOML documents -/

namespace LintDesk.Toml

open LintDesk.Text

/-- Passes over a comment, up to the end of its line. -/
def skipComment : List Char → List Char
  | '#' :: s => s.dropWhile isPlain
  | s => s

/-- Passes over blanks, comments and line ends. -/
def skipLines : Nat → List Char → List Char
  | 0, s => s
  | n + 1, s =>
      let rest := skipComment (skipSpace s)
      match newline? rest with
      | some rest => skipLines n rest
      | none => rest

def skipFiller (s : List Char) : List Char := skipLines (s.length + 1) s

/-- Reads what may follow on a line after a header or field, with the line end. -/
def endLine? (s : List Char) : Option (List Char) :=
  match skipComment (skipSpace s) with
  | [] => some []
  | rest => newline? rest

/-! ## Keys -/

def isBareKeyChar (c : Char) : Bool := c.isAlphanum || c == '_' || c == '-'

def simpleKey? (s : List Char) : Option (String × List Char) :=
  match s.takeWhile isBareKeyChar with
  | [] => quoted? s
  | key => some (String.ofList key, s.drop key.length)

/-- Reads a key with dots, at least one part, and the blanks around its parts. -/
def key? : Nat → List Char → Option (List String × List Char)
  | 0, _ => none
  | n + 1, s => do
      let (part, s) ← simpleKey? (skipSpace s)
      match skipSpace s with
      | '.' :: s => do
          let (parts, s) ← key? n s
          return (part :: parts, s)
      | s => return ([part], s)

/-- A key as the path to its last part, and that part. -/
def splitKey? (parts : List String) : Option (List String × String) :=
  parts.getLast?.map (parts.dropLast, ·)

/-! ## Values -/

mutual

/-- Reads a value; `depth` is how many arrays and tables may still be entered, and the first number
bounds the steps. -/
def readValue? : Nat → Nat → List Char → Option (Toml × List Char)
  | 0, _, _ => none
  | n + 1, depth, s =>
      match s with
      | '[' :: s =>
          if depth = 0 then none
          else do
            let (items, s) ← readItems? n (depth - 1) (skipFiller s)
            return (.array .bracketed items, s)
      | '\x7b' :: s =>
          if depth = 0 then none
          else do
            let (fields, s) ← readFields? n (depth - 1) [] (skipFiller s)
            return (.table .inline fields, s)
      | '"' :: _ | '\'' :: _ => do
          let (t, s) ← anyQuoted? s
          return (.text t, s)
      | s => do
          let (run, rest) := scalarRun s
          return (← ofRun? run, rest)

/-- Reads items up to the closing bracket. -/
def readItems? : Nat → Nat → List Char → Option (List Toml × List Char)
  | 0, _, _ => none
  | _ + 1, _, ']' :: s => some ([], s)
  | n + 1, depth, s => do
      let (v, s) ← readValue? n depth s
      match skipFiller s with
      | ',' :: s => do
          let (vs, s) ← readItems? n depth (skipFiller s)
          return (v :: vs, s)
      | ']' :: s => return ([v], s)
      | _ => none

/-- Reads fields up to the closing brace, and adds them to those already read. -/
def readFields? : Nat → Nat → Fields → List Char → Option (Fields × List Char)
  | 0, _, _, _ => none
  | _ + 1, _, t, '\x7d' :: s => some (t, s)
  | n + 1, depth, t, s => do
      let (parts, s) ← key? n s
      let (path, key) ← splitKey? parts
      let s ← expect? '=' s
      let (v, s) ← readValue? n depth (skipSpace s)
      let t ← t.addDotted? path key v
      match skipFiller s with
      | ',' :: s => readFields? n depth t (skipFiller s)
      | '\x7d' :: s => return (t, s)
      | _ => none

end

/-! ## Documents -/

/-- How many arrays and tables may be entered one inside the other. -/
def maxDepth : Nat := 80

/-- Reads a header or a field, with its line end. -/
def statement? (n : Nat) (s : List Char) : Option (Statement × List Char) :=
  match s with
  | '[' :: '[' :: s => do
      let (parts, s) ← key? n s
      let (path, key) ← splitKey? parts
      let s ← expect? ']' (← expect? ']' s)
      return (.item path key, ← endLine? s)
  | '[' :: s => do
      let (parts, s) ← key? n s
      let (path, key) ← splitKey? parts
      return (.header path key, ← endLine? (← expect? ']' s))
  | s => do
      let (parts, s) ← key? n s
      let (path, key) ← splitKey? parts
      let (v, s) ← readValue? n maxDepth (skipSpace (← expect? '=' s))
      return (.field path key v, ← endLine? s)

/-- Reads the lines of a document. -/
def statements? : Nat → List Char → Option (List Statement)
  | 0, _ => none
  | n + 1, s =>
      match skipFiller s with
      | [] => some []
      | s => do
          let (statement, s) ← statement? n s
          return statement :: (← statements? n s)

/-- The document that a text spells; a byte order mark may stand in front. -/
def read? (s : List Char) : Option Toml := do
  let s := match s with
    | '\uFEFF' :: s => s
    | s => s
  let draft ← Draft.ofStatements? (← statements? (2 * s.length + 4) s)
  return .table .headed draft.fields

end LintDesk.Toml
