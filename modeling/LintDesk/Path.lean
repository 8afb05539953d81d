import LintDesk.Text.Search
import LintDesk.Text.Utf8

/-! # Paths

Paths are texts with `/` between their parts. Everything here is lexical: no file is looked up, and
`..` is a part like any other. Two paths count as the same when their parts are the same: repeated
slashes, a slash at the end and a `.` that is not the first part make no difference.

A system takes any bytes in a path. How a file is shown is defined for all of these, and the last
step is to read them as UTF-8. Everywhere else a path is a text: a file whose path does not spell
one is left out, both where arguments are expanded and where an analyzer is given its file.
-/

namespace LintDesk

open LintDesk.Text

inductive PathPart where
  | root
  | current
  | up
  | name (s : List Char)
deriving DecidableEq, Repr

namespace PathPart

def text : PathPart → List Char
  | root => ['/']
  | current => ['.']
  | up => ['.', '.']
  | name s => s

/-- A rank for each kind of part; parts of different kinds are ordered by it. -/
def rank : PathPart → Nat
  | root => 0
  | current => 1
  | up => 2
  | name _ => 3

/-- The order of two names is that of their characters. -/
def compare (a b : PathPart) : Ordering :=
  match a, b with
  | name s, name t => compareOfLessAndEq (String.ofList s) (String.ofList t)
  | _, _ => compareOfLessAndEq a.rank b.rank

end PathPart

namespace Path

def isAbsolute (p : List Char) : Bool := p.head? == some '/'

/-- The part that a piece between slashes stands for, if any. -/
def part? (first : Bool) (piece : List Char) : Option PathPart :=
  if piece = [] then none
  else if piece = ['.'] then if first then some .current else none
  else if piece = ['.', '.'] then some .up
  else some (.name piece)

/-- The parts of a path after its first piece, each with the number of characters of the path up
to its end; `start` characters go before the pieces. -/
def partsFrom (start : Nat) (first : Bool) : List (List Char) → List (PathPart × Nat)
  | [] => []
  | piece :: rest =>
      let stop := start + piece.length
      ((part? first piece).map (·, stop)).toList ++ partsFrom (stop + 1) false rest

/-- The parts of a path, each with the length of the path's beginning that ends with it. -/
def marked (p : List Char) : List (PathPart × Nat) :=
  match p with
  | '/' :: rest => (.root, 1) :: partsFrom 1 false (splitWhere (· == '/') rest)
  | p => partsFrom 0 true (splitWhere (· == '/') p)

def parts (p : List Char) : List PathPart := (marked p).map (·.1)

/-- The path up to the end of its last part but one; none for the root and for the empty path. -/
def parent? (p : List Char) : Option (List Char) :=
  match (marked p).reverse with
  | [] => none
  | [(part, _)] => if part = .root then none else some []
  | _ :: (_, stop) :: _ => some (p.take stop)

/-- The path `q` as seen from `p`: an absolute `q` stands for itself, any other is put behind `p`
with a slash between them. -/
def join (p q : List Char) : List Char :=
  if isAbsolute q then q
  else if p = [] || p.getLast? == some '/' then p ++ q
  else p ++ '/' :: q

/-- The path made of the given parts. -/
def ofParts (ps : List PathPart) : List Char := ps.foldl (fun p part => join p part.text) []

/-- The last part, if it is a name. -/
def fileName? (p : List Char) : Option (List Char) :=
  match (parts p).getLast? with
  | some (.name s) => some s
  | _ => none

/-- The lexicographic order of paths by their parts. -/
def comparePartLists : List PathPart → List PathPart → Ordering
  | [], [] => .eq
  | [], _ :: _ => .lt
  | _ :: _, [] => .gt
  | a :: as, b :: bs => (a.compare b).then (comparePartLists as bs)

def le (p q : List Char) : Bool := comparePartLists (parts p) (parts q) != .gt

/-! ## One path relative to another -/

/-- The parts that lead from `base` to `path`, given those already found. Once a part differs, each
remaining part of `base` is answered by one step up; a step up in `base` itself cannot be
answered. -/
def stepsBetween (found : List PathPart) :
    List PathPart → List PathPart → Option (List PathPart)
  | [], [] => some found
  | a :: as, [] => some (found ++ a :: as)
  | [], _ :: bs => stepsBetween (found ++ [.up]) [] bs
  | a :: as, b :: bs =>
      if found = [] ∧ a = b then stepsBetween [] as bs
      else if b = .current then stepsBetween (found ++ [a]) as bs
      else if b = .up then none
      else some (found ++ .up :: (bs.map fun _ => .up) ++ a :: as)
termination_by as bs => as.length + bs.length

/-- The path that leads from `base` to `path`. -/
def relative? (path base : List Char) : Option (List Char) :=
  if isAbsolute path != isAbsolute base then if isAbsolute path then some path else none
  else (stepsBetween [] (parts path) (parts base)).map ofParts

/-- The path by which a file is shown to a reader who stands at `root`: relative to it when the file
lies below it, and as it is otherwise. -/
def display (file root : List Char) : List Char :=
  match relative? file root with
  | some p => if (parts p).head? = some .up then file else p
  | none => file

end Path

/-- `Path.join` on texts. -/
def joinPath (p q : String) : String := String.ofList (Path.join p.toList q.toList)

/-! ## Paths of any bytes -/

/-- A path as the system has it. -/
abbrev BytePath := List UInt8

namespace BytePath

/-- The path with each byte as the character of that number. All that is asked of a character in a
path is whether it is a slash, a dot or the same as another one, and this the bytes tell as well. -/
def chars (p : BytePath) : List Char := p.map Char.ofUInt8

/-- The bytes that such characters stand for. -/
def ofChars (s : List Char) : BytePath := s.map Char.toUInt8

/-- The text for a path, with U+FFFD where its bytes spell none. -/
def text (p : BytePath) : String := String.ofList (Utf8.lossy p)

/-- The path that a file is shown by, to a reader who stands at `root`. -/
def fromRoot (file root : BytePath) : BytePath := ofChars (Path.display file.chars root.chars)

/-- How a file is shown to a reader who stands at `root`. -/
def display (file root : BytePath) : String := (fromRoot file root).text

end BytePath

/-- `BytePath.display` for paths that are texts. -/
def displayPath (file root : String) : String :=
  BytePath.display (Utf8.encode file) (Utf8.encode root)

end LintDesk
