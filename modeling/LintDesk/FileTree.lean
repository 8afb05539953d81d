import LintDesk.Path

/-! # File trees

A file system as a value: every entry under the list of names that leads to it from the root.
Looking up a path follows symbolic links, forty at most, and `..` leads to the directory above the
one that has been reached.
-/

namespace LintDesk

open LintDesk.Text

abbrev FileName := List Char

inductive Entry where
  | dir
  | file (bytes : List UInt8) (executable : Bool)
  /-- A program of the machine, known by its name. -/
  | program (name : String)
  | link (target : List Char)
deriving DecidableEq

/-- Why a path leads nowhere. -/
inductive PathFault where
  | missing
  | notDirectory
  | tooManyLinks
deriving DecidableEq, Repr

/-- The entries of a file system; later ones count before earlier ones of the same name. -/
structure FileTree where
  entries : List (List FileName × Entry) := [([], .dir)]

namespace FileTree

def entry? (t : FileTree) (names : List FileName) : Option Entry :=
  (t.entries.find? (·.1 == names)).map (·.2)

def put (t : FileTree) (names : List FileName) (e : Entry) : FileTree :=
  ⟨(names, e) :: t.entries⟩

/-- Makes a directory and those above it, as far as nothing is there. -/
def makeDirs (t : FileTree) (names : List FileName) : FileTree :=
  (List.range (names.length + 1)).foldl (fun t n =>
    if (t.entry? (names.take n)).isSome then t else t.put (names.take n) .dir) t

/-- Adds an entry, and the directories above it. -/
def add (t : FileTree) (names : List FileName) (e : Entry) : FileTree :=
  match e with
  | .dir => t.makeDirs names
  | e => (t.makeDirs names.dropLast).put names e

/-- The names in a directory, each once, in ascending order. -/
def namesIn (t : FileTree) (dir : List FileName) : List FileName :=
  let names := t.entries.filterMap fun (ns, _) =>
    if ns.dropLast == dir then ns.getLast? else none
  names.eraseDups.mergeSort fun a b => String.ofList a ≤ String.ofList b

/-- The pieces of a path that a lookup passes through; a slash at the end asks for a directory. -/
def pieces (path : List Char) : List FileName :=
  let ps := splitWhere (· == '/') path
  ps.dropLast.filter (· ≠ []) ++ (ps.getLast?.map fun p => if p = [] then ['.'] else p).toList

/-- Follows the pieces of a path from a place that has been reached. -/
def follow (t : FileTree) (links : Nat) (here : List FileName) (path : List FileName) :
    Except PathFault (List FileName) :=
  match path with
  | [] => .ok here
  | piece :: rest =>
      if t.entry? here ≠ some .dir then .error .notDirectory
      else if piece = ['.'] then t.follow links here rest
      else if piece = ['.', '.'] then t.follow links here.dropLast rest
      else
        match t.entry? (here ++ [piece]) with
        | none => .error .missing
        | some (.link target) =>
            match links with
            | 0 => .error .tooManyLinks
            | n + 1 =>
                if target = [] then .error .missing
                else
                  t.follow n (if Path.isAbsolute target then [] else here) (pieces target ++ rest)
        | some _ => t.follow links (here ++ [piece]) rest
termination_by (links, path.length)

end FileTree

/-- The absolute path that some names make up. -/
def Path.ofNames (names : List FileName) : List Char :=
  if names = [] then ['/'] else names.flatMap ('/' :: ·)

/-- A file tree seen from a working directory. -/
structure Place where
  tree : FileTree
  cwd : List FileName := []

namespace Place

/-- The entry that a path leads to, and the names that lead to it without a link. -/
def resolve (p : Place) (path : List Char) : Except PathFault (List FileName × Entry) :=
  if path = [] then .error .missing
  else do
    let start := if Path.isAbsolute path then [] else p.cwd
    let names ← p.tree.follow 40 start (FileTree.pieces path)
    match p.tree.entry? names with
    | some e => .ok (names, e)
    | none => .error .missing

def stat? (p : Place) (path : List Char) : Option Entry := (p.resolve path).toOption.map (·.2)

def has (p : Place) (path : List Char) : Bool := (p.stat? path).isSome

def isDir (p : Place) (path : List Char) : Bool := p.stat? path == some .dir

def isFile (p : Place) (path : List Char) : Bool :=
  match p.stat? path with
  | some (.file ..) | some (.program _) => true
  | _ => false

/-- Whether there is an entry, be it a link that leads nowhere: the last piece is not followed. -/
def hasEntry (p : Place) (path : List Char) : Bool :=
  let start := if Path.isAbsolute path then [] else p.cwd
  let ps := FileTree.pieces path
  p.has path ||
    match p.tree.follow 40 start ps.dropLast, ps.getLast? with
    | .ok names, some name =>
        p.tree.entry? names == some .dir && (p.tree.entry? (names ++ [name])).isSome
    | _, _ => false

/-- The names in the directory that a path leads to. -/
def namesIn (p : Place) (path : List Char) : List FileName :=
  match p.resolve path with
  | .ok (names, .dir) => p.tree.namesIn names
  | _ => []

def bytes? (p : Place) (path : List Char) : Option (List UInt8) :=
  match p.stat? path with
  | some (.file bytes _) => some bytes
  | _ => none

end Place
end LintDesk
