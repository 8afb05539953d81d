import LintDesk.FileTree
import LintDesk.Glob.Pattern

/-! # Files by patterns

The files that a pattern names: each piece of the pattern between slashes is matched with the names
in the directories that the pieces before it have led to.
-/

namespace LintDesk.Glob

open LintDesk.Text

/-- A place that a search has come to, as a path. Paths below the working directory are written
without it. -/
def below (path name : List Char) : List Char :=
  if Path.parts path = [.current] then name else Path.join path name

mutual

/-- The paths that the pieces lead to from a path; the number bounds how deep the search goes. -/
def descend (p : Place) : Nat → List (List Token) → List Char → List (List Char)
  | 0, _, _ => []
  | _ + 1, [], _ => []
  | n + 1, piece :: rest, path =>
      let onwards (next : List Char) : List (List Char) :=
        if rest.isEmpty then [next] else descend p n rest next
      match literal? piece with
      | some name =>
          let next := below path name
          let there :=
            if name = ['.'] || name = ['.', '.'] then p.isDir path else p.hasEntry next
          if there then onwards next else []
      | none =>
          if !p.isDir path then []
          else
            let special :=
              if piece.head? = some (.char '.') then
                [['.'], ['.', '.']].filter (matchesName piece)
              else []
            special.flatMap (fun name => onwards (Path.join path name)) ++
              (p.namesIn path).flatMap fun name => meet p n piece rest (below path name) name

/-- The paths that the pieces lead to by way of an entry of a directory, whose name is matched with
the first of the pieces. -/
def meet (p : Place) : Nat → List Token → List (List Token) → List Char → FileName →
    List (List Char)
  | 0, _, _, _, _ => []
  | n + 1, piece, rest, path, name =>
      if piece = [.anyDirs] then
        match rest with
        | [] => if p.isDir path then path :: descend p n [piece] path else []
        | next :: more =>
            let deeper := if p.isDir path && next ≠ [.anyDirs] then descend p n (piece :: rest) path
              else []
            meet p n next more path name ++ deeper
      else if matchesName piece name then
        if rest.isEmpty then [path] else descend p n rest path
      else []

end

/-- Where the search for a pattern starts: at the root or, if this is empty, at the working
directory. -/
def rootOf (pattern : List Char) : List Char := if Path.isAbsolute pattern then ['/'] else []

/-- The pieces of a pattern between slashes; a slash at its end makes no piece of its own. -/
def piecesOf (s : List Char) : List (List Char) :=
  let ps := splitWhere (· == '/') s
  if ps.getLast? = some [] then ps.dropLast else ps

/-- The entries whose paths match a pattern; none for a malformed pattern. -/
def search (p : Place) (pattern : List Char) : List (List Char) :=
  let root := rootOf pattern
  match tokens? pattern, (piecesOf (pattern.drop root.length)).mapM tokens? with
  | some _, some pieces =>
      let depth := 100 * (p.tree.entries.length + pieces.length + 1)
      let found := descend p depth pieces (if root = [] then ['.'] else root)
      if pattern.getLast? = some '/' then found.filter p.isDir else found
  | _, _ => []

/-- Whether an argument is a pattern rather than a path. -/
def isPattern (s : List Char) : Bool := s.any fun c => c == '*' || c == '?' || c == '['

/-- The files that one argument names, seen from the directory `base`. -/
def filesOf (p : Place) (base arg : List Char) : List (List Char) :=
  let path := Path.join base arg
  if isPattern arg then ((search p path).filter p.isFile).mergeSort Path.le
  else if p.isFile path then [path] else []

/-- What some arguments have come to. -/
structure Expansion where
  /-- The files that they name, in the order in which they were found. -/
  files : List (List Char) := []
  /-- The parts of the paths of these files, the last one first. -/
  seen : List (List PathPart) := []
  /-- The arguments that name no file. -/
  unmatched : List String := []

namespace Expansion

/-- Takes a file unless it has been taken before, maybe by another spelling of its path. -/
def take (e : Expansion) (file : List Char) : Expansion :=
  if e.seen.contains (Path.parts file) then e
  else { e with files := e.files ++ [file], seen := Path.parts file :: e.seen }

/-- Notes an argument if nothing has been found for it. -/
def note (arg : String) (found : List (List Char)) (e : Expansion) : Expansion :=
  if found.isEmpty then { e with unmatched := e.unmatched ++ [arg] } else e

/-- Takes the files that an argument names. -/
def takeNamed (p : Place) (base : List Char) (e : Expansion) (arg : String) : Expansion :=
  let found := filesOf p base arg.toList
  found.foldl take (e.note arg found)

end Expansion

/-- The files that the arguments name, each once, and the arguments that name none. -/
def expand (p : Place) (base : String) (args : List String) : List String × List String :=
  let e := args.foldl (Expansion.takeNamed p base.toList) {}
  (e.files.map String.ofList, e.unmatched)

end LintDesk.Glob
