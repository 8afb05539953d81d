import LintDesk.FileTree

/-! # Finding the configuration

The root of a repository is the closest directory, going up from a start, that holds a
configuration file or an entry for version control. Going up is lexical: the last part of the path
is dropped, and a relative path has no directory above its first part.
-/

namespace LintDesk

open LintDesk.Text

/-- The formats of configuration files. -/
inductive ConfigFormat where
  | toml
  | yaml
deriving DecidableEq, Repr

namespace Config

/-- The names of configuration files; an earlier one is preferred to a later one. -/
def fileNames : List (String × ConfigFormat) :=
  [("phplint.toml", .toml), ("phplint.yaml", .yaml), ("phplint.yml", .yaml)]

def versionControl : String := ".git"

/-- The configuration file of a directory, with its format. -/
def find? (p : Place) (dir : String) : Option (String × ConfigFormat) :=
  (fileNames.map fun (name, f) => (joinPath dir name, f)).find? fun (path, _) => p.has path.toList

/-- Whether a directory is the root of a repository. -/
def isRoot (p : Place) (dir : String) : Bool :=
  (find? p dir).isSome || p.has (joinPath dir versionControl).toList

/-- A path and those above it, `n` at most. -/
def upward : Nat → List Char → List (List Char)
  | 0, _ => []
  | n + 1, path => path :: ((Path.parent? path).map (upward n)).getD []

/-- A path and all paths above it, from the inside to the outside. -/
def ancestors (path : String) : List String :=
  (upward (path.length + 2) path.toList).map String.ofList

/-- The root of the repository that a path belongs to, or else the path itself. -/
def detectRoot (p : Place) (start : String) : String :=
  ((ancestors start).find? (isRoot p)).getD start

end Config
end LintDesk
