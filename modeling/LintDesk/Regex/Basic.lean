import LintDesk.Regex.Match
import LintDesk.Regex.Pattern

/-! # Compiled patterns and their captures -/

namespace LintDesk

open LintDesk.Regex

/-- A pattern that has been read. -/
structure Regex where
  node : Node
deriving DecidableEq, Inhabited

/-- The texts of the groups of one match, and the indices of the named groups. -/
structure Captures where
  groups : List (Nat × List Char)
  names : List (String × Nat)

namespace Regex

/-- Reads a pattern; `none` if it is no regular expression. -/
def compile? (pattern : String) : Option Regex := (Pattern.read? pattern.toList).map Regex.mk

def names (r : Regex) : List (String × Nat) := r.node.names

def hasGroup (r : Regex) (name : String) : Bool := r.names.any (·.1 == name)

/-- The leftmost match in a text. -/
def captures? (r : Regex) (s : List Char) : Option Captures :=
  (r.node.search [] s 0).map fun groups => ⟨groups, r.names⟩

end Regex

namespace Captures

/-- The text of a group that took part in the match. -/
def index? (c : Captures) (i : Nat) : Option (List Char) :=
  (c.groups.find? (·.1 == i)).map (·.2)

def name? (c : Captures) (name : String) : Option (List Char) := do
  let (_, i) ← c.names.find? (·.1 == name)
  c.index? i

end Captures
end LintDesk
