import LintDesk.Text.Numeral
import LintDesk.Regex.Basic

/-! # Message templates

A template refers to groups of a match as `$name`, with the longest name that stands there, or with
the name in braces. A name of digits is the index of a group. A group that does not exist or took
no part in the match stands for nothing, two dollar signs stand for one, and a dollar sign that
begins no reference stands for itself.
-/

namespace LintDesk

open LintDesk.Text

/-- A piece of a template. -/
inductive TemplatePart where
  | char (c : Char)
  | group (name : List Char)
deriving DecidableEq, Repr

namespace Template

def isNameChar (c : Char) : Bool := c.isAlphanum || c == '_'

/-- The name and the rest behind a dollar sign, if a reference begins there. -/
def reference? : List Char → Option (List Char × List Char)
  | '\x7b' :: s =>
      match s.dropWhile (· != '\x7d') with
      | _ :: rest => some (s.takeWhile (· != '\x7d'), rest)
      | [] => none
  | s =>
      let name := s.takeWhile isNameChar
      if name.isEmpty then none else some (name, s.dropWhile isNameChar)

/-- The pieces of a template; the number bounds how many are read. -/
def partsWithin : Nat → List Char → List TemplatePart
  | 0, _ => []
  | _ + 1, [] => []
  | n + 1, '$' :: '$' :: s => .char '$' :: partsWithin n s
  | n + 1, '$' :: s =>
      match reference? s with
      | some (name, rest) => .group name :: partsWithin n rest
      | none => .char '$' :: partsWithin n s
  | n + 1, c :: s => .char c :: partsWithin n s

def parts (s : List Char) : List TemplatePart := partsWithin s.length s

/-- The text of the group that a reference names. -/
def groupText (c : Captures) (name : List Char) : List Char :=
  match natBelow? bound64 name with
  | some i => (c.index? i).getD []
  | none => (c.name? (String.ofList name)).getD []

def partText (c : Captures) : TemplatePart → List Char
  | .char d => [d]
  | .group name => groupText c name

end Template

/-- The template with the texts of the groups in place of the references. -/
def Captures.expand (c : Captures) (template : String) : List Char :=
  (Template.parts template.toList).flatMap (Template.partText c)

end LintDesk
