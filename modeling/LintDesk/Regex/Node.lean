import LintDesk.Unicode.Classes

/-! # Regular expressions

The expressions that a pattern is read into. Flags are already accounted for: a letter matched
without regard to case is a set of characters, and an anchor knows which line ends it respects.
-/

namespace LintDesk.Regex

open LintDesk.Unicode

/-- A condition on a place in a text that consumes nothing. -/
inductive Look where
  | textStart
  | textEnd
  | lineStart
  | lineEnd
  /-- Like `lineStart`, where a line may also end in a carriage return or in both characters. -/
  | anyLineStart
  | anyLineEnd
  | boundary (ascii : Bool)
  | noBoundary (ascii : Bool)
  | wordStart (ascii : Bool)
  | wordEnd (ascii : Bool)
  /-- No word character before. -/
  | halfStart (ascii : Bool)
  /-- No word character behind. -/
  | halfEnd (ascii : Bool)
deriving DecidableEq, Repr

/-- A regular expression. A greedy repetition prefers more rounds, any other prefers fewer. -/
inductive Node where
  | empty
  | look (l : Look)
  | set (s : CharSet)
  | group (index : Nat) (name : Option String) (body : Node)
  | seq (a b : Node)
  | alt (a b : Node)
  | rep (body : Node) (least : Nat) (most : Option Nat) (greedy : Bool)
deriving DecidableEq, Repr, Inhabited

namespace Node

def ofList : List Node → Node
  | [] => empty
  | [a] => a
  | a :: rest => seq a (ofList rest)

/-- The choice between several expressions, the first one preferred. -/
def choice : List Node → Node
  | [] => empty
  | [a] => a
  | a :: rest => alt a (choice rest)

/-- The named groups with their indices, in the order of their opening parentheses. -/
def names : Node → List (String × Nat)
  | group i (some name) body => (name, i) :: body.names
  | group _ none body => body.names
  | seq a b | alt a b => a.names ++ b.names
  | rep body _ _ _ => body.names
  | _ => []

/-- The space that a matcher takes for a set. A single character is matched byte by byte; what is
said for a range beyond ASCII is an estimate. -/
def setSize (s : CharSet) : Nat :=
  match s.ranges with
  | [] => 32
  | [(lo, hi)] =>
      if lo = hi then 32 * (Char.ofNat lo).utf8Size else if hi < 0x80 then 32 else 92
  | ranges => 32 + (if s.below 0x80 then 8 else 60) * ranges.length

/-- The space that a matcher takes for the expression when each round of a counted repetition is
written out. A round that may be left out takes a choice of its own. -/
def size : Node → Nat
  | empty | look _ => 32
  | set s => setSize s
  | group _ _ body => 64 + body.size
  | seq a b => a.size + b.size
  | alt a b => 72 + a.size + b.size
  | rep body least none _ => body.size * max least 1 + 40
  | rep body least (some most) _ => body.size * most + 40 * (most - least) + 32

/-- Expressions beyond this size are refused. -/
def maxSize : Nat := 10 * Nat.pow 2 20

end Node
end LintDesk.Regex
