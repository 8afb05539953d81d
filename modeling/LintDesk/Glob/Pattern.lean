/-! # Patterns for file names

A question mark stands for one character, an asterisk for any number of them, and brackets for one
character of a set or, after an exclamation mark, for one outside it. Two asterisks stand for any
number of directories and have to be a whole piece of a path.
-/

namespace LintDesk.Glob

/-- A range of characters; a single one is a range of its own. -/
abbrev CharRange := Char × Char

inductive Token where
  | char (c : Char)
  | anyChar
  | anySequence
  | anyDirs
  | within (ranges : List CharRange)
  | except (ranges : List CharRange)
deriving DecidableEq, Repr

/-- The ranges that are written between brackets. -/
def ranges : List Char → List CharRange
  | a :: '-' :: b :: s => (a, b) :: ranges s
  | a :: s => (a, a) :: ranges s
  | [] => []

/-- Splits a text at its first closing bracket. -/
def untilBracket? (s : List Char) : Option (List Char × List Char) :=
  match s.dropWhile (· != ']') with
  | _ :: rest => some (s.takeWhile (· != ']'), rest)
  | [] => none

/-- Reads a set after its opening bracket. The first character inside always belongs to the set. -/
def set? : List Char → Option (Token × List Char)
  | '!' :: c :: s => do
      let (more, rest) ← untilBracket? s
      some (.except (ranges (c :: more)), rest)
  | ['!'] => none
  | c :: s => do
      let (more, rest) ← untilBracket? s
      some (.within (ranges (c :: more)), rest)
  | [] => none

/-- The tokens of a pattern; `start` says whether a piece of a path begins here, and the number
bounds how many tokens are read. -/
def tokensWithin? : Nat → Bool → List Char → Option (List Token)
  | _, _, [] => some []
  | 0, _, _ => none
  | n + 1, _, '?' :: s => (tokensWithin? n false s).map (.anyChar :: ·)
  | n + 1, start, '*' :: s =>
      match s with
      | '*' :: '*' :: _ => none
      | ['*'] => if start then some [.anyDirs] else none
      | '*' :: '/' :: s => if start then (tokensWithin? n true s).map (.anyDirs :: ·) else none
      | '*' :: _ => none
      | s => (tokensWithin? n false s).map (.anySequence :: ·)
  | n + 1, _, '[' :: s => do
      let (t, s) ← set? s
      (tokensWithin? n false s).map (t :: ·)
  | n + 1, _, c :: s => (tokensWithin? n (c == '/') s).map (.char c :: ·)

/-- The tokens of a pattern, unless it is malformed. -/
def tokens? (s : List Char) : Option (List Token) := tokensWithin? (s.length + 1) true s

def inRanges (rs : List CharRange) (c : Char) : Bool := rs.any fun (a, b) => a ≤ c && c ≤ b

/-- Whether a name matches the tokens. -/
def matchesName : List Token → List Char → Bool
  | [], s => s.isEmpty
  | .anySequence :: ts, s | .anyDirs :: ts, s =>
      matchesName ts s ||
        match s with
        | [] => false
        | _ :: s => matchesName (.anySequence :: ts) s
  | _ :: _, [] => false
  | .char c :: ts, d :: s => c == d && matchesName ts s
  | .anyChar :: ts, _ :: s => matchesName ts s
  | .within rs :: ts, d :: s => inRanges rs d && matchesName ts s
  | .except rs :: ts, d :: s => !inRanges rs d && matchesName ts s
termination_by ts s => (ts.length, s.length)

/-- The text of tokens that are all plain characters. -/
def literal? : List Token → Option (List Char)
  | [] => some []
  | .char c :: ts => (literal? ts).map (c :: ·)
  | _ => none

end LintDesk.Glob
