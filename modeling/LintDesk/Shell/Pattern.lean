import LintDesk.Shell.Reader

/-! # Patterns of the shell

A field as the shell sees it: characters, each with a mark that says whether it has been quoted. A
quoted character stands for itself, also where it has a meaning in patterns.
-/

namespace LintDesk.Shell

/-- A character, and whether it has been quoted. -/
abbrev MarkedChar := Char × Bool

abbrev Field := List MarkedChar

def Field.text (f : Field) : List Char := f.map (·.1)

/-- Whether a field has a character with a meaning in patterns. -/
def Field.isPattern (f : Field) : Bool :=
  f.any fun (c, quoted) => !quoted && (c == '*' || c == '?' || c == '[')

/-- Reads a set of characters up to its closing bracket; the first character always belongs to it.
The answer says whether a character is in the set. -/
def set? (ch : Char) : Nat → Bool → Bool → Field → Option (Bool × Field)
  | 0, _, _, _ | _, _, _, [] => none
  | n + 1, first, found, (a, quoted) :: f =>
      if a = ']' && !quoted && !first then some (found, f)
      else
        match f with
        | ('-', false) :: (b, _) :: rest =>
            if b = ']' then set? ch n false (found || a == ch) f
            else set? ch n false (found || (a ≤ ch && ch ≤ b)) rest
        | _ => set? ch n false (found || a == ch) f

/-- Whether a text matches a pattern. -/
def matchesField : Nat → Field → List Char → Bool
  | 0, _, _ => false
  | _, [], s => s.isEmpty
  | n + 1, ('*', false) :: f, s =>
      matchesField n f s ||
        match s with
        | _ :: s => matchesField n (('*', false) :: f) s
        | [] => false
  | _, _ :: _, [] => false
  | n + 1, (c, quoted) :: f, d :: s =>
      if !quoted && c = '?' then matchesField n f s
      else if !quoted && c = '[' then
        let (negated, inner) := match f with
          | ('!', false) :: f => (true, f)
          | f => (false, f)
        match set? d (inner.length + 1) true false inner with
        | some (found, f) => found != negated && matchesField n f s
        | none => d = '[' && matchesField n f s
      else c = d && matchesField n f s

/-- Whether a text matches a pattern. -/
def Field.accepts (f : Field) (s : List Char) : Bool := matchesField (f.length + s.length + 1) f s

/-- Drops the shortest or longest beginning of a text that matches a pattern. -/
def Field.dropPrefix (f : Field) (longest : Bool) (s : List Char) : List Char :=
  let counts := List.range (s.length + 1)
  match (if longest then counts.reverse else counts).find? fun n => f.accepts (s.take n) with
  | some n => s.drop n
  | none => s

/-- Drops the shortest or longest end of a text that matches a pattern. -/
def Field.dropSuffix (f : Field) (longest : Bool) (s : List Char) : List Char :=
  let counts := List.range (s.length + 1)
  match (if longest then counts else counts.reverse).find? fun n => f.accepts (s.drop n) with
  | some n => s.take n
  | none => s

end LintDesk.Shell
