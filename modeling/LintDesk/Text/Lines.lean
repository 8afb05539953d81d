/-! # Lines of a text

A line ends at a newline; one carriage return before that newline belongs to the line end. What
follows the last newline is a line of its own unless it is empty, and keeps its carriage return.
-/

namespace LintDesk.Text

/-- Drops one carriage return, given the line's characters in reverse. -/
def dropReturn : List Char → List Char
  | '\r' :: r => r
  | r => r

/-- The lines of a text whose current line already holds the characters `seen`, in reverse. -/
def linesAfter (seen : List Char) : List Char → List (List Char)
  | [] => if seen.isEmpty then [] else [seen.reverse]
  | '\n' :: r => (dropReturn seen).reverse :: linesAfter [] r
  | c :: r => linesAfter (c :: seen) r

def lines (s : List Char) : List (List Char) := linesAfter [] s

@[simp] theorem lines_nil : lines [] = [] := rfl

end LintDesk.Text
