/-! # Shell commands

The commands of the shell language and the words they are made of.
-/

namespace LintDesk.Shell

/-- What stands in for the value of a parameter, or is cut off from it. -/
inductive ParamOp where
  /-- A word for a parameter without value. -/
  | default
  /-- The same, and the parameter gets it. -/
  | assign
  /-- A word for a parameter with a value. -/
  | alternative
  /-- A message for a parameter without value, which ends the shell. -/
  | require
  | dropPrefix (longest : Bool)
  | dropSuffix (longest : Bool)
deriving DecidableEq

/-- A part of a word. A quoted part is not split and is no pattern. -/
inductive WordPart where
  | text (quoted : Bool) (s : List Char)
  | param (quoted : Bool) (name : List Char)
  /-- The length of a parameter's value. -/
  | length (name : List Char)
  /-- An empty value counts as none where `emptyToo` says so. -/
  | paramOp (quoted : Bool) (name : List Char) (op : ParamOp) (emptyToo : Bool)
      (word : List WordPart)
  | arithmetic (quoted : Bool) (expr : List WordPart)
  /-- What a script writes. -/
  | output (quoted : Bool) (script : List Char)

abbrev Word := List WordPart

inductive RedirectKind where
  | read
  | write
  | append
  /-- From or to what another descriptor stands for. -/
  | duplicate
  /-- From the target itself, which is a text of the script. -/
  | document
deriving DecidableEq

structure Redirect where
  descriptor : Nat
  kind : RedirectKind
  target : Word

inductive Command where
  /-- Assignments, words and redirections; the line is counted from one. -/
  | simple (line : Nat) (assignments : List (List Char × Word)) (words : List Word)
      (redirects : List Redirect)
  | redirected (c : Command) (redirects : List Redirect)
  /-- Several commands, each reading what the one before it writes. -/
  | pipeline (cs : List Command)
  | negated (c : Command)
  | both (first second : Command)
  | either (first second : Command)
  | sequence (cs : List Command)
  | subshell (body : Command)
  | ifThen (condition body otherwise : Command)
  /-- Runs the body as long as the success of the condition is the wanted one. -/
  | loop (wanted : Bool) (condition body : Command)
  /-- Runs the body for each of the words, or for each positional parameter. -/
  | forEach (name : List Char) (words : Option (List Word)) (body : Command)
  | choose (word : Word) (clauses : List (List Word × Command))
  | define (name : List Char) (body : Command)

/-- The command that does nothing. -/
def Command.skip : Command := .sequence []

end LintDesk.Shell
