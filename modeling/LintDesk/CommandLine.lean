import LintDesk.Text.Search
import LintDesk.Analyzer

/-! # Command lines

A program with its arguments, its rendering as one line for a shell, and the command line of an
analyzer for a file.
-/

namespace LintDesk

open LintDesk.Text

/-- The quoting convention of a shell. -/
inductive Platform where
  | windows
  | unix
deriving DecidableEq, Repr

/-- The convention of the machine that runs the program. -/
def Platform.host : Platform := .unix

/-- A path, quoted for a shell: in double quotes, or with a backslash before each space. -/
def quotePath (path : String) : Platform → String
  | .windows => "\"" ++ path ++ "\""
  | .unix => String.ofList (path.toList.flatMap fun c => if c = ' ' then ['\\', ' '] else [c])

structure CommandLine where
  program : String
  args : List String
deriving DecidableEq, Repr

namespace CommandLine

/-- A word as it stands on a rendered line; only words with a space are quoted. -/
def renderWord (platform : Platform) (word : String) : String :=
  if word.toList.contains ' ' then quotePath word platform else word

def words (c : CommandLine) : List String := c.program :: c.args

/-- The command as one line of words with a space between every two of them. -/
def render (c : CommandLine) (platform : Platform) : String :=
  joinWith " " (c.words.map (renderWord platform))

end CommandLine

/-- What the placeholders of an analyzer's arguments stand for. -/
structure TemplateContext where
  interpreter : String
  vendor : String
  file : String

/-- The flag and the values, joined by commas, as one argument; none for an empty list. -/
def joinOptions (values : List String) (flag : String) : Option String :=
  if values.isEmpty then none else some (flag ++ joinWith "," values)

namespace Analyzer

/-- The arguments that one argument of the template turns into: the options argument is dropped
when there is no option. -/
def fillArg (a : Analyzer) (ctx : TemplateContext) (arg : String) : List String :=
  if arg = fileHole then [ctx.file]
  else if arg = optionsHole then (joinOptions a.options a.optionFlag).toList
  else [replace vendorHole ctx.vendor arg]

/-- The command line that runs the analyzer on a file. -/
def materialize (a : Analyzer) (ctx : TemplateContext) : CommandLine where
  program := replace vendorHole ctx.vendor (a.program.getD ctx.interpreter)
  args := a.args.flatMap (a.fillArg ctx)

end Analyzer
end LintDesk
