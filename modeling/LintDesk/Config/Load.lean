import LintDesk.Config.Discovery
import LintDesk.Document.Config
import LintDesk.Error
import LintDesk.Text.Utf8
import LintDesk.Toml.Reader
import LintDesk.Yaml.Format

/-! # Reading configuration files -/

namespace LintDesk.Config

open LintDesk.Text

/-- The configuration that a text of the given format spells. -/
def parse? (f : ConfigFormat) (s : List Char) : Option ConfigFile :=
  match f with
  | .toml => (Toml.read? s).bind Toml.format.config?
  | .yaml => ((Yaml.read? s).map .ofDocument).bind Yaml.Value.format.config?

/-- Reads a configuration file. -/
def read (p : Place) (path : String) (f : ConfigFormat) : Except Error ConfigFile :=
  let config := do
    let bytes ← p.bytes? path.toList
    let s ← (Utf8.strict bytes).toOption
    parse? f s
  match config with
  | some c => .ok c
  | none => .error (.config path .unreadable)

/-- Reads the configuration file of a directory, if it has one. -/
def load (p : Place) (dir : String) : Except Error (Option String × ConfigFile) :=
  match find? p dir with
  | some (path, f) => do return (some path, ← read p path f)
  | none => .ok (none, {})

end LintDesk.Config
