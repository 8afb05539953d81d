import LintDesk.Config.Load
import LintDesk.Config.Merge
import LintDesk.Coordinator
import LintDesk.Gate
import LintDesk.Options

/-! # Configurations

What the program works with: an option of the command line counts before the configuration file,
and the file before the default.
-/

namespace LintDesk

structure Config where
  root : String
  /-- The configuration file, if there is one. -/
  file : Option String
  interpreter : String
  vendor : String
  output : String
  /-- The time in seconds after which a run is ended. -/
  timeout : Option Nat
  probe : Probe
  analyzers : List Analyzer

namespace Config

/-- A vendor directory: as it is when it is absolute, and otherwise below the root. -/
def vendorPath (root vendor : String) : String :=
  if Path.isAbsolute vendor.toList then vendor else joinPath root vendor

/-- The probe of an interpreter with what a configuration file says about it. -/
def probeFor (interpreter : String) (s : Option ProbeSection) : Probe :=
  let dflt := Probe.ofInterpreter interpreter
  { dflt with
    args := (s.bind (·.args)).getD dflt.args
    marker := (s.bind (·.marker)).getD dflt.marker }

/-- Enables the analyzers with the given ids and no others. -/
def enableOnly (ids : List String) (analyzers : List Analyzer) : Except Error (List Analyzer) :=
  match ids.find? fun id => analyzers.all (·.id != id) with
  | some id => .error (.unknownAnalyzer id)
  | none => .ok (analyzers.map fun a => { a with enabled := ids.contains a.id })

/-- The configuration for given options, root and configuration file. -/
def combine (o : CommonOptions) (root : String) (path : Option String) (f : ConfigFile) :
    Except Error Config := do
  let interpreter := (o.interpreter.or f.interpreter).getD "php"
  let analyzers ← f.analyzers.merge (path.getD root)
  let analyzers ← match o.only with
    | some ids => enableOnly ids analyzers
    | none => pure analyzers
  return {
    root := root
    file := path
    interpreter := interpreter
    vendor := vendorPath root ((o.vendor.or f.vendor).getD "vendor")
    output := (o.output.or f.output).getD "human"
    timeout := (o.timeout.or f.timeout).filter (0 < ·)
    probe := probeFor interpreter f.probe
    analyzers := analyzers }

/-- The configuration for given options, with the file that is found from the root of the
repository. -/
def resolve (p : Place) (o : CommonOptions) : Except Error Config := do
  let root := detectRoot p (o.repoRoot.getD ".")
  let (path, f) ← load p root
  combine o root path f

def settings (c : Config) : Settings := ⟨c.interpreter, c.vendor, c.analyzers⟩

/-- The command line of each enabled analyzer for a file, without a session. -/
def commands (c : Config) (file : String) : List (String × CommandLine) :=
  let ctx : TemplateContext := ⟨c.interpreter, c.vendor, file⟩
  (c.analyzers.filter (·.enabled)).map fun a => (a.id, a.materialize ctx)

end Config
end LintDesk
