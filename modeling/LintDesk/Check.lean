import LintDesk.CheckReport
import LintDesk.Path
import LintDesk.Session

/-! # Checking files

The files are analyzed one after another. A report is made when all runs for its file have
completed: a failed run shows its reason, any other run the diagnostics in the store.
-/

namespace LintDesk

/-- The report for one outcome of a request. -/
def Desk.analyzerReport (d : Desk) (id : String) (outcome : Outcome) : AnalyzerReport :=
  let name := ((d.coordinator.provider? id).map (·.name)).getD id
  match outcome with
  | .failed reason => ⟨id, name, [], some reason⟩
  | .updated _ | .superseded => ⟨id, name, d.store.get id, none⟩

namespace Session

variable {σ : Type}

/-- Analyzes one file and waits for the result. -/
def checkFile (root : String) (s : Session σ) (file : String) : FileReport × Session σ :=
  let s := s.handle (.saved file)
  let (outcomes, s) := s.wait s.desk.requests
  (⟨displayPath file root, outcomes.map fun (id, o) => s.desk.analyzerReport id o⟩, s)

def checkFiles (root : String) (s : Session σ) : List String → List FileReport × Session σ
  | [] => ([], s)
  | file :: files =>
      let (report, s) := s.checkFile root file
      let (reports, s) := checkFiles root s files
      (report :: reports, s)

/-- Analyzes the files in order; their names are shown relative to `root`. -/
def check (root : String) (s : Session σ) (files : List String) : CheckResult × Session σ :=
  let (reports, s) := s.checkFiles root files
  (.ofFiles reports, s)

end Session
end LintDesk
