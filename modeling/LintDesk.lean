import LintDesk.Json.Reader
import LintDesk.Json.Printer
import LintDesk.Json.Format
import LintDesk.Document.Analyzer
import LintDesk.Options
import LintDesk.Output.Text
import LintDesk.Check
import LintDesk.Script
import LintDesk.Config.Basic
import LintDesk.Config.Discovery
import LintDesk.Config.Load
import LintDesk.Config.Merge
import LintDesk.Config.Resolve
import LintDesk.Glob.Pattern
import LintDesk.Glob.Search
import LintDesk.Machine.Basic
import LintDesk.Machine.Condition
import LintDesk.Machine.Escape
import LintDesk.Machine.Lookup
import LintDesk.Machine.Runner
import LintDesk.Program
import LintDesk.Proofs.Outcome
import LintDesk.Proofs.Isolation
import LintDesk.Proofs.Session
import LintDesk.Proofs.Check
import LintDesk.Proofs.Calls
import LintDesk.Proofs.Registration
import LintDesk.Proofs.Actions
import LintDesk.Proofs.Traffic
import LintDesk.Proofs.Triggers
import LintDesk.Proofs.Gate
import LintDesk.Proofs.LintReports
import LintDesk.Proofs.LocationReports
import LintDesk.Proofs.Dispatch
import LintDesk.Proofs.Sections
import LintDesk.Proofs.OutputParts
import LintDesk.Proofs.Coordinates
import LintDesk.Proofs.Entries
import LintDesk.Proofs.Templates
import LintDesk.Proofs.Renderings
import LintDesk.Proofs.SessionLines
import LintDesk.Proofs.Resolution
import LintDesk.Proofs.Probing
import LintDesk.Proofs.Discovery
import LintDesk.Proofs.Relocation
import LintDesk.Proofs.Display
