import LintDesk.Text.Blank
import LintDesk.Timeline

/-! # Sessions

A session exists once the interpreter has been found. It takes triggers, each of which requests an
analysis, and answers queries from the store.
-/

namespace LintDesk

open LintDesk.Text

/-- Something in an editor that calls for an analysis of a file. -/
inductive Trigger where
  | saved (path : String)
  | focused (path : String)
deriving DecidableEq, Repr

def Trigger.path : Trigger → String
  | saved p | focused p => p

/-- What a line of the session protocol asks for. -/
inductive SessionCommand where
  | trigger (t : Trigger)
  /-- The diagnostics of one analyzer, or of all. -/
  | query (id : Option String)
  | quit
deriving DecidableEq, Repr

namespace SessionCommand

/-- The first word of a trimmed line, and what follows it without the blanks around it. -/
def splitVerb (line : List Char) : List Char × List Char :=
  let rest := line.dropWhile (!isBlank ·)
  (line.takeWhile (!isBlank ·), trimChars rest)

/-- Reads `save PATH`, `focus PATH`, `query`, `query ID` or `quit`. -/
def parse? (line : String) : Option SessionCommand :=
  let (verb, rest) := splitVerb (trimChars line.toList)
  let arg := String.ofList rest
  match String.ofList verb, rest.isEmpty with
  | "save", false => some (.trigger (.saved arg))
  | "focus", false => some (.trigger (.focused arg))
  | "query", true => some (.query none)
  | "query", false => some (.query (some arg))
  | "quit", true => some .quit
  | _, _ => none

end SessionCommand

/-- A source of the diagnostics of one analyzer. -/
structure Provider where
  id : String
  name : String
deriving DecidableEq, Repr

/-- One provider for each enabled analyzer. -/
def Coordinator.providers (c : Coordinator) : List Provider :=
  c.enabled.map fun a => ⟨a.id, a.name⟩

def Coordinator.provider? (c : Coordinator) (id : String) : Option Provider :=
  c.providers.find? (·.id == id)

structure Session (σ : Type) where
  timeline : Timeline σ

/-- Probes the interpreter and, if it is there, sets up a coordinator over the store. -/
def Session.start {σ : Type} (gate : Gate) (settings : Settings) (runner : TimedRunner σ)
    (store : Store) (s : σ) : Except Error (Session σ) × Gate × σ :=
  match gate.check runner.untimed s with
  | (.error e, gate, s) => (.error e, gate, s)
  | (.ok (), gate, s) =>
      match Coordinator.ofSettings settings with
      | .error e => (.error e, gate, s)
      | .ok c => (.ok ⟨{ runner := runner, state := s, desk := .fresh c store }⟩, gate, s)

namespace Session

variable {σ : Type}

def desk (s : Session σ) : Desk := s.timeline.desk

def store (s : Session σ) : Store := s.desk.store

def settings (s : Session σ) : Settings := s.desk.coordinator.settings

def providers (s : Session σ) : List Provider := s.desk.coordinator.providers

def provider? (s : Session σ) (id : String) : Option Provider := s.desk.coordinator.provider? id

/-- The diagnostics that a provider gives: those in the store, whatever runs are under way. -/
def diagnostics (s : Session σ) (id : String) : List Diagnostic := s.store.get id

/-- Requests an analysis for a trigger; the request has the number that the desk then counts. -/
def handle (s : Session σ) (t : Trigger) : Session σ := ⟨s.timeline.request t.path⟩

/-- Requests an analysis for each of the triggers and lets their runs start. -/
def listen (s : Session σ) (ts : List Trigger) : Session σ :=
  ⟨(ts.foldl (fun t trigger => t.request trigger.path) s.timeline).startQueued⟩

def wait (s : Session σ) (sequence : Nat) : List (String × Outcome) × Session σ :=
  let (outcomes, t) := s.timeline.wait sequence
  (outcomes, ⟨t⟩)

def sleep (s : Session σ) (time : Nat) : Session σ := ⟨s.timeline.sleep time⟩

/-- A plain write to the store. -/
def write (s : Session σ) (id : String) (ds : List Diagnostic) : Session σ :=
  ⟨{ s.timeline with desk := s.desk.write id ds }⟩

/-- The command line of each enabled analyzer for a file. -/
def commands (s : Session σ) (file : String) : List (String × CommandLine) :=
  s.settings.commands file

end Session
end LintDesk
