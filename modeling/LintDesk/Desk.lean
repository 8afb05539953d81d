import LintDesk.Coordinator

/-! # Requests and completions

A desk takes requests, numbered from one, and settles their jobs in whatever order their runs
complete. Jobs are known by their place among all jobs that the desk has ever dispatched.
-/

namespace LintDesk

/-- A dispatched job, with its outcome once its run has completed. -/
structure Ticket where
  job : Job
  outcome : Option Outcome := none

structure Desk where
  coordinator : Coordinator
  store : Store := {}
  /-- The number of requests so far. -/
  requests : Nat := 0
  tickets : List Ticket := []

/-- What can happen at a desk. -/
inductive DeskEvent where
  | request (file : String)
  /-- The run of the job with the given place has completed. -/
  | complete (place : Nat) (result : Except Error Captured)
  /-- A plain write to the store. -/
  | write (id : String) (ds : List Diagnostic)

namespace Desk

/-- A desk over a store, before its first request. -/
def fresh (c : Coordinator) (store : Store := .empty) : Desk := { coordinator := c, store := store }

/-- Takes a request: dispatches one job for each enabled analyzer. -/
def request (d : Desk) (file : String) : Desk :=
  let sequence := d.requests + 1
  { d with
    requests := sequence
    tickets := d.tickets ++ (d.coordinator.jobs sequence file).map fun j => { job := j } }

/-- Settles a job that has not been settled yet. -/
def complete (d : Desk) (place : Nat) (result : Except Error Captured) : Desk :=
  match d.tickets[place]? with
  | some ⟨job, none⟩ =>
      let (outcome, store) := job.settle d.coordinator.registry result d.store
      { d with store := store, tickets := d.tickets.set place ⟨job, some outcome⟩ }
  | _ => d

def write (d : Desk) (id : String) (ds : List Diagnostic) : Desk :=
  { d with store := d.store.set id ds }

def step (d : Desk) : DeskEvent → Desk
  | .request file => d.request file
  | .complete place result => d.complete place result
  | .write id ds => d.write id ds

/-- The desk after a history of events. -/
def after (d : Desk) (history : List DeskEvent) : Desk := history.foldl step d

/-- The tickets of a request, in the order of dispatch. -/
def ofRequest (d : Desk) (sequence : Nat) : List Ticket :=
  d.tickets.filter (·.job.sequence == sequence)

/-- The outcomes of a request, once all of its runs have completed. -/
def outcomes? (d : Desk) (sequence : Nat) : Option (List (String × Outcome)) :=
  (d.ofRequest sequence).mapM fun t => t.outcome.map (t.job.analyzer, ·)

end Desk
end LintDesk
