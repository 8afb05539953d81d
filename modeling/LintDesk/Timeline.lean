import LintDesk.Gate
import LintDesk.Desk

/-! # Runs in time

The runs of a desk's jobs on a clock. Dispatching a job only queues its run. Queued runs start in
the order of their dispatch, whenever somebody waits; starting takes no time, a run completes when
its delay has passed, and one without delay completes at once. The clock moves from one completion
to the next, and only while somebody waits.
-/

namespace LintDesk

/-- Runs commands, and says how long each run takes. -/
structure TimedRunner (σ : Type) where
  run : CommandLine → σ → (Except Error Captured × Nat) × σ

/-- The runner without its delays. -/
def TimedRunner.untimed {σ : Type} (r : TimedRunner σ) : Runner σ where
  run c s := let ((result, _), s) := r.run c s; (result, s)

/-- A run under way: when it ends, the place of its job, and what it will give. -/
structure Flight where
  due : Nat
  place : Nat
  result : Except Error Captured

structure Timeline (σ : Type) where
  runner : TimedRunner σ
  state : σ
  desk : Desk
  clock : Nat := 0
  /-- The places of the jobs whose runs have not started, in the order of dispatch. -/
  queued : List Nat := []
  flights : List Flight := []

namespace Timeline

variable {σ : Type}

/-- Takes a request and queues its runs. -/
def request (t : Timeline σ) (file : String) : Timeline σ :=
  let desk := t.desk.request file
  let first := t.desk.tickets.length
  { t with
    desk := desk
    queued := t.queued ++ (List.range (desk.tickets.length - first)).map (first + ·) }

/-- Starts the run of a job. -/
def start (t : Timeline σ) (place : Nat) : Timeline σ :=
  match t.desk.tickets[place]? with
  | none => t
  | some ticket =>
      let ((result, delay), state) := t.runner.run ticket.job.command t.state
      if delay = 0 then { t with state := state, desk := t.desk.complete place result }
      else
        { t with
          state := state
          flights := t.flights ++ [⟨t.clock + delay, place, result⟩] }

/-- Starts all queued runs. -/
def startQueued (t : Timeline σ) : Timeline σ :=
  t.queued.foldl start { t with queued := [] }

/-- The flight that ends first; of several at the same time the one that started first. -/
def earliest : List Flight → Option Flight
  | [] => none
  | f :: fs =>
      match earliest fs with
      | some g => if g.due < f.due then some g else some f
      | none => some f

/-- Moves the clock to the end of a flight and settles its job. -/
def land (t : Timeline σ) (f : Flight) : Timeline σ :=
  { t with
    clock := max t.clock f.due
    desk := t.desk.complete f.place f.result
    flights := t.flights.filter (·.place != f.place) }

/-- Lets flights end, `n` at most, until `done` holds. -/
def landUntil (done : Timeline σ → Bool) : Nat → Timeline σ → Timeline σ
  | 0, t => t
  | n + 1, t =>
      if done t then t
      else match earliest t.flights with
        | none => t
        | some f => landUntil done n (t.land f)

/-- Waits until all runs of a request have completed, and gives their outcomes. -/
def wait (t : Timeline σ) (sequence : Nat) : List (String × Outcome) × Timeline σ :=
  match t.desk.outcomes? sequence with
  | some outcomes => (outcomes, t)
  | none =>
      let t := t.startQueued
      let t := landUntil (fun t => (t.desk.outcomes? sequence).isSome) t.flights.length t
      ((t.desk.outcomes? sequence).getD [], t)

/-- Lets some time pass. -/
def sleep (t : Timeline σ) (time : Nat) : Timeline σ :=
  let deadline := t.clock + time
  let t := t.startQueued
  let t := landUntil (fun t => (earliest t.flights).all (deadline < ·.due)) t.flights.length t
  { t with clock := max t.clock deadline }

end Timeline
end LintDesk
