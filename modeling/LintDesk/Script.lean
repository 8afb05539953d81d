import LintDesk.Timeline

/-! # Scripted runs

A runner that answers from a script instead of running anything. Replies wait in a queue for each
key; the last reply of a queue is given again and again.
-/

namespace LintDesk

/-- A reply of a script, with the time until it is given. -/
structure Reply where
  result : String → Except Error Captured
  delay : Nat

/-- The queues of replies by key, and the commands run so far, latest first. -/
structure Script where
  queues : List (String × List Reply)
  calls : List CommandLine := []

namespace Script

/-- Adds a reply at the end of the queue with the given key. -/
def addReply (queues : List (String × List Reply)) (key : String) (reply : Reply) :
    List (String × List Reply) :=
  match queues with
  | [] => [(key, [reply])]
  | (k, rs) :: rest =>
      if k = key then (k, rs ++ [reply]) :: rest else (k, rs) :: addReply rest key reply

def ofReplies (replies : List (String × Reply)) : Script :=
  ⟨replies.foldl (fun qs (key, reply) => addReply qs key reply) [], []⟩

/-- The keys under which a command is looked up: the program with its last argument, then the
program. -/
def keys (c : CommandLine) : List String :=
  match c.args.getLast? with
  | some arg => [c.program ++ " " ++ arg, c.program]
  | none => [c.program]

def queue? (s : Script) (key : String) : Option (List Reply) :=
  (s.queues.find? (·.1 == key)).map (·.2)

/-- Takes the next reply of a queue. -/
def advance (key : String) : List (String × List Reply) → List (String × List Reply)
  | [] => []
  | (k, rs) :: rest =>
      if k = key then
        match rs with
        | _ :: r :: rs => (k, r :: rs) :: rest
        | rs => (k, rs) :: rest
      else (k, rs) :: advance key rest

/-- Runs a command: records it and takes its reply. A command without a reply cannot be
started. -/
def run (c : CommandLine) (s : Script) : (Except Error Captured × Nat) × Script :=
  let s := { s with calls := c :: s.calls }
  match (keys c).find? fun key => (s.queue? key).isSome with
  | none => ((.error (.spawn c.program "no such file"), 0), s)
  | some key =>
      match s.queue? key with
      | some (reply :: _) =>
          ((reply.result c.program, reply.delay), { s with queues := advance key s.queues })
      | _ => ((.error (.spawn c.program "no such file"), 0), s)

def runner : TimedRunner Script := ⟨run⟩

end Script
end LintDesk
