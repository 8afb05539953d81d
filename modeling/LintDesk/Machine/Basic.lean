import LintDesk.FileTree
import LintDesk.Text.Utf8

/-! # Machines

A machine as a value: its files, the bytes in its pipes, and a clock that only waiting programs
move.
-/

namespace LintDesk

open LintDesk.Text

abbrev Bytes := List UInt8

/-- What a descriptor of a process stands for. -/
inductive Channel where
  /-- A pipe, known by its number. -/
  | pipe (number : Nat)
  | file (names : List FileName)
  /-- Nothing: it swallows what is written and gives nothing to read. -/
  | null
deriving DecidableEq

structure Machine where
  tree : FileTree
  /-- The time that has passed, in milliseconds. -/
  clock : Nat := 0
  /-- The bytes in each pipe. -/
  pipes : Array (Array UInt8) := #[]
  /-- The number of processes so far. -/
  processes : Nat := 0

namespace Machine

/-- Makes a pipe that holds some bytes. -/
def addPipe (m : Machine) (bytes : Bytes) : Channel × Machine :=
  (.pipe m.pipes.size, { m with pipes := m.pipes.push bytes.toArray })

/-- Appends bytes to what a channel holds. -/
def write (m : Machine) (c : Channel) (bytes : Bytes) : Machine :=
  match c with
  | .pipe n => { m with pipes := m.pipes.modify n (· ++ bytes) }
  | .file names =>
      match m.tree.entry? names with
      | some (.file old x) => { m with tree := m.tree.put names (.file (old ++ bytes) x) }
      | _ => m
  | .null => m

/-- The bytes that a channel holds. -/
def contents (m : Machine) : Channel → Bytes
  | .pipe n => (m.pipes[n]?.getD #[]).toList
  | .file names =>
      match m.tree.entry? names with
      | some (.file bytes _) => bytes
      | _ => []
  | .null => []

/-- Takes bytes out of a pipe, from the front. -/
def consume (m : Machine) (c : Channel) (count : Nat) : Machine :=
  match c with
  | .pipe n => { m with pipes := m.pipes.modify n (·.drop count) }
  | _ => m

/-- Takes all bytes out of a channel. -/
def drain (m : Machine) (c : Channel) : Bytes × Machine :=
  let bytes := m.contents c
  (bytes, m.consume c bytes.length)

def pass (m : Machine) (millis : Nat) : Machine := { m with clock := m.clock + millis }

end Machine

/-- How a process has come to its end. -/
inductive Ending where
  | exited (code : Nat)
  | killed (signal : Nat)
  /-- It never ends by itself. -/
  | endless
deriving DecidableEq, Repr

/-- What a program does that only reads and writes. -/
structure Effect where
  out : Bytes := []
  err : Bytes := []
  /-- Messages that are written with the name of the program in front. -/
  complaints : List (List Char) := []
  status : Nat := 0
  /-- How long it waits, in milliseconds. -/
  wait : Nat := 0

/-- An end with a message. -/
def Effect.fault (status : Nat) (message : List Char) : Effect :=
  { complaints := [message], status := status }

/-- The bytes of a text. -/
def utf8 (s : List Char) : Bytes := Utf8.encode (String.ofList s)

/-- The name of the null device. -/
def nullDevice : List FileName := ["dev".toList, "null".toList]

end LintDesk
