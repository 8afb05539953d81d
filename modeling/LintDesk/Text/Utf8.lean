/-! # Bytes as UTF-8 text

A byte sequence is read one item at a time: a character, or the longest run of bytes that could
start a character but does not. Lossy reading puts U+FFFD for each such run.
-/

namespace LintDesk.Text.Utf8

/-- What stands at the front of a byte sequence: a character, a run of `size` bytes that no
continuation turns into a character, or such a run cut short by the end of the bytes. -/
inductive Item where
  | char (c : Char)
  | bad (size : Nat)
  | cut (size : Nat)

def isContinuation (b : UInt8) : Bool := 0x80 ≤ b && b ≤ 0xBF

/-- The bytes allowed after the lead byte `b` of a sequence of three or four bytes. -/
def secondRange (b : UInt8) : UInt8 × UInt8 :=
  if b == 0xE0 then (0xA0, 0xBF)
  else if b == 0xED then (0x80, 0x9F)
  else if b == 0xF0 then (0x90, 0xBF)
  else if b == 0xF4 then (0x80, 0x8F)
  else (0x80, 0xBF)

/-- How many bytes follow the lead byte `b`; `none` if `b` starts no character. -/
def tailLength (b : UInt8) : Option Nat :=
  if b < 0x80 then some 0
  else if 0xC2 ≤ b && b ≤ 0xDF then some 1
  else if 0xE0 ≤ b && b ≤ 0xEF then some 2
  else if 0xF0 ≤ b && b ≤ 0xF4 then some 3
  else none

/-- The bits that a lead byte with `n` followers adds to the code point. -/
def leadBits (b : UInt8) : Nat → Nat
  | 0 => b.toNat
  | 1 => b.toNat % 32
  | 2 => b.toNat % 16
  | _ => b.toNat % 8

/-- Reads `n` continuation bytes of a character of which `size` bytes with the bits `acc` have been
read. -/
def readTail (acc size : Nat) : Nat → List UInt8 → Item × List UInt8
  | 0, s => (.char (Char.ofNat acc), s)
  | _ + 1, [] => (.cut size, [])
  | n + 1, b :: s =>
      if isContinuation b then readTail (64 * acc + b.toNat % 64) (size + 1) n s
      else (.bad size, b :: s)

/-- The first item of a nonempty byte sequence, and the bytes after it. -/
def item (b : UInt8) (s : List UInt8) : Item × List UInt8 :=
  match tailLength b with
  | none => (.bad 1, s)
  | some 0 => (.char (Char.ofNat b.toNat), s)
  | some (n + 1) =>
      match s with
      | [] => (.cut 1, [])
      | b' :: s' =>
          let (lo, hi) := secondRange b
          if lo ≤ b' && b' ≤ hi then readTail (64 * leadBits b (n + 1) + b'.toNat % 64) 2 n s'
          else (.bad 1, s)

theorem readTail_length (acc size n : Nat) (s : List UInt8) :
    (readTail acc size n s).2.length ≤ s.length := by
  induction n generalizing acc size s with
  | zero => simp [readTail]
  | succ n ih =>
    cases s with
    | nil => simp [readTail]
    | cons b s =>
      simp only [readTail]
      split
      · exact Nat.le_succ_of_le (ih ..)
      · simp

theorem item_length (b : UInt8) (s : List UInt8) : (item b s).2.length ≤ s.length := by
  unfold item
  split
  · simp
  · simp
  · split
    · simp
    · dsimp only
      split
      · exact Nat.le_succ_of_le (readTail_length ..)
      · simp

/-- The text that the bytes spell, with U+FFFD for each run of bytes that spells nothing. -/
def lossy : List UInt8 → List Char
  | [] => []
  | b :: s =>
      match h : item b s with
      | (.char c, rest) =>
          have : rest.length ≤ s.length := by simpa [h] using item_length b s
          c :: lossy rest
      | (.bad _, rest) =>
          have : rest.length ≤ s.length := by simpa [h] using item_length b s
          '\uFFFD' :: lossy rest
      | (.cut _, rest) =>
          have : rest.length ≤ s.length := by simpa [h] using item_length b s
          '\uFFFD' :: lossy rest
termination_by s => s.length

/-- Why bytes are no UTF-8 text: where the first fault starts, and how many bytes it takes, or
`none` if the bytes end inside a character. -/
structure Fault where
  index : Nat
  size : Option Nat

/-- The text that the bytes spell, if all of them spell one; `index` bytes went before. -/
def strictFrom (index : Nat) : List UInt8 → Except Fault (List Char)
  | [] => .ok []
  | b :: s =>
      match h : item b s with
      | (.char c, rest) => do
          have : rest.length ≤ s.length := by simpa [h] using item_length b s
          let cs ← strictFrom (index + (s.length + 1 - rest.length)) rest
          .ok (c :: cs)
      | (.bad size, _) => .error ⟨index, some size⟩
      | (.cut _, _) => .error ⟨index, none⟩
termination_by s => s.length

def strict (bytes : List UInt8) : Except Fault (List Char) := strictFrom 0 bytes

/-- The bytes that spell a text. -/
def encode (s : String) : List UInt8 := s.toUTF8.data.toList

/-- The wording of a fault. -/
def Fault.message (f : Fault) : String :=
  match f.size with
  | some n => s!"invalid utf-8 sequence of {n} bytes from index {f.index}"
  | none => s!"incomplete utf-8 byte sequence from index {f.index}"

end LintDesk.Text.Utf8
