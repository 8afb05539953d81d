import LintDesk.Unicode.Folding
import LintDesk.Regex.Node

/-! # Flags of a pattern

What a piece of a pattern stands for under the flags in force where it is written.
-/

namespace LintDesk.Regex

open LintDesk.Unicode

structure Flags where
  ignoreCase : Bool := false
  multiLine : Bool := false
  dotAll : Bool := false
  swapGreed : Bool := false
  unicode : Bool := true
  /-- Carriage returns end lines too. -/
  anyLineEnd : Bool := false
  /-- Blanks and comments in the pattern are passed over. -/
  verbose : Bool := false
deriving DecidableEq, Repr

namespace Flags

/-- The flags after the one written as the given letter has been put to `on`. -/
def set? (f : Flags) (letter : Char) (on : Bool) : Option Flags :=
  match letter with
  | 'i' => some { f with ignoreCase := on }
  | 'm' => some { f with multiLine := on }
  | 's' => some { f with dotAll := on }
  | 'U' => some { f with swapGreed := on }
  | 'u' => some { f with unicode := on }
  | 'R' => some { f with anyLineEnd := on }
  | 'x' => some { f with verbose := on }
  | _ => none

/-- Adds the other cases of its characters to a set, where case is ignored. -/
def fold (f : Flags) (s : CharSet) : CharSet :=
  if !f.ignoreCase then s
  else if f.unicode then Folding.close s
  else Folding.closeAscii s

/-- The characters outside a set. Without Unicode these are bytes. -/
def complement (f : Flags) (s : CharSet) : CharSet :=
  if f.unicode then s.complement else s.complement.inter (.ofRange 0 0xFF)

/-- A set, unless it is one of bytes that are no characters of their own. -/
def checked? (f : Flags) (s : CharSet) : Option CharSet :=
  if f.unicode || s.below 0x80 then some s else none

/-- The set that a class stands for once it is written. -/
def finish? (f : Flags) (negated : Bool) (s : CharSet) : Option CharSet :=
  let s := f.fold s
  f.checked? (if negated then f.complement s else s)

def char (f : Flags) (c : Char) : Node :=
  if f.unicode || c.toNat < 0x80 then .set (f.fold (.ofChar c)) else .set (.ofChar c)

def dot? (f : Flags) : Option Node :=
  if !f.unicode then none
  else if f.dotAll then some (.set .full)
  else if f.anyLineEnd then some (.set (.complement ⟨[(10, 10), (13, 13)]⟩))
  else some (.set (.complement ⟨[(10, 10)]⟩))

def lineStart (f : Flags) : Look :=
  if !f.multiLine then .textStart else if f.anyLineEnd then .anyLineStart else .lineStart

def lineEnd (f : Flags) : Look :=
  if !f.multiLine then .textEnd else if f.anyLineEnd then .anyLineEnd else .lineEnd

/-- The set of a class letter such as `d` or `W`; an upper case letter negates the class. -/
def letterClass? (f : Flags) (letter : Char) : Option CharSet := do
  let s ← match letter.toLower with
    | 'd' => some (if f.unicode then digits else asciiDigits)
    | 's' => some (if f.unicode then blanks else asciiBlanks)
    | 'w' => some (if f.unicode then wordChars else asciiWordChars)
    | _ => none
  f.checked? (if letter.toLower == letter then s else f.complement s)

/-- A set given by its ranges of ASCII characters. -/
def asciiClass? : String → Option CharSet
  | "alnum" => some ⟨[(0x30, 0x39), (0x41, 0x5A), (0x61, 0x7A)]⟩
  | "alpha" => some ⟨[(0x41, 0x5A), (0x61, 0x7A)]⟩
  | "ascii" => some ⟨[(0, 0x7F)]⟩
  | "blank" => some ⟨[(9, 9), (0x20, 0x20)]⟩
  | "cntrl" => some ⟨[(0, 0x1F), (0x7F, 0x7F)]⟩
  | "digit" => some asciiDigits
  | "graph" => some ⟨[(0x21, 0x7E)]⟩
  | "lower" => some ⟨[(0x61, 0x7A)]⟩
  | "print" => some ⟨[(0x20, 0x7E)]⟩
  | "punct" => some ⟨[(0x21, 0x2F), (0x3A, 0x40), (0x5B, 0x60), (0x7B, 0x7E)]⟩
  | "space" => some asciiBlanks
  | "upper" => some ⟨[(0x41, 0x5A)]⟩
  | "word" => some asciiWordChars
  | "xdigit" => some ⟨[(0x30, 0x39), (0x41, 0x46), (0x61, 0x66)]⟩
  | _ => none

end Flags
end LintDesk.Regex
