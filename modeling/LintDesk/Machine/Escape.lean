import LintDesk.Machine.Basic
import LintDesk.Text.Numeral

/-! # Escapes

Sequences after a backslash that stand for a byte, in the texts that programs are told to write.
-/

namespace LintDesk.Escape

open LintDesk.Text

def isOctalDigit (c : Char) : Bool := '0' ≤ c && c ≤ '7'

def isHexDigit (c : Char) : Bool := (numeral? 16 [c]).isSome

/-- Reads up to `n` digits as a byte. -/
def digits (base n : Nat) (isDigit : Char → Bool) (s : List Char) : UInt8 × List Char :=
  let ds := (s.take n).takeWhile isDigit
  (.ofNat ((numeral? base ds).getD 0), s.drop ds.length)

def octal (n : Nat) (s : List Char) : UInt8 × List Char := digits 8 n isOctalDigit s

/-- The byte that an escape of one letter stands for. -/
def letter? : Char → Option UInt8
  | 'a' => some 7
  | 'b' => some 8
  | 'e' => some 27
  | 'f' => some 12
  | 'n' => some 10
  | 'r' => some 13
  | 't' => some 9
  | 'v' => some 11
  | '\\' => some 92
  | _ => none

/-- What a text in escapes comes to, and whether it asks for an end of all output. -/
structure Unescaped where
  bytes : Bytes := []
  ended : Bool := false

namespace Unescaped

def prepend (bytes : Bytes) (u : Unescaped) : Unescaped := { u with bytes := bytes ++ u.bytes }

end Unescaped

/-- The bytes of a text with escapes. A backslash with a `c` ends the output; one that begins no
escape stands for itself. With `hex`, there are escapes of hexadecimal digits too. -/
def unescape (hex : Bool) : Nat → List Char → Unescaped
  | 0, _ | _, [] => {}
  | n + 1, '\\' :: c :: s =>
      let byte (b : UInt8) (s : List Char) : Unescaped := (unescape hex n s).prepend [b]
      if c = 'c' then { ended := true }
      else if c = '0' then
        let (b, s) := octal 3 s
        byte b s
      else if isOctalDigit c then
        let (b, s) := octal 3 (c :: s)
        byte b s
      else if hex && c = 'x' && (s.head?.any isHexDigit) then
        let (b, s) := digits 16 2 isHexDigit s
        byte b s
      else match letter? c with
        | some b => byte b s
        | none => (unescape hex n s).prepend (92 :: utf8 [c])
  | n + 1, c :: s => (unescape hex n s).prepend (utf8 [c])

/-- The bytes of a whole text. -/
def bytes (hex : Bool) (s : List Char) : Unescaped := unescape hex s.length s

end LintDesk.Escape
