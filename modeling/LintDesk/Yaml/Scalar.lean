import LintDesk.Text.Numeral
import LintDesk.Yaml.Cursor

/-! # Scalars

The texts of plain, quoted and block scalars. Where a scalar goes on over the end of a line, the
line end is folded: a single one becomes a space, of several in a row all but the first are kept.
-/

namespace LintDesk.Yaml

open LintDesk.Text

inductive ScalarStyle where
  | plain
  | singleQuoted
  | doubleQuoted
  | literal
  | folded
deriving DecidableEq, Repr

/-! ## Between two words -/

/-- The blanks and line ends between two words of a scalar. -/
structure Gap where
  /-- The blanks, if no line ends in the gap. -/
  blanks : List Char := []
  /-- Whether a line ends in the gap. -/
  broken : Bool := false
  first : List Char := []
  more : List Char := []

namespace Gap

/-- What stands for the gap in the value. -/
def text (g : Gap) : List Char :=
  if !g.broken then g.blanks
  else if g.first = ['\n'] then if g.more = [] then [' '] else g.more
  else g.first ++ g.more

/-- Reads blanks and line ends. A tab must not stand in the indentation, before `indent`. -/
def read? (indent : Nat) : Nat → Gap → Cursor → Option (Gap × Cursor)
  | 0, _, _ => none
  | n + 1, g, c =>
      match c.rest with
      | [] => some (g, c)
      | ch :: _ =>
          if isBlank ch then
            if g.broken && ch == '\t' && c.column < indent then none
            else read? indent n (if g.broken then g else { g with blanks := g.blanks ++ [ch] }) (c.skip 1)
          else if isBreak ch then
            let (b, c) := c.takeBreak
            let g := if g.broken then { g with more := g.more ++ b }
              else { g with broken := true, blanks := [], first := b }
            read? indent n g c
          else some (g, c)

end Gap

/-! ## Plain scalars -/

/-- The characters that structure flow collections. -/
def isFlowIndicator (c : Char) : Bool :=
  c == ',' || c == '[' || c == ']' || c == '\x7b' || c == '\x7d'

/-- Reads a word of a plain scalar. It ends at a blank or line end, before a colon that ends a word,
and in a flow collection before its indicators; there a colon must not precede one of them. -/
def plainWord? (flow : Bool) : Nat → List Char → Cursor → Option (List Char × Cursor)
  | 0, _, _ => none
  | n + 1, seen, c =>
      match c.rest with
      | [] => some (seen.reverse, c)
      | ch :: _ =>
          if isBlank ch || isBreak ch then some (seen.reverse, c)
          else if flow && ch == ':' && c.hasAt 1 (fun d => d == '?' || isFlowIndicator d) then none
          else if ch == ':' && c.endsAt 1 then some (seen.reverse, c)
          else if flow && isFlowIndicator ch then some (seen.reverse, c)
          else plainWord? flow n (ch :: seen) (c.skip 1)

/-- Reads the words of a plain scalar that has to be indented by `indent`; `text` and `gap` have
been read. The answer says whether a line ended behind the last word. -/
def plainWords? (flow : Bool) (indent : Nat) :
    Nat → List Char → Gap → Cursor → Option (List Char × Bool × Cursor)
  | 0, _, _, _ => none
  | n + 1, text, gap, c =>
      if c.atDocumentMark || c.nextIs '#' then some (text, gap.broken, c)
      else do
        let (word, c) ← plainWord? flow (c.rest.length + 1) [] c
        if word.isEmpty then return (text, gap.broken, c)
        let text := text ++ gap.text ++ word
        let (gap, c) ← Gap.read? indent (c.rest.length + 1) {} c
        if (!flow && c.column < indent) || !(gap.broken || !gap.blanks.isEmpty) then
          return (text, gap.broken, c)
        plainWords? flow indent n text gap c

def plain? (flow : Bool) (indent : Nat) (c : Cursor) : Option (List Char × Bool × Cursor) :=
  plainWords? flow indent (c.rest.length + 1) [] {} c

/-! ## Quoted scalars -/

/-- The character that an escape of one letter stands for. -/
def shortEscape? : Char → Option Char
  | '0' => some '\x00'
  | 'a' => some '\x07'
  | 'b' => some '\x08'
  | 't' | '\t' => some '\t'
  | 'n' => some '\n'
  | 'v' => some '\x0b'
  | 'f' => some '\x0c'
  | 'r' => some '\r'
  | 'e' => some '\x1b'
  | ' ' => some ' '
  | '"' => some '"'
  | '/' => some '/'
  | '\\' => some '\\'
  | 'N' => some '\u0085'
  | '_' => some '\u00a0'
  | 'L' => some '\u2028'
  | 'P' => some '\u2029'
  | _ => none

/-- How many digits follow the letter of an escape by code point. -/
def escapeLength? : Char → Option Nat
  | 'x' => some 2
  | 'u' => some 4
  | 'U' => some 8
  | _ => none

/-- Reads an escape after its backslash. -/
def escape? (c : Cursor) : Option (Char × Cursor) := do
  let letter ← c.rest.head?
  match escapeLength? letter with
  | none => return (← shortEscape? letter, c.skip 1)
  | some n =>
      let digits := (c.rest.drop 1).take n
      if digits.length ≠ n then none
      else return (← charOf? (← numeral? 16 digits), c.skip (n + 1))

/-- Reads a word of a quoted scalar, up to a blank, a line end or the closing quote. The answer says
whether an escaped line end has been passed over behind it. -/
def quotedWord? (single : Bool) : Nat → List Char → Cursor → Option (List Char × Bool × Cursor)
  | 0, _, _ => none
  | n + 1, seen, c =>
      match c.rest with
      | [] => some (seen.reverse, false, c)
      | ch :: _ =>
          if isBlank ch || isBreak ch then some (seen.reverse, false, c)
          else if single then
            if ch != '\'' then quotedWord? single n (ch :: seen) (c.skip 1)
            else if c.hasAt 1 (· == '\'') then quotedWord? single n ('\'' :: seen) (c.skip 2)
            else some (seen.reverse, false, c)
          else if ch == '"' then some (seen.reverse, false, c)
          else if ch == '\\' then
            if c.hasAt 1 isBreak then some (seen.reverse, true, (c.skip 1).skipBreak)
            else do
              let (e, c) ← escape? (c.skip 1)
              quotedWord? single n (e :: seen) c
          else quotedWord? single n (ch :: seen) (c.skip 1)

/-- Reads the rest of a quoted scalar, with its closing quote. -/
def quotedWords? (single : Bool) : Nat → List Char → Cursor → Option (List Char × Cursor)
  | 0, _, _ => none
  | n + 1, text, c =>
      if c.atDocumentMark || c.atEnd then none
      else do
        let (word, escaped, c) ← quotedWord? single (c.rest.length + 1) [] c
        if c.nextIs (if single then '\'' else '"') then return (text ++ word, c.skip 1)
        let (gap, c) ← Gap.read? 0 (c.rest.length + 1) { broken := escaped } c
        quotedWords? single n (text ++ word ++ gap.text) c

/-- Reads a quoted scalar after its opening quote. -/
def quoted? (single : Bool) (c : Cursor) : Option (List Char × Cursor) :=
  quotedWords? single (c.rest.length + 1) [] c

/-! ## Block scalars -/

/-- What happens to the line ends behind a block scalar. -/
inductive Chomping where
  | strip
  | clip
  | keep
deriving DecidableEq

def chomping? (c : Cursor) : Option (Chomping × Cursor) :=
  if c.nextIs '+' then some (.keep, c.skip 1)
  else if c.nextIs '-' then some (.strip, c.skip 1)
  else none

/-- Reads an indentation indicator; zero is none. -/
def increment? (c : Cursor) : Option (Option Nat × Cursor) :=
  match c.rest.head? with
  | some d =>
      if !isDigit d then some (none, c)
      else if d == '0' then none
      else some (some (digitValue d), c.skip 1)
  | none => some (none, c)

/-- Reads the indicators of a block scalar, in either order. -/
def blockHeader? (c : Cursor) : Option (Chomping × Option Nat × Cursor) :=
  match chomping? c with
  | some (ch, c) => do
      let (i, c) ← increment? c
      return (ch, i, c)
  | none => do
      let (i, c) ← increment? c
      let (ch, c) := (chomping? c).getD (.clip, c)
      return (ch, i, c)

/-- Reads empty lines, and the indentation of the next line that is not empty. The indentation is
`indent`; if that is not known yet, it is the largest one found. -/
def blockBreaks? (indent : Option Nat) :
    Nat → Nat → List Char → Cursor → Option (Nat × List Char × Cursor)
  | 0, _, _, _ => none
  | n + 1, largest, breaks, c =>
      let c := match indent with
        | some i => c.skip ((c.rest.take (i - c.column)).takeWhile (· == ' ')).length
        | none => c.skipWhile (· == ' ')
      let largest := max largest c.column
      if c.nextIs '\t' && indent.all (c.column < ·) then none
      else if c.next isBreak then
        let (b, c) := c.takeBreak
        blockBreaks? indent n largest (breaks ++ b) c
      else some (largest, breaks, c)

/-- What has been read of a block scalar. -/
structure BlockText where
  text : List Char := []
  /-- The end of the last line. -/
  last : List Char := []
  /-- The empty lines behind it. -/
  trailing : List Char := []
  /-- Whether the last line started with a blank. -/
  startedBlank : Bool := false

/-- What stands between the last line and the next one. In a folded scalar a single line end
between two lines that do not start with a blank becomes a space. -/
def BlockText.link (b : BlockText) (folds startsBlank : Bool) : List Char :=
  if folds && b.last = ['\n'] && !b.startedBlank && !startsBlank then
    if b.trailing = [] then [' '] else b.trailing
  else b.last ++ b.trailing

/-- Reads the lines of a block scalar. -/
def blockLines? (folds : Bool) (indent : Nat) :
    Nat → BlockText → Cursor → Option (BlockText × Cursor)
  | 0, _, _ => none
  | n + 1, b, c =>
      if c.column ≠ indent || c.atEnd then some (b, c)
      else do
        let startsBlank := c.next isBlank
        let (line, c) := c.span (!isBreak ·)
        let (last, c) := c.takeBreak
        let (_, trailing, c) ← blockBreaks? (some indent) (c.rest.length + 1) 0 [] c
        blockLines? folds indent n
          ⟨b.text ++ b.link folds startsBlank ++ line, last, trailing, startsBlank⟩ c

/-- Reads a block scalar after its first indicator; `outer` is the indentation of the collection
around it, or -1. -/
def block? (folds : Bool) (outer : Int) (c : Cursor) : Option (List Char × Cursor) := do
  let (chomping, increment, c) ← blockHeader? c
  let c ← c.finishLine?
  let fixed := increment.map fun i => outer.toNat + i
  let (largest, breaks, c) ← blockBreaks? fixed (c.rest.length + 1) 0 [] c
  let indent := fixed.getD (max (max largest (outer + 1).toNat) 1)
  let (b, c) ← blockLines? folds indent (c.rest.length + 1) { trailing := breaks } c
  let ending := match chomping with
    | .strip => []
    | .clip => b.last
    | .keep => b.last ++ b.trailing
  return (b.text ++ ending, c)

end LintDesk.Yaml
