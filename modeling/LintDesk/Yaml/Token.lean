import LintDesk.Text.Utf8
import LintDesk.Yaml.Scalar

/-! # Tokens

A YAML text as a row of tokens. Block collections get tokens of their own where their indentation
begins and ends. Whether a node is the key of a mapping shows only at the colon behind it, so the
scanner remembers where a key could begin and puts the tokens of the key there later.
-/

namespace LintDesk.Yaml

open LintDesk.Text

inductive Token where
  | version (major minor : Nat)
  | tagDirective (handle stem : List Char)
  | documentStart
  | documentEnd
  | blockSequenceStart
  | blockMappingStart
  | blockEnd
  | flowSequenceStart
  | flowSequenceEnd
  | flowMappingStart
  | flowMappingEnd
  | blockEntry
  | flowEntry
  | key
  | value
  /-- An alias. -/
  | reference (name : List Char)
  | anchor (name : List Char)
  | tag (handle suffix : List Char)
  | scalar (style : ScalarStyle) (text : List Char)
deriving DecidableEq

/-! ## Anchors, tags and directives -/

/-- Reads the name of an anchor or alias after its sign. -/
def anchorName? (c : Cursor) : Option (List Char × Cursor) :=
  let (name, c) := c.span isNameChar
  if name.isEmpty then none
  else if c.endsAt 0 || c.next ['?', ':', ',', ']', '\x7d', '%', '@', '\x60'].contains then
    some (name, c)
  else none

/-- Reads a tag handle: a name between exclamation marks, or the beginning of one. -/
def tagHandle? (c : Cursor) : Option (List Char × Cursor) :=
  if !c.nextIs '!' then none
  else
    let (name, c) := (c.skip 1).span isNameChar
    if c.nextIs '!' then some ('!' :: name ++ ['!'], c.skip 1) else some ('!' :: name, c)

/-- Whether a character may stand in a tag; brackets and commas only in a verbatim one. -/
def isTagChar (verbatim : Bool) (c : Char) : Bool :=
  isNameChar c || [';', '/', '?', ':', '@', '&', '=', '+', '$', '.', '%', '!', '~', '*', '\'', '(',
    ')'].contains c || (verbatim && [',', '[', ']'].contains c)

/-- Reads bytes written as a percent sign and two digits each. -/
def percentBytes? : List Char → Option (List UInt8 × List Char)
  | '%' :: a :: b :: s => do
      let n ← numeral? 16 [a, b]
      let (bytes, s) ← percentBytes? s
      return (.ofNat n :: bytes, s)
  | '%' :: _ => none
  | s => some ([], s)

/-- The text of a tag in which bytes may be written by their numbers. -/
def unescapeTag? : Nat → List Char → Option (List Char)
  | 0, _ => none
  | _ + 1, [] => some []
  | n + 1, '%' :: s => do
      let (bytes, s) ← percentBytes? ('%' :: s)
      let text ← (Utf8.strict bytes).toOption
      return text ++ (← unescapeTag? n s)
  | n + 1, c :: s => do return c :: (← unescapeTag? n s)

/-- Reads the text of a tag, which must not be empty together with what has been read of it. -/
def tagText? (verbatim : Bool) (start : List Char) (c : Cursor) : Option (List Char × Cursor) := do
  let (s, c) := c.span (isTagChar verbatim)
  if start.isEmpty && s.isEmpty then none
  else return (start.drop 1 ++ (← unescapeTag? (s.length + 1) s), c)

/-- Reads a tag, as a handle and a suffix; the handle of a verbatim tag is empty. -/
def tag? (flow : Bool) (c : Cursor) : Option (Token × Cursor) := do
  let (t, c) ←
    if c.hasAt 1 (· == '<') then do
      let (suffix, c) ← tagText? true [] (c.skip 2)
      if c.nextIs '>' then some (Token.tag [] suffix, c.skip 1) else none
    else do
      let (handle, c) ← tagHandle? c
      if handle.length ≥ 2 && handle.getLast? = some '!' then
        let (suffix, c) ← tagText? false [] c
        some (.tag handle suffix, c)
      else
        let (suffix, c) ← tagText? false handle c
        some (if suffix.isEmpty then .tag [] ['!'] else .tag ['!'] suffix, c)
  if c.endsAt 0 || (flow && c.nextIs ',') then return (t, c) else none

/-- Reads a part of a version, of nine digits at most. -/
def versionPart? (c : Cursor) : Option (Nat × Cursor) :=
  let (ds, c) := c.span isDigit
  if ds.isEmpty || 9 < ds.length then none else some (digitsValue ds, c)

/-- Reads a directive with its line. -/
def directive? (c : Cursor) : Option (Token × Cursor) := do
  let (name, c) := (c.skip 1).span isNameChar
  if !c.endsAt 0 then none
  else
    let c := c.skipWhile isBlank
    let (t, c) ←
      if name = "YAML".toList then do
        let (major, c) ← versionPart? c
        if !c.nextIs '.' then none
        else
          let (minor, c) ← versionPart? (c.skip 1)
          some (Token.version major minor, c)
      else if name = "TAG".toList then do
        let (handle, c) ← tagHandle? c
        if (handle ≠ ['!'] && (handle.length < 2 || handle.getLast? ≠ some '!')) || !c.next isBlank
          then none
        else
          let (stem, c) ← tagText? true [] (c.skipWhile isBlank)
          if c.endsAt 0 then some (.tagDirective handle stem, c) else none
      else none
    return (t, ← c.finishLine?)

/-! ## The scanner -/

/-- A place where the key of a mapping could begin. A required key has to turn out to be one. -/
structure KeySpot where
  required : Bool
  /-- The number of tokens before it. -/
  place : Nat
  index : Nat
  line : Nat
  column : Nat

structure Scanner where
  cursor : Cursor
  /-- The tokens so far. -/
  tokens : Array Token := #[]
  /-- The column of the innermost block collection; -1 outside of all. -/
  indent : Int := -1
  /-- The columns of the block collections around it. -/
  outer : List Int := []
  /-- Whether a key may begin here. -/
  keyAllowed : Bool := true
  /-- The last spot for a key at each level of flow collections, the innermost first. -/
  spots : List (Option KeySpot) := [none]

namespace Scanner

def flowLevel (s : Scanner) : Nat := s.spots.length - 1

def inFlow (s : Scanner) : Bool := 0 < s.flowLevel

def push (s : Scanner) (t : Token) : Scanner := { s with tokens := s.tokens.push t }

/-- Puts a token at a place among those that are already there. -/
def insertAt (s : Scanner) (place : Nat) (t : Token) : Scanner :=
  { s with tokens := s.tokens.take place ++ #[t] ++ s.tokens.drop place }

def allowKey (s : Scanner) (b : Bool) : Scanner := { s with keyAllowed := b }

def moveTo (s : Scanner) (c : Cursor) : Scanner := { s with cursor := c }

/-- Passes over one sign and adds its token. -/
def takeSign (s : Scanner) (t : Token) : Scanner := (s.moveTo (s.cursor.skip 1)).push t

/-- Forgets the spots that lie on an earlier line or too far back. -/
def dropStaleSpots? (s : Scanner) : Option Scanner :=
  let isStale (k : KeySpot) : Bool :=
    k.line < s.cursor.line || k.index + 1024 < s.cursor.index
  if s.spots.any fun k => k.any fun k => isStale k && k.required then none
  else some { s with spots := s.spots.map fun k => k.filter (!isStale ·) }

/-- Forgets the innermost spot. -/
def dropSpot? (s : Scanner) : Option Scanner :=
  match s.spots with
  | some k :: rest => if k.required then none else some { s with spots := none :: rest }
  | _ => some s

/-- Remembers the current place as a spot for a key, if a key may begin here. -/
def saveSpot? (s : Scanner) : Option Scanner :=
  if !s.keyAllowed then some s
  else do
    let s ← s.dropSpot?
    let c := s.cursor
    let required := !s.inFlow && s.indent == c.column
    return { s with
      spots := some ⟨required, s.tokens.size, c.index, c.line, c.column⟩ :: s.spots.drop 1 }

/-- Opens a block collection if the column lies further in; its token goes to the given place. -/
def roll (s : Scanner) (column : Nat) (place : Nat) (t : Token) : Scanner :=
  if !s.inFlow && s.indent < column then
    { s.insertAt place t with indent := column, outer := s.indent :: s.outer }
  else s

/-- Closes the block collections that lie further in than the column. -/
def unrollFrom (column : Int) : List Int → Scanner → Scanner
  | [], s => s
  | i :: rest, s =>
      if column < s.indent then
        unrollFrom column rest { s.push .blockEnd with indent := i, outer := rest }
      else s

def unroll (s : Scanner) (column : Int) : Scanner :=
  if s.inFlow then s else unrollFrom column s.outer s

/-- Passes over blanks, comments and line ends. A tab is no blank where a key may begin in a block
collection. -/
def skipFiller : Nat → Scanner → Scanner
  | 0, s => s
  | n + 1, s =>
      let tabs := s.inFlow || !s.keyAllowed
      let c := s.cursor.skipWhile fun ch => ch == ' ' || (tabs && ch == '\t')
      let c := if c.nextIs '#' then c.skipWhile (!isBreak ·) else c
      let s := s.moveTo c
      if c.next isBreak then
        let s := s.moveTo c.skipBreak
        skipFiller n (if s.inFlow then s else s.allowKey true)
      else s

/-- Closes everything in front of a directive, a document mark or the end of the text. -/
def closeAll? (s : Scanner) : Option Scanner := do
  return (← (s.unroll (-1)).dropSpot?).allowKey false

def openFlow? (s : Scanner) (t : Token) : Option Scanner := do
  let s ← s.saveSpot?
  return ({ s with spots := none :: s.spots }.allowKey true).takeSign t

def closeFlow? (s : Scanner) (t : Token) : Option Scanner := do
  let s ← s.dropSpot?
  let spots := if s.inFlow then s.spots.drop 1 else s.spots
  return ({ s with spots := spots }.allowKey false).takeSign t

def flowEntry? (s : Scanner) : Option Scanner := do
  return ((← s.dropSpot?).allowKey true).takeSign .flowEntry

def blockEntry? (s : Scanner) : Option Scanner := do
  if !s.inFlow && !s.keyAllowed then none
  else
    let s := s.roll s.cursor.column s.tokens.size .blockSequenceStart
    return ((← s.dropSpot?).allowKey true).takeSign .blockEntry

def key? (s : Scanner) : Option Scanner := do
  if !s.inFlow && !s.keyAllowed then none
  else
    let s := s.roll s.cursor.column s.tokens.size .blockMappingStart
    return ((← s.dropSpot?).allowKey (!s.inFlow)).takeSign .key

/-- Takes a colon. What began at the remembered spot turns out to be a key. -/
def value? (s : Scanner) : Option Scanner :=
  match s.spots with
  | some k :: rest =>
      let s := (s.insertAt k.place .key).roll k.column k.place .blockMappingStart
      some (({ s with spots := none :: rest }.allowKey false).takeSign .value)
  | _ =>
      if !s.inFlow && !s.keyAllowed then none
      else
        let s := s.roll s.cursor.column s.tokens.size .blockMappingStart
        some ((s.allowKey (!s.inFlow)).takeSign .value)

/-- Adds a token that can begin a key, given what the reader of the token answers. -/
def node? (s : Scanner) (read : Cursor → Option (Token × Cursor)) : Option Scanner := do
  let s ← s.saveSpot?
  let (t, c) ← read s.cursor
  return ((s.moveTo c).allowKey false).push t

def quotedNode? (s : Scanner) (single : Bool) : Option Scanner :=
  s.node? fun c => do
    let (text, c) ← quoted? single (c.skip 1)
    return (.scalar (if single then .singleQuoted else .doubleQuoted) text, c)

def plainNode? (s : Scanner) : Option Scanner := do
  let s ← s.saveSpot?
  let (text, broken, c) ← plain? s.inFlow (s.indent + 1).toNat s.cursor
  return ((s.moveTo c).allowKey broken).push (.scalar .plain text)

def blockNode? (s : Scanner) (folds : Bool) : Option Scanner := do
  let s ← s.dropSpot?
  let (text, c) ← block? folds s.indent (s.cursor.skip 1)
  return ((s.moveTo c).allowKey true).push (.scalar (if folds then .folded else .literal) text)

/-- Whether a plain scalar begins here. -/
def startsPlain (s : Scanner) : Bool :=
  let c := s.cursor
  match c.rest.head? with
  | none => false
  | some ch =>
      if ch == '-' then !c.hasAt 1 isBlank
      else if ch == '?' || ch == ':' then !s.inFlow && !c.endsAt 1
      else !(isBlank ch || isBreak ch || isFlowIndicator ch || ['#', '&', '*', '!', '|', '>', '\'',
        '"', '%', '@', '\x60'].contains ch)

/-- Reads the next token, where the text does not end. -/
def token? (s : Scanner) : Option Scanner :=
  let c := s.cursor
  if c.column == 0 && c.nextIs '%' then do
    let s ← s.closeAll?
    let (t, c) ← directive? s.cursor
    return (s.moveTo c).push t
  else if c.startsLine '-' then do
    let s ← s.closeAll?
    return (s.moveTo (s.cursor.skip 3)).push .documentStart
  else if c.startsLine '.' then do
    let s ← s.closeAll?
    return (s.moveTo (s.cursor.skip 3)).push .documentEnd
  else if c.nextIs '[' then s.openFlow? .flowSequenceStart
  else if c.nextIs '\x7b' then s.openFlow? .flowMappingStart
  else if c.nextIs ']' then s.closeFlow? .flowSequenceEnd
  else if c.nextIs '\x7d' then s.closeFlow? .flowMappingEnd
  else if c.nextIs ',' then s.flowEntry?
  else if c.nextIs '-' && c.endsAt 1 then s.blockEntry?
  else if c.nextIs '?' && (s.inFlow || c.endsAt 1) then s.key?
  else if c.nextIs ':' && (s.inFlow || c.endsAt 1) then s.value?
  else if c.nextIs '*' then
    s.node? fun c => (anchorName? (c.skip 1)).map fun (n, c) => (.reference n, c)
  else if c.nextIs '&' then
    s.node? fun c => (anchorName? (c.skip 1)).map fun (n, c) => (.anchor n, c)
  else if c.nextIs '!' then s.node? (tag? s.inFlow)
  else if c.nextIs '|' && !s.inFlow then s.blockNode? false
  else if c.nextIs '>' && !s.inFlow then s.blockNode? true
  else if c.nextIs '\'' then s.quotedNode? true
  else if c.nextIs '"' then s.quotedNode? false
  else if s.startsPlain then s.plainNode?
  else none

/-- Reads tokens up to the end of the text. -/
def run? : Nat → Scanner → Option (List Token)
  | 0, _ => none
  | n + 1, s => do
      let s ← (skipFiller (s.cursor.rest.length + 1) s).dropStaleSpots?
      let s := s.unroll s.cursor.column
      if s.cursor.atEnd then
        let s ← s.closeAll?
        return s.tokens.toList
      else run? n (← s.token?)

end Scanner

/-- The tokens of a text. A byte order mark in front takes up a column. -/
def tokens? (s : List Char) : Option (List Token) :=
  if s.all isAllowed then
    let c := Cursor.ofText s
    let c := if c.nextIs '\uFEFF' then c.skip 1 else c
    Scanner.run? (s.length + 2) { cursor := c }
  else none

end LintDesk.Yaml
