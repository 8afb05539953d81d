import LintDesk.Yaml.Token

/-! # Nodes

The nodes of a YAML document, built from its tokens. An alias stays an alias: what it stands for is
looked up among the nodes with anchors. The number of an anchor is the number of different anchor
names before it, and the last node with a number is the one that aliases with it stand for.
-/

namespace LintDesk.Yaml

/-- What is written in front of a node. -/
structure Properties where
  anchor : Option Nat := none
  tag : Option (List Char) := none
deriving DecidableEq

inductive Node where
  | scalar (p : Properties) (style : ScalarStyle) (text : List Char)
  | sequence (p : Properties) (items : List Node)
  | mapping (p : Properties) (pairs : List (Node × Node))
  /-- An alias. -/
  | reference (number : Nat)

namespace Node

/-- The node that stands where nothing is written. -/
def empty : Node := scalar {} .plain []

mutual

/-- The nodes with anchors, in the order in which they begin. -/
def anchored : Node → List (Nat × Node)
  | scalar p style text => (p.anchor.map (·, scalar p style text)).toList
  | sequence p items => (p.anchor.map (·, sequence p items)).toList ++ anchoredItems items
  | mapping p pairs => (p.anchor.map (·, mapping p pairs)).toList ++ anchoredPairs pairs
  | reference _ => []

def anchoredItems : List Node → List (Nat × Node)
  | [] => []
  | x :: xs => anchored x ++ anchoredItems xs

def anchoredPairs : List (Node × Node) → List (Nat × Node)
  | [] => []
  | (k, v) :: rest => anchored k ++ anchored v ++ anchoredPairs rest

end

end Node

/-- Tokens that are still to be read, with the tag handles and anchor names known so far. -/
structure Source where
  tokens : List Token
  handles : List (List Char × List Char) := []
  names : List (List Char × Nat) := []

namespace Source

def next? (s : Source) : Option Token := s.tokens.head?

/-- Whether the next token is one of the given ones. -/
def nextIn (s : Source) (ts : List Token) : Bool := s.next?.any ts.contains

def drop (s : Source) : Source := { s with tokens := s.tokens.tail }

/-- Gives an anchor its number. -/
def addName (s : Source) (name : List Char) : Nat × Source :=
  let number := ((s.names.map (·.1)).eraseDups).length
  (number, { s with names := (name, number) :: s.names })

/-- The tag that a handle and a suffix stand for. -/
def resolve? (s : Source) (handle suffix : List Char) : Option (List Char) :=
  if handle = [] then some suffix else (s.handles.lookup handle).map (· ++ suffix)

def readAnchor (s : Source) (p : Properties) : Properties × Source :=
  match s.tokens with
  | .anchor name :: _ =>
      let (number, s) := s.drop.addName name
      ({ p with anchor := some number }, s)
  | _ => (p, s)

def readTag? (s : Source) (p : Properties) : Option (Properties × Source) :=
  match s.tokens with
  | .tag handle suffix :: _ => do return ({ p with tag := ← s.resolve? handle suffix }, s.drop)
  | _ => some (p, s)

/-- Reads an anchor and a tag, in either order. -/
def properties? (s : Source) : Option (Properties × Source) :=
  match s.tokens with
  | .tag .. :: _ => do
      let (p, s) ← s.readTag? {}
      return s.readAnchor p
  | _ =>
      let (p, s) := s.readAnchor {}
      s.readTag? p

end Source

/-- The properties of a scalar, whose tag may be given up by an exclamation mark. -/
def Properties.ofScalar (p : Properties) : Properties :=
  if p.tag = some ['!'] then { p with tag := none } else p

open Token in
mutual

/-- Reads a node. Block collections are read only where `block` allows them, and a sequence without
indentation of its own only where `flat` does. -/
def node? (block flat : Bool) : Nat → Source → Option (Node × Source)
  | 0, _ => none
  | n + 1, s =>
      match s.tokens with
      | reference name :: _ => do return (.reference (← s.names.lookup name), s.drop)
      | _ => do
          let (p, s) ← s.properties?
          match s.tokens, block, flat with
          | blockEntry :: _, _, true => do
              let (items, s) ← flatItems? n s
              return (.sequence p items, s)
          | scalar style text :: _, _, _ => return (.scalar p.ofScalar style text, s.drop)
          | flowSequenceStart :: _, _, _ => do
              let (items, s) ← flowItems? true n s.drop
              return (.sequence p items, s)
          | flowMappingStart :: _, _, _ => do
              let (pairs, s) ← flowPairs? true n s.drop
              return (.mapping p pairs, s)
          | blockSequenceStart :: _, true, _ => do
              let (items, s) ← blockItems? n s.drop
              return (.sequence p items, s)
          | blockMappingStart :: _, true, _ => do
              let (pairs, s) ← blockPairs? n s.drop
              return (.mapping p pairs, s)
          | _, _, _ => if p = {} then none else return (.scalar p .plain [], s)

/-- Reads a node unless one of the given tokens follows, which leaves the node empty. -/
def nodeUnless? (block flat : Bool) (stops : List Token) : Nat → Source → Option (Node × Source)
  | 0, _ => none
  | n + 1, s => if s.nextIn stops then some (.empty, s) else node? block flat n s

/-- Reads the value of a key, if there is one. -/
def valueUnless? (block : Bool) (stops : List Token) : Nat → Source → Option (Node × Source)
  | 0, _ => none
  | n + 1, s =>
      if s.nextIn [value] then nodeUnless? block block stops n s.drop else some (.empty, s)

/-- Reads the items of a block sequence, up to its end. -/
def blockItems? : Nat → Source → Option (List Node × Source)
  | 0, _ => none
  | n + 1, s =>
      if s.nextIn [blockEntry] then do
        let (x, s) ← nodeUnless? true false [blockEntry, blockEnd] n s.drop
        let (xs, s) ← blockItems? n s
        return (x :: xs, s)
      else if s.nextIn [blockEnd] then some ([], s.drop)
      else none

/-- Reads the items of a sequence without indentation of its own. -/
def flatItems? : Nat → Source → Option (List Node × Source)
  | 0, _ => none
  | n + 1, s =>
      if s.nextIn [blockEntry] then do
        let (x, s) ← nodeUnless? true false [blockEntry, key, value, blockEnd] n s.drop
        let (xs, s) ← flatItems? n s
        return (x :: xs, s)
      else some ([], s)

/-- Reads the pairs of a block mapping, up to its end. -/
def blockPairs? : Nat → Source → Option (List (Node × Node) × Source)
  | 0, _ => none
  | n + 1, s =>
      if s.nextIn [key] then do
        let (k, s) ← nodeUnless? true true [key, value, blockEnd] n s.drop
        let (v, s) ← valueUnless? true [key, value, blockEnd] n s
        let (rest, s) ← blockPairs? n s
        return ((k, v) :: rest, s)
      else if s.nextIn [blockEnd] then some ([], s.drop)
      else none

/-- Reads the items of a flow sequence, up to its end. A pair among them is a mapping of its own;
a missing key takes the sign behind it along. -/
def flowItems? (first : Bool) : Nat → Source → Option (List Node × Source)
  | 0, _ => none
  | n + 1, s =>
      if s.nextIn [flowSequenceEnd] then some ([], s.drop)
      else if !first && !s.nextIn [flowEntry] then none
      else
        let s := if first then s else s.drop
        if s.nextIn [flowSequenceEnd] then some ([], s.drop)
        else if s.nextIn [key] then do
          let s := s.drop
          let (k, s) ← if s.nextIn [value, flowEntry, flowSequenceEnd] then some (.empty, s.drop)
            else node? false false n s
          let (v, s) ← valueUnless? false [flowEntry, flowSequenceEnd] n s
          let (xs, s) ← flowItems? false n s
          return (.mapping {} [(k, v)] :: xs, s)
        else do
          let (x, s) ← node? false false n s
          let (xs, s) ← flowItems? false n s
          return (x :: xs, s)

/-- Reads the pairs of a flow mapping, up to its end. -/
def flowPairs? (first : Bool) : Nat → Source → Option (List (Node × Node) × Source)
  | 0, _ => none
  | n + 1, s =>
      if s.nextIn [flowMappingEnd] then some ([], s.drop)
      else if !first && !s.nextIn [flowEntry] then none
      else
        let s := if first then s else s.drop
        if s.nextIn [flowMappingEnd] then some ([], s.drop)
        else if s.nextIn [key] then do
          let (k, s) ← nodeUnless? false false [value, flowEntry, flowMappingEnd] n s.drop
          let (v, s) ← valueUnless? false [flowEntry, flowMappingEnd] n s
          let (rest, s) ← flowPairs? false n s
          return ((k, v) :: rest, s)
        else do
          let (k, s) ← node? false false n s
          let (rest, s) ← flowPairs? false n s
          return ((k, .empty) :: rest, s)

end

/-! ## Documents -/

/-- The tag handles that every document has. -/
def defaultHandles : List (List Char × List Char) :=
  [(['!'], ['!']), (['!', '!'], "tag:yaml.org,2002:".toList)]

/-- Reads the directives of a document: one version at most, and each handle once. -/
def directives? (versions : Nat) (handles : List (List Char × List Char)) :
    List Token → Option (List (List Char × List Char) × List Token)
  | .version major minor :: ts =>
      if versions = 0 ∧ major = 1 ∧ (minor = 1 ∨ minor = 2) then directives? 1 handles ts else none
  | .tagDirective handle stem :: ts =>
      if (handles.lookup handle).isSome then none
      else directives? versions ((handle, stem) :: handles) ts
  | ts => some (handles, ts)

def isDirective : Token → Bool
  | .version .. | .tagDirective .. => true
  | _ => false

/-- Reads the only document of a text from its tokens; a text without tokens has an empty one. -/
def ofTokens? (ts : List Token) : Option Node := do
  let fuel := 4 * ts.length + 4
  if ts.isEmpty then return .empty
  let (root, s) ←
    if ts.head?.any fun t => isDirective t || t == .documentStart then do
      let (handles, ts) ← directives? 0 [] ts
      match ts with
      | .documentStart :: ts =>
          let s : Source := { tokens := ts, handles := handles ++ defaultHandles }
          if ts.isEmpty || s.nextIn [.documentStart, .documentEnd] || ts.head?.any isDirective then
            some (Node.empty, s)
          else node? true false fuel s
      | _ => none
    else node? true false fuel { tokens := ts, handles := defaultHandles }
  if s.tokens.all (· == .documentEnd) then return root else none

/-- A document: its root, and its nodes with anchors by number. -/
structure Document where
  root : Node
  anchored : List (Nat × Node)

/-- The document that a text spells. -/
def read? (s : List Char) : Option Document := do
  let root ← ofTokens? (← tokens? s)
  return ⟨root, root.anchored⟩

end LintDesk.Yaml
