import LintDesk.Regex.Node

/-! # Matching

The ways in which an expression can match from a place in a text, in the order of preference: an
earlier alternative before a later one, and more or fewer rounds of a repetition according to its
kind. Of two ways that end at the same place only the preferred one is kept, since what follows
depends on the place alone. A search takes the leftmost place that has a way, and its first way.
-/

namespace LintDesk.Regex

open LintDesk.Unicode

/-- A place in a text: the characters before it, nearest first, those behind it, and the number of
those before it. -/
structure Cursor where
  before : List Char
  after : List Char
  offset : Nat
deriving Repr

/-- A way to match: the place where it ends, and the texts of the groups on it, latest first. -/
structure Way where
  stop : Cursor
  groups : List (Nat × List Char)
deriving Repr

namespace Cursor

def ofText (s : List Char) : Cursor := ⟨[], s, 0⟩

/-- The place behind the next character, if the text goes on with one of the set. -/
def step? (c : Cursor) (s : CharSet) : Option Cursor :=
  match c.after with
  | [] => none
  | x :: rest => if s.mem x then some ⟨x :: c.before, rest, c.offset + 1⟩ else none

/-- The text between two places, the second one not before the first. -/
def textUpTo (c d : Cursor) : List Char := c.after.take (d.offset - c.offset)

def wordBefore (c : Cursor) (ascii : Bool) : Bool :=
  c.before.head?.any (if ascii then asciiWordChars else wordChars).mem

def wordBehind (c : Cursor) (ascii : Bool) : Bool :=
  c.after.head?.any (if ascii then asciiWordChars else wordChars).mem

end Cursor

def Look.holds (c : Cursor) : Look → Bool
  | textStart => c.before.isEmpty
  | textEnd => c.after.isEmpty
  | lineStart => c.before.isEmpty || c.before.head? == some '\n'
  | lineEnd => c.after.isEmpty || c.after.head? == some '\n'
  | anyLineStart =>
      c.before.isEmpty || c.before.head? == some '\n'
        || (c.before.head? == some '\r' && c.after.head? != some '\n')
  | anyLineEnd =>
      c.after.isEmpty || c.after.head? == some '\r'
        || (c.after.head? == some '\n' && c.before.head? != some '\r')
  | boundary ascii => c.wordBefore ascii != c.wordBehind ascii
  | noBoundary ascii => c.wordBefore ascii == c.wordBehind ascii
  | wordStart ascii => !c.wordBefore ascii && c.wordBehind ascii
  | wordEnd ascii => c.wordBefore ascii && !c.wordBehind ascii
  | halfStart ascii => !c.wordBefore ascii
  | halfEnd ascii => !c.wordBehind ascii

namespace Way

/-- The way that consumes nothing. -/
def stay (c : Cursor) : Way := ⟨c, []⟩

/-- The way `w` continued by `v`. -/
def append (w v : Way) : Way := ⟨v.stop, v.groups ++ w.groups⟩

/-- Keeps the first of the ways that end at the same place, unless one of `seen` ended there. -/
def distinct (seen : List Nat) : List Way → List Way
  | [] => []
  | w :: ws =>
      if seen.contains w.stop.offset then distinct seen ws
      else w :: distinct (w.stop.offset :: seen) ws

/-- Continues each way by those that start where it ends. -/
def andThen (ws : List Way) (f : Cursor → List Way) : List Way :=
  distinct [] (ws.flatMap fun w => (f w.stop).map w.append)

/-- Continues each way by a search that remembers where it has been. -/
def thread {σ : Type} (f : σ → Cursor → List Way × σ) : σ → List Way → List Way × σ
  | s, [] => ([], s)
  | s, w :: ws =>
      let (vs, s) := f s w.stop
      let (us, s) := thread f s ws
      (vs.map w.append ++ us, s)

/-- More rounds or none, in the order of preference. -/
def prefer (greedy : Bool) (c : Cursor) (more : List Way) : List Way :=
  if greedy then more ++ [stay c] else stay c :: more

end Way

section Repetition

variable (body : Cursor → List Way)

/-- Exactly `n` rounds. -/
def exactly : Nat → Cursor → List Way
  | 0, c => [.stay c]
  | n + 1, c => Way.andThen (exactly n c) body

/-- Any number of further rounds after one that ended at `c`. A place is visited once, and at the
place `origin`, where the first round began, no further round is tried. -/
def furtherRounds (greedy : Bool) (origin : Nat) :
    Nat → List Nat → Cursor → List Way × List Nat
  | 0, seen, _ => ([], seen)
  | n + 1, seen, c =>
      if seen.contains c.offset then ([], seen)
      else
        let seen := c.offset :: seen
        let (more, seen) :=
          if c.offset = origin then ([], seen)
          else Way.thread (furtherRounds greedy origin n) seen (body c)
        (Way.prefer greedy c more, seen)

/-- One round or more. -/
def oneOrMore (greedy : Bool) (c : Cursor) : List Way :=
  (Way.thread (furtherRounds body greedy c.offset (c.after.length + 2)) [] (body c)).1

/-- At most `n` rounds. A place is visited once for each number of rounds that are left. -/
def atMost (greedy : Bool) : Nat → List (Nat × Nat) → Cursor → List Way × List (Nat × Nat)
  | 0, seen, c => ([.stay c], seen)
  | n + 1, seen, c =>
      if seen.contains (n + 1, c.offset) then ([], seen)
      else
        let (more, seen) := Way.thread (atMost greedy n) ((n + 1, c.offset) :: seen) (body c)
        (Way.prefer greedy c more, seen)

/-- Between `least` and `most` rounds. -/
def repeated (least : Nat) (most : Option Nat) (greedy : Bool) (c : Cursor) : List Way :=
  match least, most with
  | 0, none => Way.distinct [] (Way.prefer greedy c (oneOrMore body greedy c))
  | n + 1, none => Way.andThen (exactly body n c) (oneOrMore body greedy)
  | n, some m => Way.andThen (exactly body n c) fun c => (atMost body greedy (m - n) [] c).1

end Repetition

/-- The place and those behind the next characters as long as these belong to the set, `limit`
characters at most. -/
def stops (s : CharSet) : Nat → List Char → List Char → Nat → List Cursor
  | n + 1, before, x :: after, offset =>
      ⟨before, x :: after, offset⟩ ::
        if s.mem x then stops s n (x :: before) after (offset + 1) else []
  | _, before, after, offset => [⟨before, after, offset⟩]

/-- Between `least` and `most` characters of the set. -/
def run (s : CharSet) (least : Nat) (most : Option Nat) (greedy : Bool) (c : Cursor) : List Way :=
  let places := (stops s (most.getD c.after.length) c.before c.after c.offset).drop least
  (if greedy then places.reverse else places).map .stay

/-- The ways in which the expression matches from `c` on, preferred ones first. -/
def Node.ways : Node → Cursor → List Way
  | empty, c => [.stay c]
  | look l, c => if l.holds c then [.stay c] else []
  | set s, c => (c.step? s).toList.map .stay
  | group i _ body, c =>
      (body.ways c).map fun w => { w with groups := (i, c.textUpTo w.stop) :: w.groups }
  | seq a b, c => Way.andThen (a.ways c) b.ways
  | alt a b, c => Way.distinct [] (a.ways c ++ b.ways c)
  | rep body least most greedy, c =>
      match body with
      | set s => run s least most greedy c
      | body => repeated body.ways least most greedy c

/-- The match at a place: the groups on the preferred way, with the whole match as group 0. -/
def Node.matchAt? (r : Node) (c : Cursor) : Option (List (Nat × List Char)) :=
  (r.ways c).head?.map fun w => (0, c.textUpTo w.stop) :: w.groups

/-- The first match at or behind the place between two pieces of a text. -/
def Node.search (r : Node) : List Char → List Char → Nat → Option (List (Nat × List Char))
  | before, [], offset => r.matchAt? ⟨before, [], offset⟩
  | before, x :: after, offset =>
      match r.matchAt? ⟨before, x :: after, offset⟩ with
      | some groups => some groups
      | none => r.search (x :: before) after (offset + 1)

end LintDesk.Regex
