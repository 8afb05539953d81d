import LintDesk.Text.Numeral
import LintDesk.Text.Blank
import LintDesk.Unicode.Names
import LintDesk.Regex.Flags

/-! # Patterns

Reading the text of a pattern into a regular expression. Every reader takes the rest of the
pattern and returns what remains of it; `none` refuses the pattern.
-/

namespace LintDesk.Regex

open LintDesk.Text LintDesk.Unicode

/-- A piece of a pattern: its expression, how deep it nests, and whether a repetition may follow
it. -/
structure Piece where
  node : Node
  depth : Nat := 0
  repeatable : Bool := true

namespace Pattern

/-- How deep pieces may nest. -/
def maxDepth : Nat := 250

/-- The special characters; each stands for itself behind a backslash. -/
def isMeta (c : Char) : Bool := "\\.+*?()|[]\x7b\x7d^$#&-~".toList.contains c

/-- Characters that may stand behind a backslash for themselves. -/
def isEscapable (c : Char) : Bool :=
  isMeta c || (c.toNat < 0x80 && !c.isAlphanum && c != '<' && c != '>')

/-- Passes over blanks and comments. -/
def skipVerbose : Bool → List Char → List Char
  | _, [] => []
  | true, c :: s => skipVerbose (c != '\n') s
  | false, c :: s =>
      if isBlank c then skipVerbose false s
      else if c == '#' then skipVerbose true s
      else c :: s

/-- Passes over blanks and comments where the flags say so. -/
def gap (f : Flags) (s : List Char) : List Char := if f.verbose then skipVerbose false s else s

/-! ## Escapes -/

/-- Reads `n` hexadecimal digits. -/
def hexDigits? (f : Flags) : Nat → List Char → Option (List Char × List Char)
  | 0, s => some ([], s)
  | _ + 1, [] => none
  | n + 1, c :: s =>
      if (hexValue? c).isNone then none
      else do
        let (ds, s) ← hexDigits? f n (if n = 0 then s else gap f s)
        some (c :: ds, s)

/-- Reads hexadecimal digits up to a closing brace. -/
def bracedHex? (f : Flags) : Nat → List Char → Option (List Char × List Char)
  | 0, _ => none
  | _ + 1, [] => none
  | _ + 1, '\x7d' :: s => some ([], s)
  | n + 1, c :: s =>
      if (hexValue? c).isNone then none
      else do
        let (ds, s) ← bracedHex? f n (gap f s)
        some (c :: ds, s)

/-- A character written by its code, and whether it was written as a byte of two digits. -/
def code? (f : Flags) (width : Nat) (s : List Char) : Option (Char × Bool × List Char) := do
  let s := gap f s
  match s with
  | '\x7b' :: s =>
      let (ds, s) ← bracedHex? f (s.length + 1) (gap f s)
      let c ← charOf? (← numeral? 16 ds)
      some (c, false, gap f s)
  | s =>
      let (ds, s) ← hexDigits? f width s
      let c ← charOf? (← numeral? 16 ds)
      some (c, width == 2, gap f s)

/-- Reads up to a closing brace. -/
def bracedName? (f : Flags) : Nat → List Char → Option (List Char × List Char)
  | 0, _ => none
  | _ + 1, [] => none
  | _ + 1, '\x7d' :: s => some ([], s)
  | n + 1, c :: s => do
      let (cs, s) ← bracedName? f n (gap f s)
      some (c :: cs, s)

/-- Splits a name at the first place where `sep` stands. -/
def splitAt? (sep : List Char) : List Char → Option (List Char × List Char)
  | [] => none
  | c :: s =>
      if sep.isPrefixOf (c :: s) then some ([], (c :: s).drop sep.length)
      else (splitAt? sep s).map fun (a, b) => (c :: a, b)

/-- The set for the text between the braces of a Unicode class, and whether it is negated. -/
def namedClass? (name : List Char) : Option (Bool × CharSet) :=
  match splitAt? ['!', '='] name with
  | some (a, b) => (Names.byValue? a b).map (true, ·)
  | none =>
      match splitAt? [':'] name <|> splitAt? ['='] name with
      | some (a, b) => (Names.byValue? a b).map (false, ·)
      | none => (Names.byName? name).map (false, ·)

/-- Reads what follows the `p` of a Unicode class. -/
def unicodeClass? (f : Flags) (negated : Bool) (s : List Char) :
    Option (CharSet × List Char) := do
  match gap f s with
  | [] => none
  | '\x7b' :: s =>
      let (name, s) ← bracedName? f (s.length + 1) (gap f s)
      let (unequal, set) ← namedClass? name
      if f.unicode then some (← f.finish? (negated != unequal) set, s) else none
  | c :: s =>
      if c == '\\' then none
      else
        let set ← Names.byName? [c]
        if f.unicode then some (← f.finish? negated set, gap f s) else none

/-- Reads the letters and hyphens of a special word boundary. -/
def boundaryName (f : Flags) : Nat → List Char → List Char × List Char
  | n + 1, c :: s =>
      if c.isAlpha || c == '-' then
        let (cs, s) := boundaryName f n (gap f s)
        (c :: cs, s)
      else ([], c :: s)
  | _, s => ([], s)

/-- Reads what follows `\b`: a special boundary in braces, unless the braces hold the number of a
repetition. -/
def boundary? (f : Flags) (s : List Char) : Option (Look × List Char) := do
  let ascii := !f.unicode
  match s with
  | '\x7b' :: inner =>
      match gap f inner with
      | [] => none
      | c :: rest =>
          if !(c.isAlpha || c == '-') then some (.boundary ascii, s)
          else
            let (name, rest) := boundaryName f (rest.length + 1) (c :: rest)
            match rest with
            | '\x7d' :: rest =>
                match String.ofList name with
                | "start" => some (.wordStart ascii, rest)
                | "end" => some (.wordEnd ascii, rest)
                | "start-half" => some (.halfStart ascii, rest)
                | "end-half" => some (.halfEnd ascii, rest)
                | _ => none
            | _ => none
  | s => some (.boundary ascii, s)

/-- What an escape stands for. -/
inductive Escaped where
  /-- A character, and whether it was written as a byte of two hexadecimal digits. -/
  | char (c : Char) (byte : Bool)
  | set (s : CharSet)
  | look (l : Look)

/-- Characters with an escape of one letter. -/
def controlEscape? : Char → Option Char
  | 'a' => some '\x07'
  | 'f' => some '\x0c'
  | 't' => some '\t'
  | 'n' => some '\n'
  | 'r' => some '\r'
  | 'v' => some '\x0b'
  | _ => none

/-- Reads what follows a backslash. There are no references to groups. -/
def escape? (f : Flags) : List Char → Option (Escaped × List Char)
  | [] => none
  | c :: s =>
      if c.isDigit then none
      else if c == 'x' || c == 'u' || c == 'U' then do
        let width := if c == 'x' then 2 else if c == 'u' then 4 else 8
        let (d, byte, s) ← code? f width s
        some (.char d byte, s)
      else if c == 'p' || c == 'P' then do
        let (set, s) ← unicodeClass? f (c == 'P') s
        some (.set set, s)
      else if "dswDSW".toList.contains c then do
        some (.set (← f.letterClass? c), s)
      else if isEscapable c then some (.char c false, s)
      else
        match controlEscape? c with
        | some d => some (.char d false, s)
        | none =>
            let ascii := !f.unicode
            match c with
            | 'A' => some (.look .textStart, s)
            | 'z' => some (.look .textEnd, s)
            | 'b' => (boundary? f s).map fun (l, s) => (.look l, s)
            | 'B' => some (.look (.noBoundary ascii), s)
            | '<' => some (.look (.wordStart ascii), s)
            | '>' => some (.look (.wordEnd ascii), s)
            | _ => none

/-- A character outside a class. -/
def charNode? (f : Flags) (c : Char) (byte : Bool) : Option Node :=
  if byte && !f.unicode && 0x80 ≤ c.toNat then none else some (f.char c)

/-! ## Classes in brackets -/

/-- Reads `[:name:]` after its first bracket. A negated name leaves out the other cases of its
characters too, where case is ignored. -/
def asciiClass? (f : Flags) (s : List Char) : Option (CharSet × List Char) := do
  match s with
  | ':' :: s =>
      let (negated, s) := match s with
        | '^' :: s => (true, s)
        | s => (false, s)
      let name := s.takeWhile (· != ':')
      match s.dropWhile (· != ':') with
      | ':' :: ']' :: s =>
          let set ← Flags.asciiClass? (String.ofList name)
          some (if negated then f.complement (f.fold set) else set, s)
      | _ => none
  | _ => none

/-- An end of a range in a class, or a whole set. -/
def classItem? (f : Flags) : List Char → Option (Escaped × List Char)
  | [] => none
  | '\\' :: s => do
      let (e, s) ← escape? f s
      match e with
      | .look _ => none
      | e => some (e, s)
  | c :: s => some (.char c false, s)

/-- A character as an end of a range; without Unicode it has to be a byte. -/
def rangeEnd? (f : Flags) : Escaped → Option Char
  | .char c byte => if f.unicode || byte || c.toNat < 0x80 then some c else none
  | _ => none

/-- Reads a character, a range or an escaped class. -/
def classRange? (f : Flags) (s : List Char) : Option (CharSet × List Char) := do
  let (first, s) ← classItem? f s
  let s := gap f s
  let single : Option (CharSet × List Char) := match first with
    | .set set => some (set, s)
    | first => (rangeEnd? f first).map fun c => (.ofChar c, s)
  match s with
  | [] => none
  | '-' :: rest =>
      match gap f rest with
      | [] => none
      | next :: rest' =>
          if next == ']' || next == '-' then single
          else
            let lo ← rangeEnd? f first
            let (second, s) ← classItem? f (next :: rest')
            let hi ← rangeEnd? f second
            if lo ≤ hi then some (.ofRange lo.toNat hi.toNat, s) else none
  | _ => single

/-- The operators between the operands of a class; all bind alike, to the left. -/
inductive SetOp where
  | inter
  | diff
  | symmDiff

def SetOp.apply (f : Flags) (op : SetOp) (a b : CharSet) : CharSet :=
  let a := f.fold a
  let b := f.fold b
  match op with
  | inter => a.inter b
  | diff => a.diff b
  | symmDiff => a.symmDiff b

def SetOp.ofText? : List Char → Option (SetOp × List Char)
  | '&' :: '&' :: s => some (inter, s)
  | '-' :: '-' :: s => some (diff, s)
  | '~' :: '~' :: s => some (symmDiff, s)
  | _ => none

/-- The operand that was read so far, joined with the operands before it. -/
def closeOperand (f : Flags) (left : Option (CharSet × SetOp)) (operand : CharSet) : CharSet :=
  match left with
  | none => operand
  | some (a, op) => op.apply f a operand

/-- Hyphens that open a class, which stand for themselves. -/
def leadingHyphens (f : Flags) : Nat → List Char → Bool × List Char
  | n + 1, '-' :: s => (true, (leadingHyphens f n (gap f s)).2)
  | _, s => (false, s)

/-- Reads the opening of a class after its bracket: whether it is negated, and the characters that
stand for themselves at its front. -/
def classOpening? (f : Flags) (s : List Char) : Option (Bool × CharSet × List Char) := do
  let (negated, s) := match gap f s with
    | '^' :: s => (true, gap f s)
    | s => (false, s)
  let (hyphen, s) := leadingHyphens f s.length s
  let set := if hyphen then CharSet.ofChar '-' else .empty
  match s with
  | [] => none
  | ']' :: s => if hyphen then some (negated, set, ']' :: s) else
      let s := gap f s
      if s.isEmpty then none else some (negated, .ofChar ']', s)
  | s => some (negated, set, s)

/-- Reads a class after its opening bracket: its set and how deep it nests. The operand that is
being read holds `operand` so far; `left` holds the operands before it. -/
def classBody? (f : Flags) (negated : Bool) :
    Nat → Option (CharSet × SetOp) → CharSet → Nat → List Char →
      Option (CharSet × Nat × List Char)
  | 0, _, _, _, _ => none
  | n + 1, left, operand, depth, s =>
      match gap f s with
      | [] => none
      | ']' :: s => do
          let set ← f.finish? negated (closeOperand f left operand)
          some (set, depth + 1, s)
      | '[' :: s =>
          match asciiClass? f s with
          | some (set, s) => classBody? f negated n left (operand.union set) depth s
          | none => do
              let (inner, set, s) ← classOpening? f s
              let (set, d, s) ← classBody? f inner n none set 0 s
              classBody? f negated n left (operand.union set) (max depth (d + 1)) s
      | s =>
          match SetOp.ofText? s with
          | some (op, s) =>
              classBody? f negated n (some (closeOperand f left operand, op)) .empty (depth + 1) s
          | none => do
              let (set, s) ← classRange? f s
              classBody? f negated n left (operand.union set) depth s

/-- Reads a class after its opening bracket. -/
def class? (f : Flags) (s : List Char) : Option (Piece × List Char) := do
  let (negated, set, s) ← classOpening? f s
  let (set, depth, s) ← classBody? f negated (s.length + 1) none set 0 s
  some (⟨.set set, depth, true⟩, s)

/-! ## Repetitions -/

/-- A question mark behind a repetition turns its preference around. -/
def greed (f : Flags) : List Char → Bool × List Char
  | '?' :: s => (f.swapGreed, s)
  | s => (!f.swapGreed, s)

/-- Reads a number of rounds, with blanks around it. -/
def rounds? (f : Flags) (s : List Char) : Option (Option Nat × List Char) := do
  let s := s.dropWhile isBlank
  let rec digits : Nat → List Char → List Char × List Char
    | n + 1, c :: s =>
        if isDigit c then
          let (ds, s) := digits n (gap f s)
          (c :: ds, s)
        else ([], c :: s)
    | _, s => ([], s)
  let (ds, s) := digits s.length s
  let s := s.dropWhile isBlank
  if ds.isEmpty then some (none, s)
  else some (some (← digitsBelow? bound32 ds), s)

/-- Reads a repetition with counted rounds after its opening brace. -/
def counted? (f : Flags) (s : List Char) : Option (Nat × Option Nat × List Char) := do
  let s := gap f s
  if s.isEmpty then none
  else
    let (first, s) ← rounds? f s
    let least ← first
    match s with
    | ',' :: s =>
        match gap f s with
        | [] => none
        | '\x7d' :: s => some (least, none, gap f s)
        | s =>
            let (second, s) ← rounds? f s
            let most ← second
            match s with
            | '\x7d' :: s => if least ≤ most then some (least, some most, gap f s) else none
            | _ => none
    | '\x7d' :: s => some (least, some least, gap f s)
    | _ => none

/-- Repeats the last of the pieces; a repetition of no round at all stands for nothing. -/
def repeat? (least : Nat) (most : Option Nat) (greedy : Bool) :
    List Piece → Option (List Piece)
  | [] => none
  | p :: ps =>
      if !p.repeatable then none
      else
        let node := if most = some 0 then Node.empty else .rep p.node least most greedy
        some (⟨node, p.depth + 1, true⟩ :: ps)

/-! ## Groups -/

/-- Reads the flags of a group up to the character that ends them: the flags, whether any was
written, and that character. -/
def flags? (on : Bool) (written : List Char) (f : Flags) :
    List Char → Option (Flags × Bool × Char × List Char)
  | [] => none
  | c :: s =>
      if c == ':' || c == ')' then
        if written.head? == some '-' then none else some (f, !written.isEmpty, c, s)
      else if written.contains c then none
      else if c == '-' then flags? false (c :: written) f s
      else do flags? on (c :: written) (← f.set? c on) s

/-- Reads the name of a group up to the closing angle bracket. -/
def groupName? (seen : List Char) : List Char → Option (String × List Char)
  | [] => none
  | '>' :: s => if seen.isEmpty then none else some (String.ofList seen.reverse, s)
  | c :: s =>
      let allowed :=
        if seen.isEmpty then c == '_' || isAlphabetic c
        else "_.[]".toList.contains c || isAlphanumeric c
      if allowed then groupName? (c :: seen) s else none

/-- What a pattern's opening parenthesis opens. -/
inductive Opening where
  | capture (name : Option String)
  | plain (f : Flags)
  /-- Flags for the rest of the group that surrounds them. -/
  | setFlags (f : Flags)

/-- Whether the text after a parenthesis asks for a look ahead or behind, which there is none of. -/
def isLookAround : List Char → Bool
  | '?' :: '=' :: _ | '?' :: '!' :: _ | '?' :: '<' :: '=' :: _ | '?' :: '<' :: '!' :: _ => true
  | _ => false

/-- Reads what follows an opening parenthesis. -/
def opening? (f : Flags) (s : List Char) : Option (Opening × List Char) := do
  let s := gap f s
  if isLookAround s then none
  else
    match s with
    | '?' :: 'P' :: '<' :: s | '?' :: '<' :: s => do
        let (name, s) ← groupName? [] s
        some (.capture (some name), s)
    | '?' :: s => do
        let (g, written, stop, s) ← flags? true [] f s
        if stop == ':' then some (.plain g, s)
        else if written then some (.setFlags g, s)
        else none
    | s => some (.capture none, s)

/-! ## The whole pattern -/

/-- The pieces of an alternative, last first, as one piece. -/
def concat (ps : List Piece) : Piece :=
  match ps with
  | [p] => p
  | ps =>
      ⟨.ofList (ps.reverse.map (·.node)),
        if ps.isEmpty then 0 else 1 + (ps.map (·.depth)).foldl max 0, true⟩

/-- The alternatives, last first, as one piece. -/
def alternation (branches : List Piece) : Piece :=
  match branches with
  | [p] => p
  | ps => ⟨.choice (ps.reverse.map (·.node)), 1 + (ps.map (·.depth)).foldl max 0, true⟩

/-- What is known while a pattern is read: the number of groups opened so far and the names among
them. -/
structure Groups where
  count : Nat := 0
  names : List String := []

def Groups.open? (g : Groups) (name : Option String) : Option Groups :=
  match name with
  | none => some { g with count := g.count + 1 }
  | some n => if g.names.contains n then none else some ⟨g.count + 1, n :: g.names⟩

/-- Reads a piece that is neither a group nor a class nor a repetition. -/
def simple? (f : Flags) : List Char → Option (Piece × List Char)
  | [] => none
  | '\\' :: s => do
      let (e, s) ← escape? f s
      match e with
      | .char c byte => some (⟨← charNode? f c byte, 0, true⟩, s)
      | .set set => some (⟨.set set, 0, true⟩, s)
      | .look l => some (⟨.look l, 0, true⟩, s)
  | '.' :: s => do some (⟨← f.dot?, 0, true⟩, s)
  | '^' :: s => some (⟨.look f.lineStart, 0, true⟩, s)
  | '$' :: s => some (⟨.look f.lineEnd, 0, true⟩, s)
  | c :: s => some (⟨f.char c, 0, true⟩, s)

/-- Reads alternatives up to a closing parenthesis or the end of the pattern. The alternative being
read holds the pieces `ps` so far, and those before it are `branches`, both last first. -/
def branches? : Nat → Flags → Groups → List Piece → List Piece → List Char →
    Option (Piece × Groups × List Char)
  | 0, _, _, _, _, _ => none
  | n + 1, f, g, branches, ps, s =>
      match gap f s with
      | [] => some (alternation (concat ps :: branches), g, [])
      | ')' :: s => some (alternation (concat ps :: branches), g, ')' :: s)
      | '|' :: s => branches? n f g (concat ps :: branches) [] s
      | '[' :: s => do
          let (p, s) ← class? f s
          branches? n f g branches (p :: ps) s
      | '?' :: s => do
          let (greedy, s) := greed f s
          branches? n f g branches (← repeat? 0 (some 1) greedy ps) s
      | '*' :: s => do
          let (greedy, s) := greed f s
          branches? n f g branches (← repeat? 0 none greedy ps) s
      | '+' :: s => do
          let (greedy, s) := greed f s
          branches? n f g branches (← repeat? 1 none greedy ps) s
      | '\x7b' :: s => do
          let (least, most, s) ← counted? f s
          let (greedy, s) := greed f s
          branches? n f g branches (← repeat? least most greedy ps) s
      | '(' :: s => do
          match ← opening? f s with
          | (.setFlags f, s) => branches? n f g branches (⟨.empty, 0, false⟩ :: ps) s
          | (.plain inner, s) =>
              let (p, g, s) ← branches? n inner g [] [] s
              match s with
              | ')' :: s => branches? n f g branches (⟨p.node, p.depth + 1, true⟩ :: ps) s
              | _ => none
          | (.capture name, s) =>
              let index := g.count + 1
              let (p, g, s) ← branches? n f (← g.open? name) [] [] s
              match s with
              | ')' :: s =>
                  branches? n f g branches (⟨.group index name p.node, p.depth + 1, true⟩ :: ps) s
              | _ => none
      | s => do
          let (p, s) ← simple? f s
          branches? n f g branches (p :: ps) s

/-- The expression that a pattern stands for. -/
def read? (s : List Char) : Option Node := do
  let (p, _, rest) ← branches? (s.length + 1) {} {} [] [] s
  if rest.isEmpty && p.depth ≤ maxDepth && p.node.size ≤ Node.maxSize then some p.node else none

end Pattern
end LintDesk.Regex
