import LintDesk.Shell.Command
import LintDesk.Text.Numeral

/-! # Reading shell scripts

A script is read one line of commands at a time; a command that goes on over several lines is read
to its end.
-/

namespace LintDesk.Shell

open LintDesk.Text

def isSpace (c : Char) : Bool := c == ' ' || c == '\t'

/-- Whether a character ends a word that is not quoted. -/
def isMeta (c : Char) : Bool :=
  isSpace c || [';', '&', '|', '<', '>', '(', ')', '\n'].contains c

def isNameStart (c : Char) : Bool := c.isAlpha || c == '_'

def isNameChar (c : Char) : Bool := isNameStart c || isDigit c

/-- Passes over blanks, joined lines and a comment. -/
def skipBlanks : List Char → List Char
  | '\\' :: '\n' :: s => skipBlanks s
  | c :: s => if isSpace c then skipBlanks s else if c == '#' then s.dropWhile (· != '\n') else c :: s
  | [] => []

/-- Passes over blanks, comments and line ends. -/
def skipLines : Nat → List Char → List Char
  | 0, s => s
  | n + 1, s =>
      match skipBlanks s with
      | '\n' :: s => skipLines n s
      | s => s

/-! ## Words -/

/-- Splits a text at the parenthesis that closes the current one; `depth` are open inside, and
`quotes` says whether a double quote is. -/
def untilClose? : Nat → Bool → Nat → List Char → Option (List Char × List Char)
  | 0, _, _, _ | _, _, _, [] => none
  | n + 1, quotes, depth, c :: s =>
      match c, quotes, depth with
      | ')', false, 0 => some ([], s)
      | '\'', false, _ => do
          let inner := s.takeWhile (· != '\'')
          let (more, rest) ← untilClose? n quotes depth (s.drop (inner.length + 1))
          return ('\'' :: inner ++ '\'' :: more, rest)
      | '\\', _, _ =>
          match s with
          | d :: s => do
              let (more, rest) ← untilClose? n quotes depth s
              return ('\\' :: d :: more, rest)
          | [] => none
      | _, _, _ => do
          let depth := if quotes then depth
            else if c == '(' then depth + 1 else if c == ')' then depth - 1 else depth
          let (more, rest) ← untilClose? n (quotes != (c == '"')) depth s
          return (c :: more, rest)

/-- Splits a text at the next back quote; a backslash in front of one is dropped. -/
def untilBackQuote? : List Char → Option (List Char × List Char)
  | '\x60' :: s => some ([], s)
  | '\\' :: '\x60' :: s => (untilBackQuote? s).map fun (t, rest) => ('\x60' :: t, rest)
  | c :: s => (untilBackQuote? s).map fun (t, rest) => (c :: t, rest)
  | [] => none

/-- Splits the name of a parameter off a text, unless none begins there. -/
def paramName? (s : List Char) : Option (List Char × List Char) :=
  match s with
  | c :: rest =>
      if isNameStart c then some (s.takeWhile isNameChar, s.dropWhile isNameChar)
      else if isDigit c || ['@', '*', '#', '?', '$', '!', '-'].contains c then some ([c], rest)
      else none
  | [] => none

/-- The operation on a parameter that begins here, and what follows its sign. -/
def paramOp? : List Char → Option (ParamOp × Bool × List Char)
  | ':' :: '-' :: s => some (.default, true, s)
  | '-' :: s => some (.default, false, s)
  | ':' :: '=' :: s => some (.assign, true, s)
  | '=' :: s => some (.assign, false, s)
  | ':' :: '+' :: s => some (.alternative, true, s)
  | '+' :: s => some (.alternative, false, s)
  | ':' :: '?' :: s => some (.require, true, s)
  | '?' :: s => some (.require, false, s)
  | '#' :: '#' :: s => some (.dropPrefix true, false, s)
  | '#' :: s => some (.dropPrefix false, false, s)
  | '%' :: '%' :: s => some (.dropSuffix true, false, s)
  | '%' :: s => some (.dropSuffix false, false, s)
  | _ => none

/-- Where a word is read: on its own, between double quotes, up to a closing brace, or as a text of
several lines. -/
inductive WordPlace where
  | bare
  | quotes
  | braces (quoted : Bool)
  | document
deriving DecidableEq

def WordPlace.quoted : WordPlace → Bool
  | bare | braces false => false
  | quotes | braces true | document => true

mutual

/-- Reads what follows a dollar sign. -/
def dollar? (quoted : Bool) : Nat → List Char → Option (WordPart × List Char)
  | 0, _ => none
  | n + 1, s =>
      match s with
      | '(' :: '(' :: rest => do
          let (inner, rest) ← untilClose? (rest.length + 1) false 0 rest
          match rest with
          | ')' :: rest => do
              let (expr, _) ← word? .quotes n (inner ++ ['"'])
              return (.arithmetic quoted expr, rest)
          | _ => do
              let (script, rest) ← untilClose? s.length false 0 (s.drop 1)
              return (.output quoted script, rest)
      | '(' :: rest => do
          let (script, rest) ← untilClose? (rest.length + 1) false 0 rest
          return (.output quoted script, rest)
      | '\x7b' :: '#' :: '\x7d' :: rest => return (.param quoted ['#'], rest)
      | '\x7b' :: '#' :: rest => do
          let (name, rest) ← paramName? rest
          match rest with
          | '\x7d' :: rest => return (.length name, rest)
          | _ => none
      | '\x7b' :: rest => do
          let (name, rest) ← match rest with
            | c :: _ => if isDigit c then some (rest.span isDigit) else paramName? rest
            | [] => none
          match rest with
          | '\x7d' :: rest => return (.param quoted name, rest)
          | _ => do
              let (op, emptyToo, rest) ← paramOp? rest
              let (word, rest) ← word? (.braces quoted) n rest
              return (.paramOp quoted name op emptyToo word, rest)
      | s =>
          match paramName? s with
          | some (name, rest) => some (.param quoted name, rest)
          | none => some (.text quoted ['$'], s)

/-- Reads the parts of a word, up to the end that its place sets. -/
def word? (place : WordPlace) : Nat → List Char → Option (Word × List Char)
  | 0, _ => none
  | n + 1, s =>
      let quoted := place.quoted
      let onwards (part : WordPart) (rest : List Char) : Option (Word × List Char) := do
        let (parts, rest) ← word? place n rest
        return (part :: parts, rest)
      match s, place with
      | [], .bare | [], .document => some ([], [])
      | [], _ => none
      | '\\' :: '\n' :: rest, _ => word? place n rest
      | '\\' :: c :: rest, .quotes | '\\' :: c :: rest, .document =>
          if ['$', '\x60', '\\'].contains c || (c = '"' && place = .quotes) then
            onwards (.text true [c]) rest
          else onwards (.text true ['\\', c]) rest
      | '\\' :: c :: rest, _ => onwards (.text true [c]) rest
      | '$' :: rest, _ => do
          let (part, rest) ← dollar? quoted n rest
          onwards part rest
      | '\x60' :: rest, _ => do
          let (script, rest) ← untilBackQuote? rest
          onwards (.output quoted script) rest
      | '"' :: rest, .quotes => some ([], rest)
      | '"' :: rest, .document => onwards (.text true ['"']) rest
      | '"' :: rest, _ => do
          let (parts, rest) ← word? .quotes n rest
          let (more, rest) ← word? place n rest
          return ((if parts.isEmpty then [.text true []] else parts) ++ more, rest)
      | '\'' :: rest, .bare | '\'' :: rest, .braces false =>
          let inner := rest.takeWhile (· != '\'')
          match rest.drop inner.length with
          | _ :: rest => onwards (.text true inner) rest
          | [] => none
      | '\x7d' :: rest, .braces _ => some ([], rest)
      | c :: rest, .bare => if isMeta c then some ([], c :: rest) else onwards (.text false [c]) rest
      | c :: rest, _ => onwards (.text quoted [c]) rest

end

/-- Reads a word that does not begin with the end of one. -/
def nonemptyWord? (s : List Char) : Option (Word × List Char) := do
  let (w, rest) ← word? .bare (2 * s.length + 2) s
  if w.isEmpty then none else return (w, rest)

/-- The plain characters in front of a text, which can be a reserved word. -/
def plainWord (s : List Char) : String :=
  String.ofList
    (s.takeWhile fun c => !(isMeta c || ['\'', '"', '\\', '$', '\x60'].contains c))

/-- Passes over a given reserved word. -/
def reserved? (word : String) (s : List Char) : Option (List Char) :=
  if plainWord s = word then some (s.drop word.length) else none

/-! ## Redirections -/

/-- Splits lines off a text up to one that is the given word; blanks of the kind tab in front of
the lines are dropped if `tabs` says so. -/
def linesUntil (word : List Char) (tabs : Bool) : Nat → List Char → List Char × List Char
  | 0, s => ([], s)
  | _, [] => ([], [])
  | n + 1, s =>
      let line := s.takeWhile (· != '\n')
      let rest := s.drop (line.length + 1)
      let line := if tabs then line.dropWhile (· == '\t') else line
      if line = word then ([], rest)
      else
        let (more, rest) := linesUntil word tabs n rest
        (line ++ '\n' :: more, rest)

/-- The characters of a word and whether some of them are quoted, if it has only characters. -/
def plainText? : Word → Option (List Char × Bool)
  | [] => some ([], false)
  | .text quoted s :: parts => do
      let (t, more) ← plainText? parts
      return (s ++ t, quoted || more)
  | _ => none

/-- Reads a redirection from a text that begins on the next line. The lines of the text are taken
out, and the rest of the line goes before what follows them. -/
def document? (descriptor : Nat) (tabs : Bool) (s : List Char) : Option (Redirect × List Char) := do
  let (word, rest) ← nonemptyWord? (skipBlanks s)
  let (stop, quoted) ← plainText? word
  let line := rest.takeWhile (· != '\n')
  let below := rest.drop (line.length + 1)
  let (body, rest) := linesUntil stop tabs (below.length + 1) below
  let target ← if quoted then some [.text true body]
    else (word? .document (2 * body.length + 2) body).map (·.1)
  return (⟨descriptor, .document, target⟩, line ++ '\n' :: rest)

/-- Reads a redirection, if one begins here. -/
def redirect? (s : List Char) : Option (Redirect × List Char) := do
  let digits := s.takeWhile isDigit
  let descriptor (standard : Nat) : Nat := if digits.isEmpty then standard else digitsValue digits
  let (kind, standard, rest) ← match s.drop digits.length with
    | '<' :: '<' :: '-' :: rest => return ← document? (descriptor 0) true rest
    | '<' :: '<' :: rest => return ← document? (descriptor 0) false rest
    | '>' :: '>' :: rest => some (RedirectKind.append, 1, rest)
    | '>' :: '&' :: rest => some (.duplicate, 1, rest)
    | '<' :: '&' :: rest => some (.duplicate, 0, rest)
    | '>' :: '|' :: rest => some (.write, 1, rest)
    | '>' :: rest => some (.write, 1, rest)
    | '<' :: rest => some (.read, 0, rest)
    | _ => none
  let (target, rest) ← nonemptyWord? (skipBlanks rest)
  return (⟨descriptor standard, kind, target⟩, rest)

/-- Reads all redirections that begin here. -/
def redirects : Nat → List Char → List Redirect × List Char
  | 0, s => ([], s)
  | n + 1, s =>
      match redirect? (skipBlanks s) with
      | some (r, rest) =>
          let (rs, rest) := redirects n rest
          (r :: rs, rest)
      | none => ([], s)

/-- Splits an assignment into its name and the text of its value. -/
def assignment? (s : List Char) : Option (List Char × List Char) :=
  match s with
  | c :: _ =>
      if isNameStart c then
        match s.dropWhile isNameChar with
        | '=' :: value => some (s.takeWhile isNameChar, value)
        | _ => none
      else none
  | [] => none

/-! ## Commands -/

/-- The words that end a list of commands inside a longer command. -/
def closers : List String := ["then", "elif", "else", "fi", "do", "done", "esac", "\x7d"]

/-- The words that begin a longer command. -/
def openers : List String := ["\x7b", "if", "while", "until", "for", "case"]

/-- Whether a list of commands cannot go on here. -/
def atListEnd (s : List Char) : Bool :=
  match s with
  | [] | ')' :: _ | ';' :: ';' :: _ => true
  | s => closers.contains (plainWord s)

/-- What has been read of a simple command. -/
structure SimpleParts where
  assignments : List (List Char × Word) := []
  words : List Word := []
  redirects : List Redirect := []

/-- Reads the parts of a simple command. -/
def simpleParts? : Nat → SimpleParts → List Char → Option (SimpleParts × List Char)
  | 0, _, _ => none
  | n + 1, p, s =>
      let s := skipBlanks s
      match redirect? s with
      | some (r, rest) => simpleParts? n { p with redirects := p.redirects ++ [r] } rest
      | none =>
          match if p.words.isEmpty then assignment? s else none with
          | some (name, value) => do
              let (w, rest) ← word? .bare (2 * value.length + 2) value
              simpleParts? n { p with assignments := p.assignments ++ [(name, w)] } rest
          | none =>
              match s with
              | [] => some (p, s)
              | c :: _ =>
                  if isMeta c then some (p, s)
                  else do
                    let (w, rest) ← nonemptyWord? s
                    simpleParts? n { p with words := p.words ++ [w] } rest

/-- Passes over the signs that separate commands on a line. -/
def separator? (s : List Char) : Option (List Char) :=
  match skipBlanks s with
  | ';' :: ';' :: _ => none
  | ';' :: s | '\n' :: s => some s
  | '&' :: '&' :: _ => none
  | '&' :: s => some s
  | _ => none

/-- Reads the patterns of a clause, up to the parenthesis behind them. -/
def patterns? : Nat → List Char → Option (List Word × List Char)
  | 0, _ => none
  | n + 1, s => do
      let (w, rest) ← nonemptyWord? (skipBlanks s)
      match skipBlanks rest with
      | ')' :: rest => return ([w], rest)
      | '|' :: rest => do
          let (ws, rest) ← patterns? n rest
          return (w :: ws, rest)
      | _ => none

/-- Reads the words that a loop goes through, up to the end of their line. -/
def loopWords? : Nat → List Char → Option (List Word × List Char)
  | 0, _ => none
  | n + 1, s =>
      match separator? s with
      | some rest => some ([], rest)
      | none => do
          let (w, rest) ← nonemptyWord? (skipBlanks s)
          let (ws, rest) ← loopWords? n rest
          return (w :: ws, rest)

/-- The commands after another, as one command. -/
def Command.ofList : List Command → Command
  | [c] => c
  | cs => .sequence cs

mutual

/-- Reads commands up to the end of a list; `whole` is the script, by which lines are counted. -/
def list? (whole : Nat) : Nat → List Char → Option (List Command × List Char)
  | 0, _ => none
  | n + 1, s =>
      let s := skipLines (s.length + 1) s
      if atListEnd s then some ([], s)
      else do
        let (c, s) ← andOr? whole n s
        match separator? s with
        | some rest => do
            let (cs, rest) ← list? whole n rest
            return (c :: cs, rest)
        | none => return ([c], s)

/-- Reads pipelines that depend on the success of those before them. -/
def andOr? (whole : Nat) : Nat → List Char → Option (Command × List Char)
  | 0, _ => none
  | n + 1, s => do
      let (c, s) ← pipeline? whole n s
      andOrRest? whole n c s

def andOrRest? (whole : Nat) : Nat → Command → List Char → Option (Command × List Char)
  | 0, _, _ => none
  | n + 1, c, s =>
      match skipBlanks s with
      | '&' :: '&' :: rest => do
          let (d, rest) ← pipeline? whole n (skipLines (rest.length + 1) rest)
          andOrRest? whole n (.both c d) rest
      | '|' :: '|' :: rest => do
          let (d, rest) ← pipeline? whole n (skipLines (rest.length + 1) rest)
          andOrRest? whole n (.either c d) rest
      | s => some (c, s)

def pipeline? (whole : Nat) : Nat → List Char → Option (Command × List Char)
  | 0, _ => none
  | n + 1, s =>
      let s := skipBlanks s
      match reserved? "!" s with
      | some rest => do
          let (c, rest) ← pipeline? whole n rest
          return (.negated c, rest)
      | none => do
          let (cs, rest) ← pipes? whole n s
          match cs with
          | [c] => return (c, rest)
          | cs => return (.pipeline cs, rest)

def pipes? (whole : Nat) : Nat → List Char → Option (List Command × List Char)
  | 0, _ => none
  | n + 1, s => do
      let (c, s) ← command? whole n s
      match skipBlanks s with
      | '|' :: '|' :: _ => return ([c], s)
      | '|' :: rest => do
          let (cs, rest) ← pipes? whole n (skipLines (rest.length + 1) rest)
          return (c :: cs, rest)
      | s => return ([c], s)

/-- Reads one command with its redirections. -/
def command? (whole : Nat) : Nat → List Char → Option (Command × List Char)
  | 0, _ => none
  | n + 1, s =>
      let s := skipBlanks s
      match compound? whole n s with
      | some (c, rest) =>
          match redirects (rest.length + 1) rest with
          | ([], _) => some (c, rest)
          | (rs, rest) => some (.redirected c rs, rest)
      | none =>
          if atListEnd s || openers.contains (plainWord s) || s.head? = some '(' then none
          else
            let name := s.takeWhile isNameChar
            match name, skipBlanks (s.drop name.length) with
            | _ :: _, '(' :: rest =>
                match skipBlanks rest with
                | ')' :: rest => do
                    let (body, rest) ← command? whole n (skipLines (rest.length + 1) rest)
                    return (.define name body, rest)
                | _ => none
            | _, _ => do
                let line := whole - s.count '\n' + 1
                let (p, rest) ← simpleParts? (s.length + 1) {} s
                if p.assignments.isEmpty && p.words.isEmpty && p.redirects.isEmpty then none
                else return (.simple line p.assignments p.words p.redirects, rest)

/-- Reads a command that begins with a reserved word or a parenthesis. -/
def compound? (whole : Nat) : Nat → List Char → Option (Command × List Char)
  | 0, _ => none
  | n + 1, s =>
      match s, plainWord s with
      | '(' :: rest, _ => do
          let (cs, rest) ← list? whole n rest
          match rest with
          | ')' :: rest => return (.subshell (.ofList cs), rest)
          | _ => none
      | _, "\x7b" => do
          let (cs, rest) ← list? whole n (s.drop 1)
          return (.sequence cs, ← reserved? "\x7d" rest)
      | _, "if" => conditional? whole n (s.drop 2)
      | _, "while" => do
          let (condition, body, rest) ← loopParts? whole n (s.drop 5)
          return (.loop true condition body, rest)
      | _, "until" => do
          let (condition, body, rest) ← loopParts? whole n (s.drop 5)
          return (.loop false condition body, rest)
      | _, "for" => do
          let s := skipBlanks (s.drop 3)
          let name := s.takeWhile isNameChar
          if name.isEmpty then none
          else
            let s := skipLines (s.length + 1) (s.drop name.length)
            let (words, s) ← match reserved? "in" s with
              | some rest => (loopWords? (rest.length + 1) rest).map fun (ws, s) => (some ws, s)
              | none => some (none, (separator? s).getD s)
            let (body, rest) ← doGroup? whole n s
            return (.forEach name words body, rest)
      | _, "case" => do
          let (w, rest) ← nonemptyWord? (skipBlanks (s.drop 4))
          let rest ← reserved? "in" (skipLines (rest.length + 1) rest)
          let (clauses, rest) ← clauses? whole n rest
          return (.choose w clauses, rest)
      | _, _ => none

/-- Reads a condition with its branches, after the word that opens it. -/
def conditional? (whole : Nat) : Nat → List Char → Option (Command × List Char)
  | 0, _ => none
  | n + 1, s => do
      let (condition, s) ← list? whole n s
      let (body, s) ← list? whole n (← reserved? "then" s)
      let (condition, body) := (Command.ofList condition, Command.ofList body)
      match plainWord s with
      | "fi" => return (.ifThen condition body .skip, s.drop 2)
      | "elif" => do
          let (rest, s) ← conditional? whole n (s.drop 4)
          return (.ifThen condition body rest, s)
      | "else" => do
          let (otherwise, s) ← list? whole n (s.drop 4)
          return (.ifThen condition body (.ofList otherwise), ← reserved? "fi" s)
      | _ => none

def loopParts? (whole : Nat) : Nat → List Char → Option (Command × Command × List Char)
  | 0, _ => none
  | n + 1, s => do
      let (condition, s) ← list? whole n s
      let (body, s) ← doGroup? whole n s
      return (.ofList condition, body, s)

/-- Reads the body of a loop. -/
def doGroup? (whole : Nat) : Nat → List Char → Option (Command × List Char)
  | 0, _ => none
  | n + 1, s => do
      let (cs, s) ← list? whole n (← reserved? "do" (skipLines (s.length + 1) s))
      return (.ofList cs, ← reserved? "done" s)

/-- Reads the clauses of a choice, with the word that closes it. -/
def clauses? (whole : Nat) : Nat → List Char → Option (List (List Word × Command) × List Char)
  | 0, _ => none
  | n + 1, s => do
      let s := skipLines (s.length + 1) s
      match reserved? "esac" s with
      | some rest => return ([], rest)
      | none => do
          let s := match s with
            | '(' :: rest => rest
            | s => s
          let (ps, s) ← patterns? (s.length + 1) s
          let (cs, s) ← list? whole n s
          match s with
          | ';' :: ';' :: rest => do
              let (clauses, rest) ← clauses? whole n rest
              return ((ps, .ofList cs) :: clauses, rest)
          | s => return ([(ps, .ofList cs)], ← reserved? "esac" s)

end

/-- Reads the commands up to the end of a line. -/
def commandLine? (whole : Nat) : Nat → List Char → Option (List Command × List Char)
  | 0, _ => none
  | n + 1, s => do
      let (c, rest) ← andOr? whole (8 * s.length + 8) s
      match skipBlanks rest with
      | [] => return ([c], [])
      | '\n' :: rest => return ([c], rest)
      | rest => do
          let rest := skipBlanks (← separator? rest)
          match rest with
          | [] => return ([c], [])
          | '\n' :: rest => return ([c], rest)
          | rest => do
              let (cs, rest) ← commandLine? whole n rest
              return (c :: cs, rest)

/-- Reads the next line of commands of a script in which lines end `whole` times; none of them are
left at the end of the script. -/
def nextLine? (whole : Nat) (s : List Char) : Option (Option (Command × List Char)) :=
  match skipLines (s.length + 1) s with
  | [] => some none
  | s => do
      let (cs, rest) ← commandLine? whole (s.length + 1) s
      return some (.ofList cs, rest)

end LintDesk.Shell
