import LintDesk.Machine.Escape

/-! # Formatted output

A format is written with its conversions replaced by the arguments, and again as long as arguments
are left that it takes. There are conversions of texts and whole numbers.
-/

namespace LintDesk.Printf

open LintDesk.Text

/-- A conversion: its flags, width, precision and letter. -/
structure Conversion where
  flags : List Char
  width : Nat
  precision : Option Nat
  letter : Char

/-- The number at the front of a text, and what follows it. A sign may stand in front, and `0x` or
`0` say that it is to the base sixteen or eight. -/
def leadingNumber (s : List Char) : Option Int × List Char :=
  let s := s.dropWhile fun c => c == ' ' || c == '\t' || c == '\n'
  let (negative, digits) := match s with
    | '-' :: s => (true, s)
    | '+' :: s => (false, s)
    | s => (false, s)
  let read (base : Nat) (isDigit : Char → Bool) (s : List Char) : Option Int × List Char :=
    ((numeral? base (s.takeWhile isDigit)).map fun n => if negative then -(n : Int) else n,
      s.dropWhile isDigit)
  match digits with
  | '0' :: 'x' :: s | '0' :: 'X' :: s => read 16 Escape.isHexDigit s
  | '0' :: _ => read 8 Escape.isOctalDigit digits
  | _ => read 10 isDigit digits

/-- The number that an argument stands for, cut to the range from `low` to `high`, and what is
wrong with it. The code of a character is written with a quote in front. -/
def argument (low high : Int) (s : List Char) : Int × Option String :=
  match s with
  | [] => (0, none)
  | '"' :: c :: _ | '\'' :: c :: _ => (c.toNat, none)
  | s =>
      match leadingNumber s with
      | (none, _) => (0, some "expected numeric value")
      | (some n, rest) =>
          let fault := if !rest.isEmpty then some "not completely converted"
            else if n < low || high < n then some "Numerical result out of range" else none
          (max low (min high n), fault)

/-- What has been made of a format. -/
structure Output where
  bytes : Bytes := []
  complaints : List (List Char) := []
  status : Nat := 0
  /-- Nothing more is to be written. -/
  ended : Bool := false

namespace Output

def prepend (bytes : Bytes) (o : Output) : Output := { o with bytes := bytes ++ o.bytes }

/-- An output before which an argument has been found faulty. -/
def withFault (o : Output) (arg : List Char) (fault : Option String) : Output :=
  match fault with
  | none => o
  | some text =>
      { o with
        complaints := (arg ++ ": ".toList ++ text.toList) :: o.complaints
        status := max 1 o.status }

def fault (message : List Char) : Output := { complaints := [message], status := 2, ended := true }

end Output

namespace Conversion

def has (c : Conversion) (flag : Char) : Bool := c.flags.contains flag

/-- Fills a text up to the width. -/
def pad (c : Conversion) (bytes : Bytes) : Bytes :=
  let missing := List.replicate (c.width - bytes.length) 32
  if c.has '-' then bytes ++ missing else missing ++ bytes

/-- Writes a number: its sign or mark, and its digits, which are filled up with zeros to the
precision, or to the width if a flag says so. -/
def number (c : Conversion) (mark digits : List Char) : Bytes :=
  let zeros (n : Nat) : List Char := List.replicate (n - digits.length) '0'
  let digits := match c.precision with
    | some p => zeros p ++ digits
    | none => if c.has '0' && !c.has '-' then zeros (c.width - mark.length) ++ digits else digits
  c.pad (utf8 (mark ++ digits))

def signMark (c : Conversion) (n : Int) : List Char :=
  if n < 0 then ['-'] else if c.has '+' then ['+'] else if c.has ' ' then [' '] else []

/-- Writes a number without sign to a base. -/
def unsigned (c : Conversion) (base : Nat) (mark : List Char) (n : Int) : Bytes :=
  let n := (n % Nat.pow 2 64).toNat
  c.number (if c.has '#' && n != 0 then mark else []) (Nat.toDigits base n)

/-- What a conversion writes for an argument, with what is wrong with the argument, and whether
that is to be the end; none for a letter without meaning. -/
def outcome? (c : Conversion) (arg : List Char) : Option (Bytes × Option String × Bool) :=
  let wide := argument (-Nat.pow 2 63) (Nat.pow 2 64 - 1) arg
  let unsigned (base : Nat) (mark : List Char) := some (c.unsigned base mark wide.1, wide.2, false)
  match c.letter with
  | 's' =>
      let bytes := utf8 arg
      some (c.pad ((c.precision.map bytes.take).getD bytes), none, false)
  | 'b' =>
      let u := Escape.bytes false arg
      some (c.pad u.bytes, none, u.ended)
  | 'c' => some (c.pad (if arg.isEmpty then [0] else (utf8 arg).take 1), none, false)
  | 'd' | 'i' =>
      let (n, fault) := argument (-Nat.pow 2 63) (Nat.pow 2 63 - 1) arg
      some (c.number (c.signMark n) (decimal n.natAbs), fault, false)
  | 'u' => unsigned 10 []
  | 'o' => unsigned 8 ['0']
  | 'x' => unsigned 16 ['0', 'x']
  | 'X' => (unsigned 16 ['0', 'x']).map fun (bytes, rest) =>
      (bytes.map fun b => if 97 ≤ b && b ≤ 122 then b - 32 else b, rest)
  | _ => none

end Conversion

/-- Reads digits, or a star that stands for the next argument. -/
def size (s : List Char) (args : List (List Char)) : Nat × List Char × List (List Char) :=
  match s with
  | '*' :: s => ((argument 0 (Nat.pow 2 31) (args.headD [])).1.toNat, s, args.drop 1)
  | s => (digitsValue (s.takeWhile isDigit), s.dropWhile isDigit, args)

/-- Reads a conversion after its percent sign. -/
def conversion? (s : List Char) (args : List (List Char)) :
    Option (Conversion × List Char × List (List Char)) :=
  let flags := s.takeWhile ['-', '0', '+', ' ', '#'].contains
  let (width, s, args) := size (s.drop flags.length) args
  let (precision, s, args) := match s with
    | '.' :: s =>
        let (p, s, args) := size s args
        (some p, s, args)
    | s => (none, s, args)
  match s with
  | letter :: s => some (⟨flags, width, precision, letter⟩, s, args)
  | [] => none

/-- Writes a format once, and gives the arguments that are left. -/
def once : Nat → List Char → List (List Char) → Output × List (List Char)
  | 0, _, args | _, [], args => ({}, args)
  | n + 1, '%' :: '%' :: s, args =>
      let (o, args) := once n s args
      (o.prepend [37], args)
  | n + 1, '%' :: s, args =>
      match conversion? s args with
      | none => (.fault "missing format character".toList, args)
      | some (c, rest, args) =>
          let arg := args.headD []
          match c.outcome? arg with
          | none =>
              let text := '%' :: s.take (s.length - rest.length)
              (.fault (text ++ ": invalid directive".toList), args)
          | some (bytes, fault, ended) =>
              let (o, args) := if ended then ({ ended := true }, args.drop 1)
                else once n rest (args.drop 1)
              ((o.withFault arg fault).prepend bytes, args)
  | n + 1, '\\' :: c :: s, args =>
      let (here, s) : Bytes × List Char := match Escape.letter? c with
        | some b => ([b], s)
        | none =>
            if Escape.isOctalDigit c then
              let (b, s) := Escape.octal 3 (c :: s)
              ([b], s)
            else (92 :: utf8 [c], s)
      let (o, args) := once n s args
      (o.prepend here, args)
  | n + 1, c :: s, args =>
      let (o, args) := once n s args
      (o.prepend (utf8 [c]), args)

/-- Writes a format as often as there are arguments for it, `n` times at most. -/
def repeated (format : List Char) : Nat → List (List Char) → Output
  | 0, _ => {}
  | n + 1, args =>
      let (o, rest) := once (format.length + 1) format args
      if o.ended || rest.isEmpty || rest.length = args.length then o
      else
        let more := repeated format n rest
        { more with
          bytes := o.bytes ++ more.bytes
          complaints := o.complaints ++ more.complaints
          status := max o.status more.status }

/-- Writes the first text as a format for the others. -/
def write : List (List Char) → Effect
  | [] => .fault 2 "usage: printf format [arg ...]".toList
  | format :: args =>
      let o := repeated format (args.length + 1) args
      { out := o.bytes, complaints := o.complaints, status := o.status }

/-- Writes as the arguments say; there are no options. -/
def run : List (List Char) → Effect
  | ['-', '-'] :: args => write args
  | ('-' :: c :: _) :: _ => .fault 2 ("Illegal option -".toList ++ [c])
  | args => write args

end LintDesk.Printf
