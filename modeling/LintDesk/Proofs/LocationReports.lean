import LintDesk.Proofs.Printed

/-! # Reports that begin with a location

PHP CodeSniffer, PHP Mess Detector and PHP Copy/Paste Detector print an issue behind its place,
`path:line` and more. A path is any text, and it may have a colon in it, but no colon that a digit
follows. So the rules, which match it lazily, stop at its end. They do not stop before, and what is
said behind the place cannot move it, even if it looks like a place.
-/

namespace LintDesk

open LintDesk.Text LintDesk.Unicode LintDesk.Regex LintDesk.Regex.Cursor

/-! ## Places -/

/-- A path in which no colon is directly followed by a decimal digit. -/
structure LocatedPath where
  text : List Char
  nonempty : text ≠ []
  inLine : '\n' ∉ text
  noLine : ∀ d, digits.mem d = true → ¬[':', d] <:+: text

namespace LocatedPath

/-- The expressions for a path and a line, and those for what comes behind them. -/
def nodes (ns : List Node) : List Node :=
  .group 1 (some "file") (.rep (.set lineChars) 1 none false) :: (letters ":".toList ++
    .group 2 (some "line") (.rep (.set digits) 1 none true) :: ns)

variable {ns : List Node} {p u v : List Char} {gs : List (Nat × List Char)}

/-- Nothing but the whole path is followed by a colon and a digit. -/
theorem refuses_shorter (path : LocatedPath) {s u' v' : List Char}
    (heq : u' ++ v' = path.text ++ (":".toList ++ s)) (hshort : u'.length < path.text.length) :
    ¬Accepts (letters ":".toList ++
      .group 2 (some "line") (.rep (.set digits) 1 none true) :: ns) p v' := by
  intro h
  obtain ⟨w, rfl, hline⟩ := accepts_letters_iff.mp h
  rw [accepts_group_iff] at hline
  obtain ⟨ds, w, rfl, hds, hleast, -⟩ := accepts_repeated_iff.mp hline
  obtain ⟨d, ds, rfl⟩ := List.exists_cons_of_length_pos hleast
  have hd : digits.mem d = true := hds d List.mem_cons_self
  obtain ⟨y, hy⟩ : u' <+: path.text :=
    List.prefix_of_prefix_length_le ⟨_, heq⟩ (List.prefix_append _ _) (Nat.le_of_lt hshort)
  have hrest : ":".toList ++ ((d :: ds) ++ w) = y ++ (":".toList ++ s) := by
    rw [← hy, List.append_assoc] at heq
    exact List.append_cancel_left heq
  -- the colon and the digit are both in the path, or the digit is the colon behind it
  match y, hy, hrest with
  | [], hy, _ => simp [← hy] at hshort
  | [c], _, hrest =>
    have hcolon : d = ':' := by
      have := congrArg (·[1]?) hrest
      simpa using this
    rw [hcolon] at hd
    exact absurd hd (by decide)
  | c :: c' :: y, hy, hrest =>
    obtain ⟨rfl, rfl⟩ : ':' = c ∧ d = c' := by
      simp at hrest
      exact ⟨hrest.1, hrest.2.1⟩
    exact path.noLine d hd ⟨u', y, by simpa using hy⟩

theorem takes_nodes (path : LocatedPath) (n : Numeral)
    (hu : ∀ c ∈ (u ++ v).head?, digits.mem c = false) (h : ∀ q, Takes ns q u v gs) :
    Takes (nodes ns) p (path.text ++ (":".toList ++ (n.digits ++ u))) v
      (gs ++ [(2, n.digits), (1, path.text)]) := by
  have hline : ∀ q, Takes [.group 2 (some "line") (.rep (.set digits) 1 none true)]
      q n.digits (u ++ v) [(2, n.digits)] :=
    fun q => (takes_all n.mem_digits n.one_le_length hu).group 2 (some "line")
  have hcolon := (takes_letters (p ++ path.text) ":".toList _).append ((hline _).cons (h _))
  have hpath := Takes.kept 1 (some "file") false (mem_lineChars_of_inLine path.inLine)
    (List.length_pos_iff.mpr path.nonempty) (fun u' v' heq _ hshort => ?_) hcolon
  · simpa [nodes] using hpath
  · refine path.refuses_shorter (s := n.digits ++ u ++ v) (by simpa using heq) ?_
    simpa [Prefers] using hshort

end LocatedPath

/-! ## Messages that end a line -/

/-- The expressions for a message that goes on to the end of the line. -/
def Message.nodes (i : Nat) : List Node :=
  [.group i (some "message") (.rep (.set lineChars) 1 none true), .look .textEnd]

theorem Message.takes_nodes (i : Nat) {s : List Char} (hne : s ≠ []) (hs : '\n' ∉ s)
    (p : List Char) : Takes (nodes i) p s [] [(i, s)] := by
  have hmessage : Takes [.group i (some "message") (.rep (.set lineChars) 1 none true)]
      p s [] [(i, s)] :=
    (takes_all (mem_lineChars_of_inLine hs)
      (List.length_pos_iff.mpr hne) (by simp)).group i (some "message")
  simpa [nodes] using hmessage.cons (u := []) (takes_look (textEnd_holds_between.mpr rfl))

/-! ## PHP CodeSniffer -/

/-- An issue whose severity is printed between its place and its message. -/
structure SnifferReport where
  path : LocatedPath
  line : Numeral
  column : Numeral
  severity : Severity
  message : Message

namespace SnifferReport

def print (r : SnifferReport) : List Char :=
  r.path.text ++ ":".toList ++ r.line.digits ++ ":".toList ++ r.column.digits ++ ": ".toList ++
    r.severity.name.toList ++ " - ".toList ++ r.message.text

def diagnostic (r : SnifferReport) : Diagnostic :=
  ⟨String.ofList (trimChars r.message.text), ⟨r.line.coordinate, r.column.coordinate⟩, r.severity⟩

def afterSeverity : List Node := letters " - ".toList ++ Message.nodes 5

def afterColumn : List Node :=
  letters ": ".toList ++ .group 4 (some "severity") (words ["error".toList, "warning".toList]) ::
    afterSeverity

def afterLine : List Node :=
  letters ":".toList ++ .group 3 (some "column") (.rep (.set digits) 1 none true) :: afterColumn

/-- The rule that the output of PHP CodeSniffer is read by. -/
def compiled : CompiledRule where
  regex := ⟨.ofList (.look .textStart :: LocatedPath.nodes afterLine)⟩
  message := OutputRule.defaultMessage
  severity := none

theorem compile_phpcs : Analyzer.phpcs.rules.map (fun r => Regex.compile? r.pattern) =
    [some compiled.regex] := by
  decide +kernel

theorem takes_severity (s : Severity) (p v : List Char) :
    Takes [words ["error".toList, "warning".toList]] p s.name.toList v [] := by
  cases s with
  | error => exact takes_words [] nofun
  | warning => exact takes_words ["error".toList] (by simp)

theorem captures?_print (r : SnifferReport) : compiled.regex.captures? r.print =
    some ⟨[(0, r.print), (5, r.message.text), (4, r.severity.name.toList), (3, r.column.digits),
      (2, r.line.digits), (1, r.path.text)], compiled.regex.names⟩ := by
  have hmessage : ∀ q, Takes afterSeverity q (" - ".toList ++ r.message.text) []
      [(5, r.message.text)] := fun q =>
    (takes_letters q " - ".toList _).append
      (Message.takes_nodes 5 r.message.text_ne_nil r.message.inLine _)
  have hseverity : ∀ q, Takes afterColumn q
      (": ".toList ++ (r.severity.name.toList ++ (" - ".toList ++ r.message.text))) []
      [(5, r.message.text), (4, r.severity.name.toList)] := fun q =>
    (takes_letters q ": ".toList _).append
      (((takes_severity r.severity _ _).group 4 (some "severity")).cons (hmessage _))
  have hcolumn : ∀ q, Takes afterLine q (":".toList ++ (r.column.digits ++
      (": ".toList ++ (r.severity.name.toList ++ (" - ".toList ++ r.message.text))))) []
      [(5, r.message.text), (4, r.severity.name.toList), (3, r.column.digits)] := fun q =>
    (takes_letters q ":".toList _).append
      (((takes_all r.column.mem_digits r.column.one_le_length (by simp; decide)).group 3
        (some "column")).cons (hseverity _))
  have hline := r.path.takes_nodes (p := []) r.line (by simp; decide) hcolumn
  have h : compiled.regex.captures? (_ ++ []) = some ⟨_, compiled.regex.names⟩ :=
    captures?_of_takes hline
  simpa [print] using h

theorem diagnostic?_print (r : SnifferReport) :
    (compiled.regex.captures? r.print).bind
        (ReportReader.diagnostic? compiled) =
      some r.diagnostic := by
  have hnames : compiled.regex.names =
      [("file", 1), ("line", 2), ("column", 3), ("severity", 4), ("message", 5)] := by
    decide +kernel
  rw [captures?_print, hnames, Option.bind_some, diagnostic]
  generalize hc : Captures.mk [(0, r.print), (5, r.message.text), (4, r.severity.name.toList),
    (3, r.column.digits), (2, r.line.digits), (1, r.path.text)] _ = c
  have hline : c.name? "line" = some r.line.digits := by
    subst hc; simp [Captures.name?, Captures.index?]
  have hcolumn : c.name? "column" = some r.column.digits := by
    subst hc; simp [Captures.name?, Captures.index?]
  have hseverity : c.name? "severity" = some r.severity.name.toList := by
    subst hc; simp [Captures.name?, Captures.index?]
  have hmessage : c.expand compiled.message = r.message.text := by
    refine c.expand_defaultMessage.trans ?_
    subst hc; simp [Captures.name?, Captures.index?]
  have hofToken : Severity.ofToken r.severity.name = r.severity := by
    cases r.severity <;> decide +kernel
  rw [ReportReader.diagnostic?_eq (some r.column) hline hcolumn
    (by simpa [hmessage] using r.message.trimChars_ne_nil)]
  simp [hmessage, hseverity, hofToken]

theorem diagnostic?_line (r : SnifferReport) :
    (compiled.regex.captures? (chomp r.print)).bind
        (ReportReader.diagnostic? compiled) =
      some r.diagnostic := by
  have hchomp : chomp r.print = print { r with message := r.message.chomped } :=
    chomp_append r.message.text_ne_nil _
  have hdiagnostic : diagnostic { r with message := r.message.chomped } = r.diagnostic := by
    simp only [diagnostic, r.message.trimChars_chomped]
  rw [hchomp, diagnostic?_print, hdiagnostic]

theorem print_inLine (r : SnifferReport) : '\n' ∉ r.print := by
  have hseverity : '\n' ∉ r.severity.name.toList := by cases r.severity <;> decide +kernel
  have hline : '\n' ∉ r.line.digits := r.line.notMem (by decide)
  have hcolumn : '\n' ∉ r.column.digits := r.column.notMem (by decide)
  simp [print, hseverity, hline, hcolumn, r.path.inLine, r.message.inLine]

end SnifferReport

/-! ## PHP Mess Detector -/

/-- An issue whose message stands behind a gap of one blank or more. -/
structure MessReport where
  path : LocatedPath
  line : Numeral
  gap : List Char
  gap_ne_nil : gap ≠ []
  gap_isBlank : ∀ c ∈ gap, isBlank c = true
  gap_inLine : '\n' ∉ gap
  message : Message

namespace MessReport

def print (r : MessReport) : List Char :=
  r.path.text ++ ":".toList ++ r.line.digits ++ r.gap ++ r.message.text

def diagnostic (r : MessReport) : Diagnostic :=
  ⟨String.ofList (trimChars r.message.text), ⟨r.line.coordinate, 0⟩, .warning⟩

def afterLine : List Node := .rep (.set blanks) 1 none true :: Message.nodes 3

/-- The rule that the output of PHP Mess Detector is read by. -/
def compiled : CompiledRule where
  regex := ⟨.ofList (.look .textStart :: LocatedPath.nodes afterLine)⟩
  message := OutputRule.defaultMessage
  severity := some .warning

theorem compile_phpmd : Analyzer.phpmd.rules.map (fun r => Regex.compile? r.pattern) =
    [some compiled.regex] := by
  decide +kernel

theorem captures?_print (r : MessReport) : compiled.regex.captures? r.print =
    some ⟨[(0, r.print), (3, r.message.body), (2, r.line.digits), (1, r.path.text)],
      compiled.regex.names⟩ := by
  have hblank : ∀ c ∈ r.gap ++ r.message.lead, blanks.mem c = true := by
    intro c hc
    rcases List.mem_append.mp hc with hc | hc
    · exact mem_blanks_iff.mpr (r.gap_isBlank c hc)
    · exact r.message.mem_blanks_of_mem_lead c hc
  have hlength : 1 ≤ (r.gap ++ r.message.lead).length := by
    have := List.length_pos_iff.mpr r.gap_ne_nil
    rw [List.length_append]
    omega
  have hmessage : ∀ q, Takes afterLine q (r.gap ++ r.message.lead ++ r.message.body) []
      [(3, r.message.body)] := fun q =>
    (takes_all hblank hlength (r.message.notMem_blanks_of_mem_head? _)).cons
      (Message.takes_nodes 3 r.message.body_ne_nil r.message.body_inLine _)
  have hgap : ∀ c ∈ (r.gap ++ r.message.lead ++ r.message.body ++ []).head?,
      digits.mem c = false := by
    obtain ⟨b, t, hb⟩ := List.exists_cons_of_ne_nil r.gap_ne_nil
    have hblank : isBlank b = true := r.gap_isBlank b (hb ▸ List.mem_cons_self)
    simpa [hb] using notMem_digits_of_isBlank hblank
  have hline := r.path.takes_nodes (p := []) r.line hgap hmessage
  have h : compiled.regex.captures? (_ ++ []) = some ⟨_, compiled.regex.names⟩ :=
    captures?_of_takes hline
  simpa [print, ← r.message.lead_append_body] using h

theorem diagnostic?_print (r : MessReport) :
    (compiled.regex.captures? r.print).bind
        (ReportReader.diagnostic? compiled) =
      some r.diagnostic := by
  have hnames : compiled.regex.names = [("file", 1), ("line", 2), ("message", 3)] := by
    decide +kernel
  rw [captures?_print, hnames, Option.bind_some, diagnostic]
  generalize hc : Captures.mk [(0, r.print), (3, r.message.body), (2, r.line.digits),
    (1, r.path.text)] _ = c
  have hline : c.name? "line" = some r.line.digits := by
    subst hc; simp [Captures.name?, Captures.index?]
  have hcolumn : c.name? "column" = none := by
    subst hc; simp [Captures.name?]
  have hseverity : c.name? "severity" = none := by
    subst hc; simp [Captures.name?]
  have hwarning : compiled.severity = some .warning := rfl
  have hmessage : c.expand compiled.message = r.message.body := by
    refine c.expand_defaultMessage.trans ?_
    subst hc; simp [Captures.name?, Captures.index?]
  rw [ReportReader.diagnostic?_eq none hline hcolumn
    (by simpa [hmessage, r.message.trimChars_body] using r.message.trimChars_ne_nil)]
  simp [hmessage, hseverity, hwarning, r.message.trimChars_body]

theorem diagnostic?_line (r : MessReport) :
    (compiled.regex.captures? (chomp r.print)).bind
        (ReportReader.diagnostic? compiled) =
      some r.diagnostic := by
  have hchomp : chomp r.print = print { r with message := r.message.chomped } :=
    chomp_append r.message.text_ne_nil _
  have hdiagnostic : diagnostic { r with message := r.message.chomped } = r.diagnostic := by
    simp only [diagnostic, r.message.trimChars_chomped]
  rw [hchomp, diagnostic?_print, hdiagnostic]

theorem print_inLine (r : MessReport) : '\n' ∉ r.print := by
  have hline : '\n' ∉ r.line.digits := r.line.notMem (by decide)
  simp [print, hline, r.path.inLine, r.gap_inLine, r.message.inLine]

end MessReport

/-! ## PHP Copy/Paste Detector -/

/-- One of the places where code is repeated, up to the last of its lines, and what is said behind
it. There may be a dash in front of the path, and the path does not look like one itself. -/
structure CloneReport where
  lead : List Char
  lead_ne_nil : lead ≠ []
  lead_isBlank : ∀ c ∈ lead, isBlank c = true
  lead_inLine : '\n' ∉ lead
  dash : Bool
  path : LocatedPath
  path_notBlank : ∀ c ∈ path.text.head?, isBlank c = false
  path_noDash : ∀ c, isBlank c = true → ¬['-', c] <+: path.text
  first : Numeral
  last : Numeral
  rest : List Char
  rest_notDigit : ∀ c ∈ rest.head?, digits.mem c = false
  rest_inLine : '\n' ∉ rest

namespace CloneReport

def bullet (r : CloneReport) : String := if r.dash then "- " else ""

def print (r : CloneReport) : List Char :=
  r.lead ++ r.bullet.toList ++ r.path.text ++ ":".toList ++ r.first.digits ++ "-".toList ++
    r.last.digits ++ r.rest

/-- The message, with both numbers as they are written. -/
def message (r : CloneReport) : List Char :=
  "Duplicated code on lines ".toList ++ r.first.digits ++ "-".toList ++ r.last.digits

def diagnostic (r : CloneReport) : Diagnostic :=
  ⟨String.ofList r.message, ⟨r.first.coordinate, 0⟩, .warning⟩

def afterLine : List Node :=
  letters "-".toList ++ [.group 3 (some "end") (.rep (.set digits) 1 none true)]

def bulletNodes : List Node := letters "-".toList ++ [.rep (.set blanks) 1 none true]

def afterLead : List Node :=
  .rep (.ofList bulletNodes) 0 (some 1) true :: LocatedPath.nodes afterLine

/-- The rule that the output of PHP Copy/Paste Detector is read by. -/
def compiled : CompiledRule where
  regex := ⟨.ofList (.look .textStart :: .rep (.set blanks) 1 none true :: afterLead)⟩
  message := "Duplicated code on lines $\x7bline\x7d-$\x7bend\x7d"
  severity := some .warning

theorem compile_phpcpd : Analyzer.phpcpd.rules.map (fun r => Regex.compile? r.pattern) =
    [some compiled.regex] := by
  decide +kernel

variable (r : CloneReport)

/-- What stands behind the bullet, up to the rest. -/
def place : List Char :=
  r.path.text ++ (":".toList ++ (r.first.digits ++ ("-".toList ++ r.last.digits)))

theorem head?_place (s : List Char) : (r.place ++ s).head? = r.path.text.head? := by
  rw [place, List.append_assoc, List.head?_append_of_ne_nil _ r.path.nonempty]

theorem notMem_blanks_of_mem_head? (s : List Char) :
    ∀ c ∈ (r.place ++ s).head?, blanks.mem c = false := by
  rw [head?_place]
  intro c hc
  rw [← Bool.not_eq_true, mem_blanks_iff, r.path_notBlank c hc]
  exact Bool.false_ne_true

theorem takes_place (p : List Char) : Takes (LocatedPath.nodes afterLine) p r.place r.rest
    [(3, r.last.digits), (2, r.first.digits), (1, r.path.text)] := by
  have hlast : ∀ q, Takes [.group 3 (some "end") (.rep (.set digits) 1 none true)]
      q r.last.digits r.rest [(3, r.last.digits)] := fun q =>
    (takes_all r.last.mem_digits r.last.one_le_length r.rest_notDigit).group 3 (some "end")
  exact r.path.takes_nodes r.first (by simp; decide) fun q =>
    (takes_letters q "-".toList _).append (hlast _)

/-- A path that begins with a dash is not taken for a bullet. -/
theorem refuses_bullet (p s : List Char) : ¬Accepts bulletNodes p (r.place ++ s) := by
  intro h
  obtain ⟨v, hv, hblanks⟩ := accepts_letters_iff.mp h
  obtain ⟨bs, w, rfl, hbs, hleast, -⟩ := accepts_repeated_iff.mp hblanks
  obtain ⟨b, bs, rfl⟩ := List.exists_cons_of_length_pos hleast
  have hb : isBlank b = true := mem_blanks_iff.mp (hbs b List.mem_cons_self)
  -- the blank behind the dash is in the path, or it is the colon behind the path
  match hpath : r.path.text with
  | [] => exact r.path.nonempty hpath
  | [d] =>
    have hcolon : b = ':' := by
      have := congrArg (·[1]?) hv
      simpa [place, hpath, eq_comm] using this
    rw [hcolon] at hb
    exact absurd hb (by decide)
  | d :: d' :: t =>
    obtain ⟨rfl, rfl⟩ : d = '-' ∧ d' = b := by
      simp [place, hpath] at hv
      exact ⟨hv.1, hv.2.1⟩
    exact r.path_noDash d' hb ⟨t, hpath.symm⟩

theorem takes_afterLead (p : List Char) : Takes afterLead p (r.bullet.toList ++ r.place) r.rest
    [(3, r.last.digits), (2, r.first.digits), (1, r.path.text)] := by
  cases hdash : r.dash with
  | false =>
    have hbullet : r.bullet.toList = [] := by simp [bullet, hdash]
    rw [hbullet, List.nil_append, Takes, afterLead,
      preferred_optional_of_refused (by simp [bulletNodes]) (r.refuses_bullet _ _)]
    exact r.takes_place p
  | true =>
    have hbullet : Takes bulletNodes p r.bullet.toList (r.place ++ r.rest) [] := by
      have hspace : Takes [.rep (.set blanks) 1 none true] (p ++ "-".toList) " ".toList
          (r.place ++ r.rest) [] :=
        takes_all (List.all_eq_true.mp (by decide +kernel)) (by simp)
          (r.notMem_blanks_of_mem_head? _)
      simpa [bulletNodes, bullet, hdash] using (takes_letters p "-".toList _).append hspace
    exact (hbullet.optional (by simp [bulletNodes])).cons (r.takes_place _)

theorem captures?_print : compiled.regex.captures? r.print =
    some ⟨[(0, r.lead ++ (r.bullet.toList ++ r.place)), (3, r.last.digits), (2, r.first.digits),
      (1, r.path.text)], compiled.regex.names⟩ := by
  have hhead : ∀ c ∈ (r.bullet.toList ++ r.place ++ r.rest).head?, blanks.mem c = false := by
    cases hdash : r.dash with
    | false => simpa [bullet, hdash] using r.notMem_blanks_of_mem_head? r.rest
    | true => simp [bullet, hdash]; decide
  have hlead : Takes [.rep (.set blanks) 1 none true] [] r.lead
      (r.bullet.toList ++ r.place ++ r.rest) [] :=
    takes_all (fun c hc => mem_blanks_iff.mpr (r.lead_isBlank c hc))
      (List.length_pos_iff.mpr r.lead_ne_nil) hhead
  have h : compiled.regex.captures? (_ ++ _) = some ⟨_, compiled.regex.names⟩ :=
    captures?_of_takes (hlead.cons (r.takes_afterLead _))
  simpa [print, place] using h

/-- The template gives the two numbers as they are written. -/
theorem expand_message (c : Captures) : c.expand compiled.message =
    "Duplicated code on lines ".toList ++ (c.name? "line").getD [] ++ "-".toList ++
      (c.name? "end").getD [] := by
  have hparts : Template.parts compiled.message.toList =
      "Duplicated code on lines ".toList.map .char ++
        [.group "line".toList, .char '-', .group "end".toList] := by
    decide +kernel
  have hline := Template.groupText_name "line" (by decide +kernel) c
  have hend := Template.groupText_name "end" (by decide +kernel) c
  have hchars : (fun d => Template.partText c (.char d)) = fun d => [d] := rfl
  rw [Captures.expand, hparts, List.flatMap_append, List.flatMap_map, hchars,
    List.flatMap_singleton', ← hline, ← hend]
  simp [Template.partText]

theorem trimChars_message : trimChars r.message = r.message := by
  obtain ⟨s, d, hs⟩ := (List.eq_nil_or_concat' r.last.digits).resolve_left r.last.nonempty
  have hd : isDigit d = true := r.last.ascii d (hs ▸ List.mem_append_right s List.mem_cons_self)
  have hmessage : r.message = 'D' :: ("uplicated code on lines ".toList ++ r.first.digits ++
      "-".toList ++ s ++ [d]) := by
    change "Duplicated code on lines ".toList ++ r.first.digits ++ "-".toList ++ r.last.digits = _
    simp [hs]
  rw [hmessage, (trimmed_cons_append (by decide) (isBlank_of_isDigit hd) _).trimChars_eq]

theorem diagnostic?_print : (compiled.regex.captures? r.print).bind
    (ReportReader.diagnostic? compiled) = some r.diagnostic := by
  have hnames : compiled.regex.names = [("file", 1), ("line", 2), ("end", 3)] := by decide +kernel
  rw [captures?_print, hnames, Option.bind_some, diagnostic]
  generalize hc : Captures.mk [(0, r.lead ++ (r.bullet.toList ++ r.place)), (3, r.last.digits),
    (2, r.first.digits), (1, r.path.text)] _ = c
  have hline : c.name? "line" = some r.first.digits := by
    subst hc; simp [Captures.name?, Captures.index?]
  have hcolumn : c.name? "column" = none := by
    subst hc; simp [Captures.name?]
  have hseverity : c.name? "severity" = none := by
    subst hc; simp [Captures.name?]
  have hend : c.name? "end" = some r.last.digits := by
    subst hc; simp [Captures.name?, Captures.index?]
  have hwarning : compiled.severity = some .warning := rfl
  have hmessage : c.expand compiled.message = r.message := by
    rw [expand_message, hline, hend]
    rfl
  have hne : r.message ≠ [] := List.append_ne_nil_of_right_ne_nil _ r.last.nonempty
  rw [ReportReader.diagnostic?_eq none hline hcolumn
    (by rwa [hmessage, r.trimChars_message])]
  simp [hmessage, r.trimChars_message, hseverity, hwarning]

/-- What is read of a line whose rest ends in a carriage return. -/
def chomped : CloneReport :=
  { r with
    rest := chomp r.rest
    rest_notDigit := by
      obtain ⟨t, ht⟩ := prefix_chomp r.rest
      intro c hc
      refine r.rest_notDigit c ?_
      rw [← ht, List.head?_append, Option.mem_def.mp hc, Option.some_or]
      rfl
    rest_inLine := fun h => r.rest_inLine ((prefix_chomp r.rest).subset h) }

theorem diagnostic?_line : (compiled.regex.captures? (chomp r.print)).bind
    (ReportReader.diagnostic? compiled) = some r.diagnostic := by
  have hchomp : chomp r.print = r.chomped.print := by
    by_cases hrest : r.rest = []
    · have hprint : r.print = r.lead ++ r.bullet.toList ++ r.path.text ++ ":".toList ++
          r.first.digits ++ "-".toList ++ r.last.digits := by
        rw [print, hrest, List.append_nil]
      have hchomped : r.chomped.print = r.print := by
        simp [chomped, print, bullet, hrest, chomp, dropReturn]
      rw [hchomped, hprint, Numeral.chomp_digits]
    · exact chomp_append hrest _
  rw [hchomp, diagnostic?_print]
  rfl

theorem print_inLine : '\n' ∉ r.print := by
  have hbullet : '\n' ∉ r.bullet.toList := by cases hdash : r.dash <;> simp [bullet, hdash]
  have hfirst : '\n' ∉ r.first.digits := r.first.notMem (by decide)
  have hlast : '\n' ∉ r.last.digits := r.last.notMem (by decide)
  simp [print, hbullet, hfirst, hlast, r.lead_inLine, r.path.inLine, r.rest_inLine]

end CloneReport

/-! ## What is read back -/

/-- Whatever the three tools report is read back, each issue once and in the order in which it is
first reported. -/
theorem location_reports_found :
    Analyzer.phpcs.Recovers SnifferReport.print (some ∘ SnifferReport.diagnostic) ∧
      Analyzer.phpmd.Recovers MessReport.print (some ∘ MessReport.diagnostic) ∧
      Analyzer.phpcpd.Recovers CloneReport.print (some ∘ CloneReport.diagnostic) :=
  ⟨Analyzer.recovers_of_rule SnifferReport.compile_phpcs (by decide +kernel) rfl rfl
      SnifferReport.print_inLine SnifferReport.diagnostic?_line,
    Analyzer.recovers_of_rule MessReport.compile_phpmd (by decide +kernel) rfl rfl
      MessReport.print_inLine MessReport.diagnostic?_line,
    Analyzer.recovers_of_rule CloneReport.compile_phpcpd (by decide +kernel) rfl rfl
      CloneReport.print_inLine CloneReport.diagnostic?_line⟩

/-- A path with colons, none of them before a digit. -/
def LocatedPath.drive : LocatedPath where
  text := "C:\\a: b:.php".toList
  nonempty := by decide +kernel
  inLine := by decide +kernel
  noLine d hd h := by
    have hany : "C:\\a: b:.php".toList.any digits.mem = false := by decide +kernel
    exact absurd hd (List.any_eq_false.mp hany d (h.subset (by simp)))

/-- A message that looks like a report. -/
def Message.nested : Message :=
  ⟨"x.php:3:4: error - y".toList, by decide +kernel, 'x', by decide +kernel, by decide +kernel⟩

def Numeral.ten : Numeral :=
  ⟨"010".toList, by decide +kernel, List.all_eq_true.mp (by decide +kernel), by decide +kernel⟩

def MessReport.nested : MessReport where
  path := .drive
  line := .ten
  gap := "\t ".toList
  gap_ne_nil := by decide +kernel
  gap_isBlank := List.all_eq_true.mp (by decide +kernel)
  gap_inLine := by decide +kernel
  message := .nested

def CloneReport.nested : CloneReport where
  lead := "  ".toList
  lead_ne_nil := by decide +kernel
  lead_isBlank := List.all_eq_true.mp (by decide +kernel)
  lead_inLine := by decide +kernel
  dash := true
  path := .drive
  path_notBlank := by
    rintro c ⟨⟩
    decide
  path_noDash := by
    rintro c - ⟨t, ht⟩
    have hhead : some '-' = LocatedPath.drive.text.head? := congrArg List.head? ht
    exact absurd hhead (by decide +kernel)
  first := .ten
  last := .ten
  rest := ":5-6".toList
  rest_notDigit := by
    rintro c ⟨⟩
    decide
  rest_inLine := by decide +kernel

theorem nested_location_reports_found :
    (∃ reader, ReportReader.compile Analyzer.phpcs.id Analyzer.phpcs.rules = .ok reader ∧
      reader.read "C:\\a: b:.php:010:010: warning - x.php:3:4: error - y\n" =
        [⟨"x.php:3:4: error - y", ⟨9, 9⟩, .warning⟩]) ∧
    (∃ reader, ReportReader.compile Analyzer.phpmd.id Analyzer.phpmd.rules = .ok reader ∧
      reader.read "C:\\a: b:.php:010\t x.php:3:4: error - y\n" =
        [⟨"x.php:3:4: error - y", ⟨9, 0⟩, .warning⟩]) ∧
    (∃ reader, ReportReader.compile Analyzer.phpcpd.id Analyzer.phpcpd.rules = .ok reader ∧
      reader.read "  - C:\\a: b:.php:010-010:5-6\n" =
        [⟨"Duplicated code on lines 010-010", ⟨9, 0⟩, .warning⟩]) := by
  obtain ⟨⟨phpcs, hphpcs, hsniffer⟩, ⟨phpmd, hphpmd, hmess⟩, ⟨phpcpd, hphpcpd, hclone⟩⟩ :=
    location_reports_found
  refine ⟨⟨phpcs, hphpcs, ?_⟩, ⟨phpmd, hphpmd, ?_⟩, ⟨phpcpd, hphpcpd, ?_⟩⟩
  · refine (congrArg phpcs.read ?_).trans
      ((hsniffer [⟨.drive, .ten, .ten, .warning, .nested⟩]).trans ?_)
    · decide +kernel
    · decide +kernel
  · refine (congrArg phpmd.read ?_).trans ((hmess [.nested]).trans ?_)
    · decide +kernel
    · decide +kernel
  · refine (congrArg phpcpd.read ?_).trans ((hclone [.nested]).trans ?_)
    · decide +kernel
    · decide +kernel

end LintDesk
