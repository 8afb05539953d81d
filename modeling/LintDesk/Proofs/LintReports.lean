import Mathlib.Data.List.Nodup
import LintDesk.Proofs.Printed

/-! # What PHP Lint reports

PHP prints an issue as `kind: message in path on line number`, and when its log goes to a stream as
well, it prints the issue there a second time with `PHP ` in front and one more space. A message is
any text, so ` in ` and ` on line ` may be part of it. The rule still finds the right ones, for two
reasons. The line ends in digits, so only its last ` on line ` can be followed by nothing but
digits. And the message is matched greedily, so it ends at the last ` in ` before them, which is the
right one as long as the path contains no other.
-/

namespace LintDesk

open LintDesk.Text LintDesk.Unicode LintDesk.Regex LintDesk.Regex.Cursor

/-! ## Reports -/

inductive LintKind where
  | parseError
  | fatalError
  | warning
  | deprecated
  | notice
deriving DecidableEq

namespace LintKind

def label : LintKind → String
  | parseError => "Parse error"
  | fatalError => "Fatal error"
  | warning => "Warning"
  | deprecated => "Deprecated"
  | notice => "Notice"

def severity : LintKind → Severity
  | parseError | fatalError => .error
  | _ => .warning

/-- The kinds in the order in which the rule tries them. -/
def all : List LintKind := [parseError, fatalError, warning, deprecated, notice]

theorem ofToken_label (k : LintKind) : Severity.ofToken k.label = k.severity := by
  cases k <;> decide +kernel

theorem mem_all (k : LintKind) : k ∈ all := by
  cases k <;> decide

theorem exists_mem_label (k : LintKind) : ∃ c ∈ k.label.toList, isBlank c = false := by
  have hany : k.label.toList.any (!isBlank ·) = true := by cases k <;> decide +kernel
  simpa using hany

theorem not_prefix_label {j k : LintKind} (h : j ≠ k) (s : List Char) :
    ¬j.label.toList <+: k.label.toList ++ s := by
  cases j <;> cases k <;> first | exact absurd rfl h | simp [label]

end LintKind

/-- An issue in a file whose path can be told from the message before it. -/
structure LintReport where
  kind : LintKind
  message : Message
  path : List Char
  path_ne_nil : path ≠ []
  path_inLine : '\n' ∉ path
  path_noIn : ¬" in ".toList <:+: path
  path_noInFirst : ¬"in ".toList <+: path
  line : Numeral

/-- The two forms in which an issue is printed. -/
inductive LintForm where
  | plain
  | logged
deriving DecidableEq

namespace LintForm

def opening : LintForm → String
  | plain => ""
  | logged => "PHP "

def gap : LintForm → String
  | plain => " "
  | logged => "  "

theorem mem_blanks_of_mem_gap (form : LintForm) :
    ∀ c ∈ form.gap.toList, blanks.mem c = true :=
  List.all_eq_true.mp (by cases form <;> decide +kernel)

end LintForm

namespace LintReport

/-- What is printed behind the message. -/
def place (r : LintReport) : List Char :=
  " in ".toList ++ (r.path ++ (" on line ".toList ++ r.line.digits))

def print (form : LintForm) (r : LintReport) : List Char :=
  form.opening.toList ++ (r.kind.label.toList ++ (":".toList ++ (form.gap.toList ++
    (r.message.text ++ r.place))))

def diagnostic (r : LintReport) : Diagnostic :=
  ⟨String.ofList (trimChars r.message.text), ⟨r.line.coordinate, 0⟩, r.kind.severity⟩

end LintReport

/-- A line of what is printed: an issue in one of its forms, or a blank line. -/
inductive LintLine where
  | issue (form : LintForm) (r : LintReport)
  | blank (s : List Char) (inLine : '\n' ∉ s) (isBlank : ∀ c ∈ s, isBlank c = true)

namespace LintLine

def print : LintLine → List Char
  | issue form r => r.print form
  | blank s _ _ => s

def diagnostic? : LintLine → Option Diagnostic
  | issue _ r => some r.diagnostic
  | blank _ _ _ => none

end LintLine

/-! ## The rule -/

namespace LintRule

def afterPath : List Node :=
  letters " on line ".toList ++ [.group 3 (some "line") (.rep (.set digits) 1 none true),
    .rep (.set blanks) 0 none true, .look .textEnd]

def afterMessage : List Node :=
  letters " in ".toList ++ .rep (.set lineChars) 1 none false :: afterPath

def afterKind : List Node :=
  letters ":".toList ++ .rep (.set blanks) 0 none true ::
    .group 2 (some "message") (.rep (.set lineChars) 1 none true) :: afterMessage

def fromKind : List Node :=
  .group 1 (some "severity") (words (LintKind.all.map (·.label.toList))) :: afterKind

def fromOpening : List Node :=
  .rep (.ofList (letters "PHP ".toList)) 0 (some 1) true :: fromKind

/-- The rule that the output of PHP Lint is read by. -/
def compiled : CompiledRule where
  regex := ⟨.ofList (.look .textStart :: fromOpening)⟩
  message := OutputRule.defaultMessage
  severity := none

theorem compile_phpl : Analyzer.phpl.rules.map (fun r => Regex.compile? r.pattern) =
    [some compiled.regex] := by
  decide +kernel

variable {p v : List Char} {r : LintReport}

/-! ## Where the parts of a line end -/

theorem of_accepts_afterPath (h : Accepts afterPath p v) : ∃ ds bs,
    v = " on line ".toList ++ (ds ++ bs) ∧ (∀ c ∈ ds, digits.mem c = true) ∧
      ∀ c ∈ bs, isBlank c = true := by
  rw [afterPath, accepts_letters_iff] at h
  obtain ⟨v, rfl, hline⟩ := h
  rw [accepts_group_iff] at hline
  obtain ⟨ds, v, rfl, hds, -, hrest⟩ := accepts_repeated_iff.mp hline
  obtain ⟨bs, v, rfl, hbs, -, hend⟩ := accepts_repeated_iff.mp hrest
  obtain rfl : v = [] := textEnd_holds_between.mp (accepts_look_iff.mp hend).1
  refine ⟨ds, bs, by rw [List.append_nil], hds, fun c hc => mem_blanks_iff.mp (hbs c hc)⟩

theorem of_accepts_afterMessage (h : Accepts afterMessage p v) : ∃ path q w,
    v = " in ".toList ++ (path ++ w) ∧ Accepts afterPath q w := by
  rw [afterMessage, accepts_letters_iff] at h
  obtain ⟨v, rfl, hpath⟩ := h
  obtain ⟨path, w, rfl, -, -, hline⟩ := accepts_repeated_iff.mp hpath
  exact ⟨path, _, w, rfl, hline⟩

/-- Two texts that go on with the same character, and behind it without it, are the same. -/
theorem eq_of_append_cons_eq {s t u w : List Char} {c : Char} (hu : c ∉ u) (hw : c ∉ w)
    (h : s ++ c :: u = t ++ c :: w) : s = t := by
  rcases List.append_eq_append_iff.mp h with ⟨x, rfl, hx⟩ | ⟨x, rfl, hx⟩
  · cases x with
    | nil => rw [List.append_nil]
    | cons y x =>
      obtain ⟨rfl, rfl⟩ := List.cons.inj hx
      exact absurd (List.mem_append_right x List.mem_cons_self) hu
  · cases x with
    | nil => rw [List.append_nil]
    | cons y x =>
      obtain ⟨rfl, rfl⟩ := List.cons.inj hx
      exact absurd (List.mem_append_right x List.mem_cons_self) hw

/-- What comes before the number of the line is settled: no other ` on line ` will do. -/
theorem eq_of_accepts_afterPath {s t : List Char} (n : Numeral) (h : Accepts afterPath p v)
    (heq : s ++ v = t ++ (" on line ".toList ++ n.digits)) : s = t := by
  obtain ⟨ds, bs, rfl, hds, hbs⟩ := of_accepts_afterPath h
  have hnil : bs = [] := by
    by_contra hne
    obtain ⟨bs', b, rfl⟩ := (List.eq_nil_or_concat' bs).resolve_left hne
    obtain ⟨ns, d, hn⟩ := (List.eq_nil_or_concat' n.digits).resolve_left n.nonempty
    have hlast : b = d := by
      rw [hn, ← List.append_assoc, ← List.append_assoc, ← List.append_assoc, ← List.append_assoc,
        ← List.append_assoc] at heq
      exact (List.append_singleton_inj.mp heq).2
    have hdigit : isDigit b = true :=
      hlast ▸ n.ascii d (hn ▸ List.mem_append_right ns List.mem_cons_self)
    have hblank := hbs b (List.mem_append_right bs' List.mem_cons_self)
    rw [isBlank_of_isDigit hdigit] at hblank
    cases hblank
  have hspace : ' ' ∉ ds := fun hc => absurd (hds ' ' hc) (by decide)
  have hfront : s ++ " on line".toList = t ++ " on line".toList := by
    refine eq_of_append_cons_eq hspace (n.notMem (c := ' ') (by decide)) ?_
    subst hnil
    simpa using heq
  exact List.append_cancel_right hfront

/-- No longer message is followed by a path: the ` in ` behind it would be part of the path. -/
theorem refuses_longer_message {s u' v' : List Char}
    (heq : u' ++ v' = s ++ r.place)
    (hlong : s.length < u'.length) : ¬Accepts afterMessage p v' := by
  intro h
  obtain ⟨path, q, w, rfl, hw⟩ := of_accepts_afterMessage h
  have hfront : u' ++ (" in ".toList ++ path) = s ++ (" in ".toList ++ r.path) :=
    eq_of_accepts_afterPath r.line hw (by simpa [LintReport.place] using heq)
  obtain ⟨y, rfl⟩ : s <+: u' :=
    List.prefix_of_prefix_length_le ⟨_, hfront.symm⟩ (List.prefix_append u' _) (Nat.le_of_lt hlong)
  have hy : y ++ (" in ".toList ++ path) = " in ".toList ++ r.path := by
    rw [List.append_assoc] at hfront
    exact List.append_cancel_left hfront
  have hne : y ≠ [] := by
    rintro rfl
    simp at hlong
  -- `y` begins like ` in `, and stops inside it or behind it
  match y, hne, hy with
  | [_], _, hy => simp at hy
  | [_, _], _, hy => simp at hy
  | [a, b, c], _, hy =>
    obtain ⟨-, -, -, hpath⟩ : a = ' ' ∧ b = 'i' ∧ c = 'n' ∧ "in ".toList ++ path = r.path := by
      simpa using hy
    exact r.path_noInFirst ⟨path, hpath⟩
  | _ :: _ :: _ :: _ :: y, _, hy =>
    have hpath : y ++ (" in ".toList ++ path) = r.path := congrArg (List.drop 4) hy
    exact r.path_noIn ⟨y, path, by rw [List.append_assoc, hpath]⟩

/-! ## What the rule takes of an issue -/

theorem takes_afterPath (p : List Char) (n : Numeral) :
    Takes afterPath p (" on line ".toList ++ n.digits) [] [(3, n.digits)] := by
  have hend : Takes [.rep (.set blanks) 0 none true, .look .textEnd]
      (p ++ " on line ".toList ++ n.digits) [] [] [] :=
    (takes_all (u := []) (by simp) (Nat.zero_le _) (by simp)).cons (takes_look (by simp))
  have hline : Takes [.group 3 (some "line") (.rep (.set digits) 1 none true)]
      (p ++ " on line ".toList) n.digits [] [(3, n.digits)] :=
    (takes_all n.mem_digits n.one_le_length (by simp)).group 3 (some "line")
  have h := (takes_letters p " on line ".toList _).append (hline.cons hend)
  simpa [afterPath] using h

variable (r : LintReport)

theorem takes_afterMessage (p : List Char) :
    Takes afterMessage p r.place [] [(3, r.line.digits)] := by
  have hpath : Takes (.rep (.set lineChars) 1 none false :: afterPath) (p ++ " in ".toList)
      (r.path ++ (" on line ".toList ++ r.line.digits)) [] [(3, r.line.digits)] := by
    refine Takes.repeated (mem_lineChars_of_inLine r.path_inLine)
      (List.length_pos_iff.mpr r.path_ne_nil) (fun u' v' heq _ hshort h => ?_)
      (takes_afterPath _ r.line)
    rw [List.append_nil] at heq
    have hu : u' = r.path := eq_of_accepts_afterPath r.line h heq
    simp [Prefers, hu] at hshort
  simpa [afterMessage, LintReport.place] using (takes_letters p " in ".toList _).append hpath

theorem takes_message (p : List Char) :
    Takes (.group 2 (some "message") (.rep (.set lineChars) 1 none true) :: afterMessage) p
      (r.message.body ++ r.place) [] [(3, r.line.digits), (2, r.message.body)] := by
  refine Takes.kept 2 (some "message") true (mem_lineChars_of_inLine r.message.body_inLine)
    r.message.one_le_length_body (fun u' v' heq _ hlong => ?_) (takes_afterMessage r _)
  rw [List.append_nil] at heq
  exact refuses_longer_message heq hlong

theorem takes_afterKind (form : LintForm) (p : List Char) : Takes afterKind p
    (":".toList ++ (form.gap.toList ++ (r.message.text ++ r.place))) []
    [(3, r.line.digits), (2, r.message.body)] := by
  have hgap : ∀ c ∈ form.gap.toList ++ r.message.lead, blanks.mem c = true := by
    intro c hc
    rcases List.mem_append.mp hc with hc | hc
    · exact form.mem_blanks_of_mem_gap c hc
    · exact r.message.mem_blanks_of_mem_lead c hc
  have hblanks : Takes [.rep (.set blanks) 0 none true] (p ++ ":".toList)
      (form.gap.toList ++ r.message.lead) (r.message.body ++ r.place ++ []) [] :=
    takes_all hgap (Nat.zero_le _)
      (by rw [List.append_assoc]; exact r.message.notMem_blanks_of_mem_head? _)
  have h := (takes_letters p ":".toList _).append (hblanks.cons (takes_message r _))
  simpa [afterKind, ← r.message.lead_append_body] using h

theorem takes_fromKind (form : LintForm) (p : List Char) : Takes fromKind p
    (r.kind.label.toList ++ (":".toList ++ (form.gap.toList ++ (r.message.text ++ r.place)))) []
    [(3, r.line.digits), (2, r.message.body), (1, r.kind.label.toList)] := by
  obtain ⟨before, after, hall, hnot⟩ := List.eq_append_cons_of_mem r.kind.mem_all
  have hkind : ∀ v,
      Takes [words (LintKind.all.map (·.label.toList))] p r.kind.label.toList v [] := by
    intro v
    rw [hall, List.map_append, List.map_cons]
    refine takes_words _ fun w hw => ?_
    obtain ⟨j, hj, rfl⟩ := List.mem_map.mp hw
    exact LintKind.not_prefix_label (ne_of_mem_of_not_mem hj hnot) v
  exact ((hkind _).group 1 (some "severity")).cons (takes_afterKind r form _)

theorem takes_fromOpening (form : LintForm) : Takes fromOpening [] (r.print form) []
    [(3, r.line.digits), (2, r.message.body), (1, r.kind.label.toList)] := by
  cases form with
  | plain =>
    have hrefused : ¬Accepts (letters "PHP ".toList) [] (r.print .plain ++ []) := by
      rw [accepts_letters_iff_starts]
      cases hk : r.kind <;> simp [LintReport.print, LintForm.opening, LintKind.label, hk]
    rw [Takes, fromOpening, preferred_optional_of_refused (by simp) hrefused]
    exact takes_fromKind r .plain []
  | logged =>
    have hopening : ∀ v, Takes [.rep (.ofList (letters "PHP ".toList)) 0 (some 1) true] []
        "PHP ".toList v [] := fun v => Takes.optional (by simp) (takes_letters [] "PHP ".toList v)
    rw [fromOpening, LintReport.print, LintForm.opening]
    exact (hopening _).cons (takes_fromKind r .logged _)

theorem names_compiled : compiled.regex.names = [("severity", 1), ("message", 2), ("line", 3)] := by
  decide +kernel

theorem captures?_print (form : LintForm) : compiled.regex.captures? (r.print form) =
    some ⟨[(0, r.print form), (3, r.line.digits), (2, r.message.body), (1, r.kind.label.toList)],
      compiled.regex.names⟩ := by
  have h := captures?_of_takes (takes_fromOpening r form)
  rwa [List.append_nil] at h

theorem diagnostic?_print (form : LintForm) :
    (compiled.regex.captures? (r.print form)).bind
        (ReportReader.diagnostic? compiled) =
      some r.diagnostic := by
  rw [captures?_print, names_compiled, Option.bind_some, LintReport.diagnostic]
  generalize hc : Captures.mk [(0, r.print form), (3, r.line.digits), (2, r.message.body),
    (1, r.kind.label.toList)] [("severity", 1), ("message", 2), ("line", 3)] = c
  have hline : c.name? "line" = some r.line.digits := by
    subst hc; simp [Captures.name?, Captures.index?]
  have hcolumn : c.name? "column" = none := by
    subst hc; simp [Captures.name?]
  have hseverity : c.name? "severity" = some r.kind.label.toList := by
    subst hc; simp [Captures.name?, Captures.index?]
  have hmessage : c.expand compiled.message = r.message.body := by
    refine c.expand_defaultMessage.trans ?_
    subst hc; simp [Captures.name?, Captures.index?]
  rw [ReportReader.diagnostic?_eq none hline hcolumn
    (by simpa [hmessage, r.message.trimChars_body] using r.message.trimChars_ne_nil)]
  simp [hmessage, hseverity, r.message.trimChars_body, r.kind.ofToken_label]

/-! ## Lines that are no reports -/

theorem not_prefix_of_blank {s t : List Char} (hs : ∀ c ∈ s, isBlank c = true)
    (ht : ∃ c ∈ t, isBlank c = false) : ¬t <+: s := by
  rintro ⟨u, rfl⟩
  obtain ⟨c, hc, hblank⟩ := ht
  rw [hs c (List.mem_append_left u hc)] at hblank
  cases hblank

theorem captures?_blank {s : List Char} (hs : ∀ c ∈ s, isBlank c = true) :
    compiled.regex.captures? s = none := by
  refine captures?_eq_none fun h => ?_
  have hrefused : ¬Accepts (letters "PHP ".toList) [] s := by
    rw [accepts_letters_iff_starts]
    exact not_prefix_of_blank hs ⟨'P', by simp, by decide⟩
  rw [Accepts, fromOpening, preferred_optional_of_refused (by simp) hrefused] at h
  have hkind : Accepts fromKind [] s := h
  rw [fromKind, accepts_group_iff] at hkind
  obtain ⟨t, ht, hprefix⟩ := exists_prefix_of_accepts_words (by decide) hkind
  obtain ⟨k, -, rfl⟩ := List.mem_map.mp ht
  exact not_prefix_of_blank hs k.exists_mem_label hprefix

theorem diagnostic?_line (l : LintLine) :
    (compiled.regex.captures? (chomp l.print)).bind
        (ReportReader.diagnostic? compiled) =
      l.diagnostic? := by
  cases l with
  | issue form r =>
    have hchomp : chomp (r.print form) = r.print form := by
      simpa [LintReport.print, LintReport.place] using r.line.chomp_digits
        (form.opening.toList ++ (r.kind.label.toList ++ (":".toList ++ (form.gap.toList ++
          (r.message.text ++ (" in ".toList ++ (r.path ++ " on line ".toList)))))))
    rw [LintLine.print, hchomp, diagnostic?_print]
    rfl
  | blank s _ hs =>
    rw [LintLine.print, captures?_blank fun c hc => hs c ((prefix_chomp s).subset hc)]
    rfl

end LintRule

/-! ## What is read back -/

theorem LintLine.print_inLine (l : LintLine) : '\n' ∉ l.print := by
  cases l with
  | issue form r =>
    have hlabel : '\n' ∉ r.kind.label.toList := by cases r.kind <;> decide +kernel
    have hopening : '\n' ∉ form.opening.toList := by cases form <;> decide +kernel
    have hgap : '\n' ∉ form.gap.toList := by cases form <;> decide +kernel
    have hline : '\n' ∉ r.line.digits := r.line.notMem (by decide)
    simp [print, LintReport.print, LintReport.place, hlabel, hopening, hgap, hline,
      r.message.inLine, r.path_inLine]
  | blank s inLine _ => exact inLine

theorem phpl_recovers : Analyzer.phpl.Recovers LintLine.print LintLine.diagnostic? :=
  Analyzer.recovers_of_rule LintRule.compile_phpl (by decide +kernel) rfl rfl
    LintLine.print_inLine LintRule.diagnostic?_line

/-- Whatever PHP Lint reports is read back, in the order in which it is first reported. What is
reported in both forms, or several times, is found exactly once. -/
theorem lint_reports_found :
    ∃ reader, ReportReader.compile Analyzer.phpl.id Analyzer.phpl.rules = .ok reader ∧
      ∀ report : List LintLine,
        let found := reader.read (String.ofList (report.flatMap fun l => l.print ++ ['\n']))
        found = (report.filterMap LintLine.diagnostic?).eraseDups ∧
          ∀ form r, .issue form r ∈ report → found.count r.diagnostic = 1 := by
  obtain ⟨reader, hcompile, hread⟩ := phpl_recovers
  refine ⟨reader, hcompile, fun report => ⟨hread report, fun form r hr => ?_⟩⟩
  rw [hread report]
  refine List.count_eq_one_of_mem (ReportReader.nodup_eraseDups _) (List.mem_eraseDups.mpr ?_)
  exact List.mem_filterMap.mpr ⟨_, hr, rfl⟩

/-- An issue whose message mentions another place, and whose path begins like one. -/
def LintReport.nested : LintReport where
  kind := .parseError
  message := ⟨"unexpected end in x.php on line 9".toList, by decide +kernel,
    'u', by decide +kernel, by decide +kernel⟩
  path := "on line 3.php".toList
  path_ne_nil := by decide +kernel
  path_inLine := by decide +kernel
  path_noIn := by decide +kernel
  path_noInFirst := by decide +kernel
  line := ⟨"007".toList, by decide +kernel, List.all_eq_true.mp (by decide +kernel),
    by decide +kernel⟩

theorem nested_lint_report_found_once :
    ∃ reader, ReportReader.compile Analyzer.phpl.id Analyzer.phpl.rules = .ok reader ∧
      let found := reader.read (
        "PHP Parse error:  unexpected end in x.php on line 9 in on line 3.php on line 007\n" ++
        "\n" ++
        "Parse error: unexpected end in x.php on line 9 in on line 3.php on line 007\n")
      found = [⟨"unexpected end in x.php on line 9", ⟨6, 0⟩, .error⟩] ∧
        found.count LintReport.nested.diagnostic = 1 := by
  obtain ⟨reader, hcompile, hread⟩ := lint_reports_found
  obtain ⟨hfound, hcount⟩ :=
    hread [.issue .logged .nested, .blank [] nofun nofun, .issue .plain .nested]
  refine ⟨reader, hcompile, ?_⟩
  have htext : ∀ text, text = String.ofList ([LintLine.issue .logged .nested,
      .blank [] nofun nofun, .issue .plain .nested].flatMap fun l => l.print ++ ['\n']) →
      reader.read text = [⟨"unexpected end in x.php on line 9", ⟨6, 0⟩, .error⟩] ∧
        (reader.read text).count LintReport.nested.diagnostic = 1 := by
    rintro _ rfl
    exact ⟨hfound.trans (by decide +kernel), hcount .plain .nested (by simp)⟩
  exact htext _ (by decide +kernel)

end LintDesk
