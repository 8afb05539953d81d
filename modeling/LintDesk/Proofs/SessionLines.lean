import LintDesk.Session
import LintDesk.Proofs.Trimming

/-! # Lines of the session protocol

A line is read by trimming it and cutting it at its first blank. That this is a grammar of its own
is not seen from the reader: a verb stands alone, or there are blanks and an argument behind it, and
around all of it there may be more blanks. Blanks inside the argument belong to it.
-/

namespace LintDesk

open LintDesk.Text

namespace SessionCommand

variable {line verb arg : String} {command : SessionCommand}

/-! ## The grammar -/

/-- The line is made of a verb, an argument behind it, and blanks between and around them. -/
structure Says (line verb arg : String) : Prop where
  ne_empty : arg ≠ ""
  trimmed : Trimmed arg.toList
  spelled : ∃ before between after : String, Blank before.toList ∧ Blank between.toList ∧
    between ≠ "" ∧ Blank after.toList ∧ line = before ++ verb ++ between ++ arg ++ after

/-- The lines that each command is written as. -/
inductive Written : String → SessionCommand → Prop where
  | save {line path : String} : Says line "save" path → Written line (.trigger (.saved path))
  | focus {line path : String} : Says line "focus" path → Written line (.trigger (.focused path))
  | query {line id : String} : Says line "query" id → Written line (.query (some id))
  | queryAll {line : String} : trim line = "query" → Written line (.query none)
  | quit {line : String} : trim line = "quit" → Written line .quit

/-- A line for the command. -/
def print : SessionCommand → String
  | .trigger (.saved path) => "save " ++ path
  | .trigger (.focused path) => "focus " ++ path
  | .query (some id) => "query " ++ id
  | .query none => "query"
  | .quit => "quit"

/-- The path or the id that a command is about. -/
def arg? : SessionCommand → Option String
  | .trigger t => some t.path
  | .query id => id
  | .quit => none

/-! ## Cutting a line -/

/-- A verb has no blanks, and is not empty. -/
structure Verb (verb : List Char) : Prop where
  ne_nil : verb ≠ []
  solid : ∀ c ∈ verb, isBlank c = false

section Cutting

variable {verb between arg after rest s : List Char}

theorem Verb.of_all (hne : verb ≠ []) (h : verb.all (!isBlank ·) = true) : Verb verb where
  ne_nil := hne
  solid c hc := by simpa using List.all_eq_true.mp h c hc

theorem Verb.trimmed (h : Verb verb) : Trimmed verb where
  head c hc := h.solid c (List.mem_of_mem_head? hc)
  last c hc := h.solid c (List.mem_of_getLast? hc)

/-- A line is cut behind the verb. -/
theorem splitVerb_append (hverb : Verb verb) (hrest : ∀ c ∈ rest.head?, isBlank c = true) :
    splitVerb (verb ++ rest) = (verb, trimChars rest) := by
  have hpass : ∀ c ∈ verb, (!isBlank c) = true := fun c hc => by rw [hverb.solid c hc]; rfl
  have hstop : ∀ c ∈ rest.head?, (!isBlank c) = false := fun c hc => by rw [hrest c hc]; rfl
  rw [splitVerb, takeWhile_append_of_stop hpass hstop, dropWhile_append_of_stop hpass hstop]

/-- The argument is what is left of the rest. -/
theorem splitVerb_append_append (hverb : Verb verb) (hbetween : Blank between) (hne : between ≠ [])
    (harg : Trimmed arg) : splitVerb (verb ++ (between ++ arg)) = (verb, arg) := by
  have hrest : trimChars (between ++ arg) = arg := by
    simpa using harg.trimChars_append hbetween blank_nil
  rw [splitVerb_append hverb, hrest]
  rw [List.head?_append_of_ne_nil _ hne]
  exact fun c hc => hbetween c (List.mem_of_mem_head? hc)

theorem exists_between_of_splitVerb (h : splitVerb s = (verb, arg)) (harg : arg ≠ []) :
    Trimmed arg ∧ ∃ between after, Blank between ∧ between ≠ [] ∧ Blank after ∧
      s = verb ++ between ++ arg ++ after := by
  obtain ⟨hverb, hrest⟩ := Prod.mk.inj h
  obtain ⟨htrimmed, between, after, hbetween, hafter, hbehind⟩ := trimChars_eq_iff.mp hrest
  refine ⟨htrimmed, between, after, hbetween, ?_, hafter, ?_⟩
  · rintro rfl
    -- The line is cut at a blank, and the argument does not begin with one.
    obtain ⟨c, arg, rfl⟩ := List.exists_cons_of_ne_nil harg
    have hstop := List.head?_dropWhile_not (!isBlank ·) s
    rw [hbehind] at hstop
    have hc := htrimmed.head c rfl
    simp [hc] at hstop
  · rw [List.append_assoc, List.append_assoc, ← List.append_assoc between, ← hbehind, ← hverb,
      List.takeWhile_append_dropWhile]

theorem splitVerb_eq_nil_iff (hverb : Verb verb) (hs : Trimmed s) :
    splitVerb s = (verb, []) ↔ s = verb := by
  constructor
  · intro h
    obtain ⟨hfirst, hrest⟩ := Prod.mk.inj h
    have hblank := trimChars_eq_nil_iff.mp hrest
    calc s = trimChars s := hs.trimChars_eq.symm
      _ = trimChars ([] ++ verb ++ s.dropWhile (!isBlank ·)) := by
          rw [List.nil_append, ← hfirst, List.takeWhile_append_dropWhile]
      _ = verb := hverb.trimmed.trimChars_append blank_nil hblank
  · rintro rfl
    have halone : splitVerb (s ++ []) = (s, []) := splitVerb_append hverb nofun
    rwa [List.append_nil] at halone

end Cutting

theorem says_iff (hverb : Verb verb.toList) : Says line verb arg ↔
    splitVerb (trimChars line.toList) = (verb.toList, arg.toList) ∧ arg ≠ "" := by
  constructor
  · rintro ⟨hne, htrimmed, before, between, after, hbefore, hbetween, hgap, hafter, rfl⟩
    have hgap' : between.toList ≠ [] := mt String.toList_eq_nil_iff.mp hgap
    have harg : arg.toList ≠ [] := mt String.toList_eq_nil_iff.mp hne
    have hwhole : Trimmed (verb.toList ++ (between.toList ++ arg.toList)) := by
      constructor
      · rw [List.head?_append_of_ne_nil _ hverb.ne_nil]
        exact hverb.trimmed.head
      · rw [← List.append_assoc, List.getLast?_append_of_ne_nil _ harg]
        exact htrimmed.last
    have hline : (before ++ verb ++ between ++ arg ++ after).toList =
        before.toList ++ (verb.toList ++ (between.toList ++ arg.toList)) ++ after.toList := by
      simp only [String.toList_append, List.append_assoc]
    rw [hline, hwhole.trimChars_append hbefore hafter,
      splitVerb_append_append hverb hbetween hgap' htrimmed]
    exact ⟨rfl, hne⟩
  · rintro ⟨hsplit, hne⟩
    obtain ⟨before, after, hbefore, hafter, hline⟩ := exists_trimChars line.toList
    obtain ⟨htrimmed, between, last, hbetween, hgap, hlast, hwhole⟩ :=
      exists_between_of_splitVerb hsplit (mt String.toList_eq_nil_iff.mp hne)
    refine ⟨hne, htrimmed, String.ofList before, String.ofList between,
      String.ofList (last ++ after), ?_, ?_, mt String.ofList_eq_empty_iff.mp hgap, ?_, ?_⟩
    · rwa [String.toList_ofList]
    · rwa [String.toList_ofList]
    · rw [String.toList_ofList]
      exact hlast.append hafter
    · rw [← String.toList_inj, hline, hwhole]
      simp only [String.toList_append, String.toList_ofList, List.append_assoc]

theorem trim_eq_iff (hverb : Verb verb.toList) :
    trim line = verb ↔ splitVerb (trimChars line.toList) = (verb.toList, []) := by
  rw [splitVerb_eq_nil_iff hverb (trimmed_trimChars _), ← toList_trim, String.toList_inj]

/-! ## Reading a line -/

theorem verb_save : Verb "save".toList := .of_all (by decide) (by decide)

theorem verb_focus : Verb "focus".toList := .of_all (by decide) (by decide)

theorem verb_query : Verb "query".toList := .of_all (by decide) (by decide)

theorem verb_quit : Verb "quit".toList := .of_all (by decide) (by decide)

theorem written_of_parse? (h : parse? line = some command) : Written line command := by
  obtain ⟨first, rest, hsplit⟩ : ∃ first rest, splitVerb (trimChars line.toList) = (first, rest) :=
    ⟨_, _, rfl⟩
  have hwithArg {v : String} (hv : Verb v.toList) (hfirst : String.ofList first = v)
      (hrest : rest.isEmpty = false) : Says line v (String.ofList rest) := by
    refine (says_iff hv).mpr ⟨?_, ?_⟩
    · rw [hsplit, ← hfirst, String.toList_ofList, String.toList_ofList]
    · rintro hempty
      rw [String.ofList_eq_empty_iff.mp hempty] at hrest
      cases hrest
  have halone {v : String} (hv : Verb v.toList) (hfirst : String.ofList first = v)
      (hrest : rest.isEmpty = true) : trim line = v := by
    rw [trim_eq_iff hv, hsplit, ← hfirst, String.toList_ofList, List.isEmpty_iff.mp hrest]
  rw [parse?, hsplit] at h
  dsimp only at h
  split at h
  · next hfirst hrest =>
    cases h
    exact .save (hwithArg verb_save hfirst hrest)
  · next hfirst hrest =>
    cases h
    exact .focus (hwithArg verb_focus hfirst hrest)
  · next hfirst hrest =>
    cases h
    exact .queryAll (halone verb_query hfirst hrest)
  · next hfirst hrest =>
    cases h
    exact .query (hwithArg verb_query hfirst hrest)
  · next hfirst hrest =>
    cases h
    exact .quit (halone verb_quit hfirst hrest)
  · cases h

theorem Says.isEmpty_eq (h : Says line verb arg) : arg.toList.isEmpty = false := by
  simpa using h.ne_empty

theorem Written.parse?_eq (h : Written line command) : parse? line = some command := by
  cases h with
  | save h => simp [parse?, ((says_iff verb_save).mp h).1, h.isEmpty_eq]
  | focus h => simp [parse?, ((says_iff verb_focus).mp h).1, h.isEmpty_eq]
  | query h => simp [parse?, ((says_iff verb_query).mp h).1, h.isEmpty_eq]
  | queryAll h => simp [parse?, (trim_eq_iff verb_query).mp h]
  | quit h => simp [parse?, (trim_eq_iff verb_quit).mp h]

theorem parse?_eq_some_iff : parse? line = some command ↔ Written line command :=
  ⟨written_of_parse?, Written.parse?_eq⟩

/-! ## Printing a command -/

theorem says_print (verb : String) (hne : arg ≠ "") (h : Trimmed arg.toList) :
    Says (verb ++ " " ++ arg) verb arg where
  ne_empty := hne
  trimmed := h
  spelled := by
    have hspace : Blank " ".toList := by
      intro c hc
      obtain rfl := List.mem_singleton.mp hc
      rfl
    refine ⟨"", " ", "", blank_nil, hspace, by decide, blank_nil, ?_⟩
    rw [String.empty_append, String.append_empty]

theorem Written.trimmed (h : Written line command) :
    ∀ arg ∈ command.arg?, arg ≠ "" ∧ Trimmed arg.toList := by
  cases h with
  | save h | focus h | query h =>
    rintro _ ⟨⟩
    exact ⟨h.ne_empty, h.trimmed⟩
  | queryAll h | quit h => nofun

theorem written_print (h : ∀ arg ∈ command.arg?, arg ≠ "" ∧ Trimmed arg.toList) :
    Written command.print command := by
  rcases command with ⟨path | path⟩ | ⟨_ | id⟩ | _
  · obtain ⟨hne, htrimmed⟩ := h path rfl
    exact .save (says_print "save" hne htrimmed)
  · obtain ⟨hne, htrimmed⟩ := h path rfl
    exact .focus (says_print "focus" hne htrimmed)
  · exact .queryAll (by decide)
  · obtain ⟨hne, htrimmed⟩ := h id rfl
    exact .query (says_print "query" hne htrimmed)
  · exact .quit (by decide)

end SessionCommand

open SessionCommand in
/-- A line is read as a command exactly if the command is written on it: a verb and an argument with
blanks between and around them, or a verb alone. All other lines are no commands. The argument is
taken as it stands, so a command is read back from the line that is printed for it, if its argument
is one that can stand on a line, as it is when the command itself was read. -/
theorem session_lines_read :
    (∀ line command, parse? line = some command ↔ Written line command) ∧
    (∀ line, parse? line = none ↔ ∀ command, ¬Written line command) ∧
    (∀ command, parse? command.print = some command ↔
      ∀ arg ∈ command.arg?, arg ≠ "" ∧ Trimmed arg.toList) ∧
    ∀ line command, parse? line = some command → parse? command.print = some command := by
  have hprint : ∀ command, parse? command.print = some command ↔
      ∀ arg ∈ command.arg?, arg ≠ "" ∧ Trimmed arg.toList := fun command =>
    ⟨fun h => (written_of_parse? h).trimmed, fun h => (written_print h).parse?_eq⟩
  refine ⟨fun line command => parse?_eq_some_iff, fun line => ?_, hprint, fun line command h => ?_⟩
  · simp only [Option.eq_none_iff_forall_ne_some, ne_eq, parse?_eq_some_iff]
  · exact (hprint command).mpr (written_of_parse? h).trimmed

open SessionCommand in
/-- The blanks are not all spaces, and the argument has blanks inside and looks like commands. -/
theorem session_lines_read_blanks :
    let line := "\t\u00a0save \u3000query  \tquit\u2029 "
    let command : SessionCommand := .trigger (.saved "query  \tquit")
    Written line command ∧ parse? line = some command ∧
      parse? "save query  \tquit" = some command ∧
      parse? "\u2003query\r" = some (.query none) ∧ parse? "quit now" = none := by
  intro line command
  obtain ⟨hread, -, -, hprint⟩ := session_lines_read
  have hline : parse? line = some command := by decide +kernel
  exact ⟨(hread line command).mp hline, hline, hprint line command hline,
    (hread _ _).mpr (.queryAll (by decide +kernel)), by decide +kernel⟩

end LintDesk
