import LintDesk.CommandLine
import Mathlib.Logic.Basic

/-! # Rendered command lines

A command line is rendered as words with a space between every two of them, and a space inside a
word is marked by the convention of the shell. A reader takes a rendered line apart one word at a
time. Each convention has words that it cannot mark: a backslash at the end of a word would take the
space behind it into the word, and a double quote would end the word. All other lines are read as
the words that they are made of, so no two of them look alike.
-/

namespace LintDesk

open LintDesk.Text

/-! ## Reading a line -/

namespace Platform

/-- The first word of a line and what follows it. A backslash directly before a space stands for
that space, any other space ends the word, and every other character stands for itself. -/
def escapedWord : List Char → List Char × List Char
  | '\\' :: ' ' :: s => (' ' :: (escapedWord s).1, (escapedWord s).2)
  | ' ' :: s => ([], ' ' :: s)
  | c :: s => (c :: (escapedWord s).1, (escapedWord s).2)
  | [] => ([], [])

/-- The first word of a line and what follows it. A word that starts with a double quote extends to
the next double quote, and any other word to the next space. -/
def quotedWord? : List Char → Option (List Char × List Char)
  | '"' :: s =>
      match s.dropWhile (· != '"') with
      | [] => none
      | _ :: rest => some (s.takeWhile (· != '"'), rest)
  | s => some (s.takeWhile (· != ' '), s.dropWhile (· != ' '))

def word? : Platform → List Char → Option (List Char × List Char)
  | .unix, s => some (escapedWord s)
  | .windows, s => quotedWord? s

theorem length_escapedWord (s : List Char) : (escapedWord s).2.length ≤ s.length := by
  induction s using escapedWord.induct with
  | case1 s ih =>
    rw [escapedWord]
    exact Nat.le_succ_of_le (Nat.le_succ_of_le ih)
  | case2 s => exact Nat.le_refl _
  | case3 c s hc hspace ih =>
    rw [escapedWord]
    · exact Nat.le_succ_of_le ih
    · exact hc
    · exact hspace
  | case4 => exact Nat.le_refl _

theorem length_of_quotedWord? {s word rest : List Char}
    (h : quotedWord? s = some (word, rest)) : rest.length ≤ s.length := by
  have hdrop : ∀ (p : Char → Bool) (t : List Char), (t.dropWhile p).length ≤ t.length :=
    fun p t => (List.dropWhile_suffix p).length_le
  unfold quotedWord? at h
  split at h
  · next s =>
    have hle := hdrop (· != '"') s
    split at h
    · cases h
    · next c rest hrest =>
      cases h
      rw [hrest, List.length_cons] at hle
      exact Nat.le_succ_of_le (Nat.le_of_succ_le hle)
  · cases h
    exact hdrop _ _

theorem length_of_word? {p : Platform} {s word rest : List Char}
    (h : p.word? s = some (word, rest)) : rest.length ≤ s.length := by
  cases p with
  | windows => exact length_of_quotedWord? h
  | unix =>
    obtain rfl : (escapedWord s).2 = rest := congrArg Prod.snd (Option.some.inj h)
    exact length_escapedWord s

/-- The words of a line with a space between every two of them. -/
def wordsFrom? (p : Platform) (s : List Char) : Option (List (List Char)) :=
  match h : p.word? s with
  | none => none
  | some (word, []) => some [word]
  | some (word, c :: rest) =>
      have : rest.length < s.length := length_of_word? h
      if c = ' ' then (p.wordsFrom? rest).map (word :: ·) else none
termination_by s.length

/-- The words that a reader finds on a line. -/
def words? (p : Platform) (line : String) : Option (List String) :=
  (p.wordsFrom? line.toList).map (·.map String.ofList)

/-! ## One word -/

/-- What may stand behind a word: nothing, or a space and more words. -/
def Follows (rest : List Char) : Prop := ∀ c ∈ rest.head?, c = ' '

theorem escapedWord_cons {c : Char} {s : List Char} (hc : c ≠ ' ')
    (h : c = '\\' → s.head? ≠ some ' ') :
    escapedWord (c :: s) = (c :: (escapedWord s).1, (escapedWord s).2) := by
  rw [escapedWord]
  · rintro t rfl rfl
    exact h rfl rfl
  · exact hc

/-- A word with a backslash before each space. -/
def escape (word : List Char) : List Char :=
  word.flatMap fun c => if c = ' ' then ['\\', ' '] else [c]

theorem escape_cons_of_ne {c : Char} (hc : c ≠ ' ') (word : List Char) :
    escape (c :: word) = c :: escape word := by
  rw [escape, List.flatMap_cons, if_neg hc]
  rfl

theorem head?_escape_append_ne {word : List Char} (h : word ≠ []) (rest : List Char) :
    (escape word ++ rest).head? ≠ some ' ' := by
  obtain ⟨c, word, rfl⟩ := List.exists_cons_of_ne_nil h
  by_cases hc : c = ' '
  · subst hc
    nofun
  · rw [escape_cons_of_ne hc]
    exact fun heq => hc (Option.some.inj heq)

theorem escape_eq_self {word : List Char} (h : ' ' ∉ word) : escape word = word := by
  induction word with
  | nil => rfl
  | cons c word ih =>
    obtain ⟨hc, hword⟩ := List.ne_and_not_mem_of_not_mem_cons h
    rw [escape_cons_of_ne hc.symm, ih hword]

theorem escapedWord_escape_append {word rest : List Char} (hrest : Follows rest)
    (hlast : rest = [] ∨ word.getLast? ≠ some '\\') :
    escapedWord (escape word ++ rest) = (word, rest) := by
  induction word with
  | nil =>
    cases rest with
    | nil => rfl
    | cons d rest =>
      obtain rfl : d = ' ' := hrest d rfl
      rfl
  | cons c word ih =>
    have hword : rest = [] ∨ word.getLast? ≠ some '\\' := by
      refine hlast.imp_right fun hne heq => hne ?_
      rw [List.getLast?_cons, heq]
      rfl
    by_cases hc : c = ' '
    · subst hc
      have hescape : escape (' ' :: word) = '\\' :: ' ' :: escape word := rfl
      rw [hescape, List.cons_append, List.cons_append, escapedWord, ih hword]
    · rw [escape_cons_of_ne hc, List.cons_append, escapedWord_cons hc ?_, ih hword]
      rintro rfl
      -- Behind a backslash there is the rest of the word, or the end of the line.
      cases word with
      | nil =>
        obtain rfl := hlast.resolve_right (not_not.mpr rfl)
        nofun
      | cons d word => exact head?_escape_append_ne (List.cons_ne_nil d word) rest

theorem quotedWord?_quoted {word : List Char} (h : '"' ∉ word) (rest : List Char) :
    quotedWord? ('"' :: (word ++ '"' :: rest)) = some (word, rest) := by
  have hpass : ∀ c ∈ word, (c != '"') = true := fun c hc =>
    bne_iff_ne.mpr fun heq => h (heq ▸ hc)
  have hstop : ∀ c ∈ ('"' :: rest).head?, (c != '"') = false := by
    rintro c ⟨⟩
    rfl
  rw [quotedWord?, dropWhile_append_of_stop hpass hstop, takeWhile_append_of_stop hpass hstop]

theorem quotedWord?_plain {word rest : List Char} (hquote : '"' ∉ word) (hspace : ' ' ∉ word)
    (hrest : Follows rest) : quotedWord? (word ++ rest) = some (word, rest) := by
  have hpass : ∀ c ∈ word, (c != ' ') = true := fun c hc =>
    bne_iff_ne.mpr fun heq => hspace (heq ▸ hc)
  have hstop : ∀ c ∈ rest.head?, (c != ' ') = false := fun c hc => by rw [hrest c hc]; rfl
  rw [quotedWord?, dropWhile_append_of_stop hpass hstop, takeWhile_append_of_stop hpass hstop]
  · intro s heq
    cases word with
    | nil =>
      have hd := hrest '"' (congrArg List.head? heq)
      exact absurd hd (by decide)
    | cons c word =>
      obtain ⟨rfl, -⟩ := List.cons.inj heq
      exact hquote List.mem_cons_self

/-- Words that can be told apart when they are rendered. -/
def Legible : Platform → List String → Prop
  | .unix, words => ∀ word ∈ words.dropLast, word.toList.getLast? ≠ some '\\'
  | .windows, words => ∀ word ∈ words, '"' ∉ word.toList

namespace Legible

variable {p : Platform} {word next : String} {words : List String}

theorem tail (h : p.Legible (word :: next :: words)) : p.Legible (next :: words) := by
  cases p with
  | unix => exact fun w hw => h w (List.mem_cons_of_mem _ hw)
  | windows => exact fun w hw => h w (List.mem_cons_of_mem _ hw)

end Legible

theorem toList_renderWord_unix (word : String) :
    (CommandLine.renderWord .unix word).toList = escape word.toList := by
  rw [CommandLine.renderWord]
  split
  · exact String.toList_ofList
  · next h => exact (escape_eq_self (by simpa using h)).symm

theorem quotedWord?_renderWord_append {word : String} {rest : List Char} (h : '"' ∉ word.toList)
    (hrest : Follows rest) :
    quotedWord? ((CommandLine.renderWord .windows word).toList ++ rest) =
      some (word.toList, rest) := by
  rw [CommandLine.renderWord]
  split
  · have hquoted : (quotePath word .windows).toList ++ rest =
        '"' :: (word.toList ++ '"' :: rest) := by simp [quotePath]
    rw [hquoted, quotedWord?_quoted h]
  · next hspace => exact quotedWord?_plain h (by simpa using hspace) hrest

/-- A word is read off the front of what it is rendered as. -/
theorem word?_renderWord_append {p : Platform} {word : String} {words : List String}
    (h : p.Legible (word :: words)) {rest : List Char} (hrest : Follows rest)
    (hlast : words = [] → rest = []) :
    p.word? ((CommandLine.renderWord p word).toList ++ rest) = some (word.toList, rest) := by
  cases p with
  | unix =>
    rw [word?, toList_renderWord_unix, escapedWord_escape_append hrest]
    cases words with
    | nil => exact .inl (hlast rfl)
    | cons next words => exact .inr (h word List.mem_cons_self)
  | windows => exact quotedWord?_renderWord_append (h word List.mem_cons_self) hrest

/-! ## All words -/

theorem wordsFrom?_of_last {p : Platform} {s word : List Char}
    (h : p.word? s = some (word, [])) : p.wordsFrom? s = some [word] := by
  unfold wordsFrom?
  split
  · next hnone => cases h.symm.trans hnone
  · next hsome => cases h.symm.trans hsome; rfl
  · next hsome => cases h.symm.trans hsome

theorem wordsFrom?_of_space {p : Platform} {s word rest : List Char}
    (h : p.word? s = some (word, ' ' :: rest)) :
    p.wordsFrom? s = (p.wordsFrom? rest).map (word :: ·) := by
  rw [wordsFrom?]
  split
  · next hnone => cases h.symm.trans hnone
  · next hsome => cases h.symm.trans hsome
  · next hsome =>
    cases h.symm.trans hsome
    rfl

/-- The line that some words are rendered as. -/
def line (p : Platform) (words : List String) : List Char :=
  join [' '] (words.map fun word => (CommandLine.renderWord p word).toList)

theorem line_cons_cons (p : Platform) (word next : String) (words : List String) :
    p.line (word :: next :: words) =
      (CommandLine.renderWord p word).toList ++ ' ' :: p.line (next :: words) :=
  join_cons_cons ..

theorem wordsFrom?_line {p : Platform} {word : String} {words : List String}
    (h : p.Legible (word :: words)) :
    p.wordsFrom? (p.line (word :: words)) = some ((word :: words).map String.toList) := by
  induction words generalizing word with
  | nil =>
    have hword : p.word? ((CommandLine.renderWord p word).toList ++ []) = some (word.toList, []) :=
      word?_renderWord_append h nofun fun _ => rfl
    rw [List.append_nil] at hword
    exact wordsFrom?_of_last hword
  | cons next words ih =>
    have hspace : Follows (' ' :: p.line (next :: words)) := by
      rintro c ⟨⟩
      rfl
    rw [line_cons_cons, wordsFrom?_of_space (word?_renderWord_append h hspace nofun), ih h.tail]
    rfl

/-- Legible words are read back from the line that they are rendered as. -/
theorem words?_render {p : Platform} {c : CommandLine} (h : p.Legible c.words) :
    p.words? (c.render p) = some c.words := by
  have hline : (c.render p).toList = p.line c.words := by
    rw [CommandLine.render, joinWith, String.toList_ofList, List.map_map]
    rfl
  rw [words?, hline, CommandLine.words, wordsFrom?_line h, Option.map_some, List.map_map]
  simp

end Platform

/-- A command line whose words can be told apart is read back from its rendering, word by word; with
backslashes no word but the last may end with one, and with double quotes no word may have one. So
no two such command lines are rendered alike. -/
theorem renderings_read_back (p : Platform) :
    (∀ c : CommandLine, p.Legible c.words →
      p.words? (c.render p) = some (c.program :: c.args)) ∧
    ∀ c c' : CommandLine, p.Legible c.words → p.Legible c'.words →
      c.render p = c'.render p → c = c' := by
  refine ⟨fun c h => Platform.words?_render h, fun c c' h h' heq => ?_⟩
  have hwords : some c.words = some c'.words := by
    rw [← Platform.words?_render h, heq, Platform.words?_render h']
  obtain ⟨program, args⟩ := c
  obtain ⟨program', args'⟩ := c'
  obtain ⟨rfl, rfl⟩ := List.cons.inj (Option.some.inj hwords)
  rfl

/-- Words are empty, start or end with spaces, or have backslashes before spaces, and the last one
ends with a backslash. -/
theorem renderings_read_back_spaces :
    let c : CommandLine := ⟨"", ["a\\ b", "", "  ", "C:\\My Code", "\\"]⟩
    Platform.unix.Legible c.words ∧ c.render .unix = " a\\\\ b  \\ \\  C:\\My\\ Code \\" ∧
      Platform.unix.words? " a\\\\ b  \\ \\  C:\\My\\ Code \\" = some ("" :: c.args) ∧
      Platform.windows.Legible c.words ∧
      Platform.windows.words? (c.render .windows) = some ("" :: c.args) ∧
      ∀ c' : CommandLine, Platform.windows.Legible c'.words →
        c'.render .windows = c.render .windows → c' = c := by
  intro c
  have hunix : Platform.unix.Legible c.words := by
    simp only [Platform.Legible, c]
    decide
  have hwindows : Platform.windows.Legible c.words := by
    simp only [Platform.Legible, c]
    decide
  have hrender : c.render .unix = " a\\\\ b  \\ \\  C:\\My\\ Code \\" := by decide
  refine ⟨hunix, hrender, ?_, hwindows, (renderings_read_back .windows).1 c hwindows,
    fun c' h' heq => (renderings_read_back .windows).2 c' c h' hwindows heq⟩
  rw [← hrender]
  exact (renderings_read_back .unix).1 c hunix

end LintDesk
