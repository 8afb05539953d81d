import LintDesk.Machine.Runner
import LintDesk.Proofs.Desk
import LintDesk.Proofs.Encoding
import LintDesk.Proofs.Printed

/-! # Output that comes in parts

What an analyzer writes is put together from parts: first all that went to one channel, then all
that went to the other one. A part that stops at the end of a line is read on its own. All that a
part before it has to do with it is that an issue is not reported twice.
-/

namespace LintDesk

open LintDesk.Text

/-! ## Complete lines -/

namespace Text

/-- The text stops at the end of a line: there is none, or its last character is a newline. -/
def EndsLine (s : List Char) : Prop := s = [] ∨ ∃ t, s = t ++ ['\n']

theorem EndsLine.append {s t : List Char} (hs : EndsLine s) (ht : EndsLine t) :
    EndsLine (s ++ t) := by
  rcases ht with rfl | ⟨t, rfl⟩
  · rwa [List.append_nil]
  · exact .inr ⟨s ++ t, (List.append_assoc ..).symm⟩

/-- Behind a newline the lines begin anew. -/
theorem linesAfter_append_newline (seen s t : List Char) :
    linesAfter seen (s ++ '\n' :: t) = linesAfter seen (s ++ ['\n']) ++ lines t := by
  induction s generalizing seen with
  | nil => rfl
  | cons c s ih =>
    rw [List.cons_append, List.cons_append]
    by_cases hc : c = '\n'
    · subst hc
      simp only [linesAfter, ih, List.cons_append]
    · rw [linesAfter.eq_3 _ _ _ hc, linesAfter.eq_3 _ _ _ hc, ih]

theorem EndsLine.lines_append {s : List Char} (h : EndsLine s) (t : List Char) :
    lines (s ++ t) = lines s ++ lines t := by
  rcases h with rfl | ⟨s, rfl⟩
  · rfl
  · rw [List.append_assoc]
    exact linesAfter_append_newline [] s t

end Text

/-! ## Bytes that end with a newline

The byte of a newline is part of no other character. So it is read as one whatever stands before it,
be it a character that has been cut short.
-/

namespace Text.Utf8

theorem readTail_append_newline (acc size n : Nat) (s : List UInt8) :
    (readTail acc size n (s ++ [10])).1.shown = (readTail acc size n s).1.shown ∧
      (readTail acc size n (s ++ [10])).2 = (readTail acc size n s).2 ++ [10] := by
  induction n generalizing acc size s with
  | zero => exact ⟨rfl, rfl⟩
  | succ n ih =>
    cases s with
    | nil => exact ⟨rfl, rfl⟩
    | cons b s =>
      simp only [List.cons_append, readTail]
      split
      · exact ih ..
      · exact ⟨rfl, rfl⟩

/-- A newline behind the bytes is left for later. -/
theorem item_append_newline (b : UInt8) (s : List UInt8) :
    (item b (s ++ [10])).1.shown = (item b s).1.shown ∧
      (item b (s ++ [10])).2 = (item b s).2 ++ [10] := by
  rw [item, item]
  split
  · exact ⟨rfl, rfl⟩
  · exact ⟨rfl, rfl⟩
  · next n _ =>
    cases s with
    | nil =>
      have hlow : ¬(secondRange b).1 ≤ 10 := by
        unfold secondRange
        split_ifs <;> decide
      simp only [List.nil_append, decide_eq_false hlow, Bool.false_and]
      exact ⟨rfl, rfl⟩
    | cons b' s =>
      dsimp only [List.cons_append]
      split
      · exact readTail_append_newline ..
      · exact ⟨rfl, rfl⟩

theorem lossy_append_newline (s : List UInt8) : lossy (s ++ [10]) = lossy s ++ ['\n'] := by
  induction hn : s.length using Nat.strong_induction_on generalizing s with
  | _ n ih =>
    cases s with
    | nil =>
      have hitem : item 10 [] = (.char '\n', []) := rfl
      rw [List.nil_append, lossy_cons, hitem, lossy_nil]
      rfl
    | cons b s =>
      obtain ⟨hshown, hrest⟩ := item_append_newline b s
      have hlt : (item b s).2.length < n := by
        rw [← hn]
        exact Nat.lt_succ_of_le (item_length b s)
      rw [List.cons_append, lossy_cons, lossy_cons, hshown, hrest, ih _ hlt _ rfl,
        List.cons_append]

/-- Bytes that stop at the end of a line are read as a text that does. -/
theorem endsLine_lossy {bytes : List UInt8} (h : bytes = [] ∨ ∃ s, bytes = s ++ [10]) :
    EndsLine (lossy bytes) := by
  rcases h with rfl | ⟨s, rfl⟩
  · exact .inl lossy_nil
  · exact .inr ⟨lossy s, lossy_append_newline s⟩

end Text.Utf8

/-! ## Diagnostics of the parts -/

namespace ReportReader

theorem eraseDups_of_nodup {ds : List Diagnostic} (h : ds.Nodup) : ds.eraseDups = ds := by
  induction ds with
  | nil => rfl
  | cons d ds ih =>
    obtain ⟨hd, hds⟩ := List.nodup_cons.mp h
    have hkeep : ds.filter (fun b => !b == d) = ds :=
      List.filter_eq_self.mpr fun b hb => by simpa using ne_of_mem_of_not_mem hb hd
    rw [List.eraseDups_cons, hkeep, ih hds]

theorem eraseDups_filter (p : Diagnostic → Bool) (ds : List Diagnostic) :
    (ds.filter p).eraseDups = ds.eraseDups.filter p := by
  induction hn : ds.length using Nat.strong_induction_on generalizing ds with
  | _ n ih =>
    cases ds with
    | nil => rfl
    | cons d ds =>
      have hlt : (ds.filter fun b => !b == d).length < n := by
        rw [← hn]
        exact Nat.lt_succ_of_le (List.length_filter_le ..)
      by_cases hd : p d = true
      · rw [List.filter_cons_of_pos hd, List.eraseDups_cons, List.eraseDups_cons,
          List.filter_cons_of_pos hd, ← ih _ hlt _ rfl, List.filter_filter, List.filter_filter]
        simp only [Bool.and_comm]
      · rw [List.filter_cons_of_neg hd, List.eraseDups_cons, List.filter_cons_of_neg hd,
          ← ih _ hlt _ rfl, List.filter_filter]
        congr 1
        refine List.filter_congr fun b hb => ?_
        by_cases hbd : b = d
        · simp [hbd, hd]
        · simp [hbd]

variable (r : ReportReader)

theorem nodup_read (output : String) : (r.read output).Nodup := by
  rw [read, readLines_eq]
  exact nodup_eraseDups _

/-- What a part says is said, less what the part before it has said. -/
theorem read_append {a b : String} (h : EndsLine a.toList) :
    r.read (a ++ b) = r.read a ++ (r.read b).filter (· ∉ r.read a) := by
  have hlines : lines (a ++ b).toList = lines a.toList ++ lines b.toList := by
    rw [String.toList_append, h.lines_append]
  rw [read, read, read, hlines, readLines_eq, readLines_eq, readLines_eq, List.filterMap_append,
    List.eraseDups_append, List.removeAll, eraseDups_filter]
  refine congrArg (_ ++ ·) (List.filter_congr fun d _ => ?_)
  rw [List.elem_eq_mem, decide_not]
  simp only [List.mem_eraseDups]

/-- The diagnostics of both parts are found, without repetitions. -/
theorem read_append_eq_eraseDups {a b : String} (h : EndsLine a.toList) :
    r.read (a ++ b) = (r.read a ++ r.read b).eraseDups := by
  have hb : (r.read b).removeAll (r.read a) = (r.read b).filter (· ∉ r.read a) := by
    simp [List.removeAll]
  rw [List.eraseDups_append, eraseDups_of_nodup (r.nodup_read a), hb,
    eraseDups_of_nodup ((r.nodup_read b).filter _), r.read_append h]

/-- A part that says nothing new changes nothing. -/
theorem read_append_of_subset {a b : String} (h : EndsLine a.toList)
    (hb : r.read b ⊆ r.read a) : r.read (a ++ b) = r.read a := by
  have hnone : (r.read b).filter (· ∉ r.read a) = [] :=
    List.filter_eq_nil_iff.mpr fun d hd => by simpa using hb hd
  rw [r.read_append h, hnone, List.append_nil]

/-- What is inserted between two lines and says nothing changes nothing. -/
theorem read_insert {a n b : String} (ha : EndsLine a.toList) (hn : EndsLine n.toList)
    (hnone : r.read n = []) : r.read (a ++ n ++ b) = r.read (a ++ b) := by
  have han : EndsLine (a ++ n).toList := by
    rw [String.toList_append]
    exact ha.append hn
  have hsame : r.read (a ++ n) = r.read a :=
    r.read_append_of_subset ha (by rw [hnone]; exact List.nil_subset _)
  rw [r.read_append han, hsame, ← r.read_append ha]

end ReportReader

theorem Machine.textOf_eq_append (out err : List UInt8) :
    textOf out err = textOf out [] ++ textOf [] err := by
  rw [textOf, textOf, textOf, Utf8.lossy_nil, List.append_nil, List.nil_append,
    String.ofList_append]

theorem Machine.endsLine_textOf {out : List UInt8} (h : out = [] ∨ ∃ s, out = s ++ [10]) :
    EndsLine (textOf out []).toList := by
  rw [textOf, Utf8.lossy_nil, List.append_nil, String.toList_ofList]
  exact Utf8.endsLine_lossy h

/-- Behind complete lines a text is read as if it stood alone, save that nothing is said twice: the
diagnostics of both texts are found in their order, each at its first place. So what an analyzer
wrote to its second channel is found behind what it wrote to the first one, output that is repeated
says what it said once, and lines that say nothing may stand between any two lines. -/
theorem parts_read_apart (r : ReportReader) :
    (∀ a b : String, EndsLine a.toList →
      r.read (a ++ b) = (r.read a ++ r.read b).eraseDups) ∧
    (∀ out err : List UInt8, (out = [] ∨ ∃ s, out = s ++ [10]) →
      r.read (Machine.textOf out err) =
        r.read (Machine.textOf out []) ++
          (r.read (Machine.textOf [] err)).filter (· ∉ r.read (Machine.textOf out []))) ∧
    (∀ a : String, EndsLine a.toList → r.read (a ++ a) = r.read a) ∧
    ∀ a n b : String, EndsLine a.toList → EndsLine n.toList → r.read n = [] →
      r.read (a ++ n ++ b) = r.read (a ++ b) := by
  refine ⟨fun a b ha => r.read_append_eq_eraseDups ha, ?_, ?_, ?_⟩
  · intro out err hout
    rw [Machine.textOf_eq_append]
    exact r.read_append (Machine.endsLine_textOf hout)
  · intro a ha
    exact r.read_append_of_subset ha (List.Subset.refl _)
  · intro a n b ha hn hnone
    exact r.read_insert ha hn hnone

/-- Of two channels that both name line 5, the second one in a line that has no end. -/
theorem parts_read_apart_numbers :
    let r : ReportReader := ⟨[numberRule]⟩
    let issue (line : UInt32) : Diagnostic := ⟨"issue", ⟨line, 0⟩, .warning⟩
    r.read "7\r\n5\n" = [issue 6, issue 4] ∧ r.read "5\n3" = [issue 4, issue 2] ∧
      r.read ("7\r\n5\n" ++ "5\n3") = [issue 6, issue 4, issue 2] ∧
      r.read ("7\r\n5\n" ++ "7\r\n5\n") = [issue 6, issue 4] ∧
      r.read ("7\r\n5\n" ++ "done\n" ++ "5\n3") = [issue 6, issue 4, issue 2] ∧
      r.read (Machine.textOf [55, 10] [55, 10, 51]) = [issue 6, issue 2] := by
  intro r issue
  obtain ⟨happend, hchannels, htwice, hinsert⟩ := parts_read_apart r
  have hfirst : EndsLine "7\r\n5\n".toList := .inr ⟨"7\r\n5".toList, by decide +kernel⟩
  have hdone : EndsLine "done\n".toList := .inr ⟨"done".toList, by decide +kernel⟩
  have hwhole := happend _ "5\n3" hfirst
  refine ⟨by decide +kernel, by decide +kernel, hwhole.trans (by decide +kernel),
    (htwice _ hfirst).trans (by decide +kernel), ?_, ?_⟩
  · rw [hinsert _ _ _ hfirst hdone (by decide +kernel), hwhole]
    decide +kernel
  · rw [hchannels [55, 10] [55, 10, 51] (.inr ⟨[55], rfl⟩)]
    decide +kernel

end LintDesk
