import Mathlib.Data.List.Basic
import LintDesk.Regex.Basic

/-! # The way that a sequence of expressions prefers

A sequence is matched piece by piece: of the ways of its first piece, it prefers the first one that
the rest can go on from. So there are two things to know of a sequence at a place. One is what it
takes there, with the groups on the way. The other is whether it accepts what is there at all: when
a piece could take more or less than it should, the rest must accept none of what would remain.

Texts are cut in two or more parts here, `p` being what lies behind, and places are named by what
is before and after them.
-/

namespace LintDesk.Regex

open LintDesk.Unicode

variable {n : Node} {ms ns : List Node} {s : CharSet} {p t u v : List Char}
  {gs hs : List (Nat × List Char)}

/-! ## Places -/

namespace Cursor

/-- The place between two parts of a text. -/
def between (p s : List Char) : Cursor := ⟨p.reverse, s, p.length⟩

@[simp] theorem after_between (p s : List Char) : (between p s).after = s := rfl

@[simp] theorem offset_between (p s : List Char) : (between p s).offset = p.length := rfl

@[simp] theorem textUpTo_between (p u v : List Char) :
    (between p (u ++ v)).textUpTo (between (p ++ u) v) = u := by
  simp [textUpTo]

theorem step?_between_cons (p : List Char) (x : Char) (v : List Char) :
    (between p (x :: v)).step? s = if s.mem x then some (between (p ++ [x]) v) else none := by
  simp [step?, between]

end Cursor

open Cursor

/-! ## What is taken and what is accepted -/

/-- The way that a sequence prefers at a place. -/
def preferred (ns : List Node) (c : Cursor) : Option Way := ((Node.ofList ns).ways c).head?

/-- Behind `p`, the sequence prefers to match `u` and to leave `v`, with the groups `gs`. -/
def Takes (ns : List Node) (p u v : List Char) (gs : List (Nat × List Char)) : Prop :=
  preferred ns (between p (u ++ v)) = some ⟨between (p ++ u) v, gs⟩

/-- Behind `p`, the sequence matches the text `v` or a front part of it. -/
def Accepts (ns : List Node) (p v : List Char) : Prop := preferred ns (between p v) ≠ none

theorem Takes.accepts (h : Takes ns p u v gs) : Accepts ns p (u ++ v) := by
  rw [Accepts, h]
  exact Option.some_ne_none _

namespace Way

@[simp] theorem stop_stay (c : Cursor) : (stay c).stop = c := rfl

@[simp] theorem append_stay (w : Way) : w.append (stay w.stop) = w := rfl

@[simp] theorem stay_append (c : Cursor) : (stay c).append = id := by
  funext w
  simp [append, stay]

@[simp] theorem head?_distinct (ws : List Way) : (distinct [] ws).head? = ws.head? := by
  cases ws with
  | nil => rfl
  | cons w ws => simp [distinct]

end Way

@[simp] theorem preferred_nil (c : Cursor) : preferred [] c = some (.stay c) := rfl

theorem preferred_singleton (n : Node) (c : Cursor) : preferred [n] c = (n.ways c).head? := rfl

/-- Of the ways of the first piece, the first one that the rest can go on from is preferred. -/
theorem preferred_cons (n : Node) (ns : List Node) (c : Cursor) :
    preferred (n :: ns) c =
      (n.ways c).findSome? fun w => (preferred ns w.stop).map w.append := by
  cases ns with
  | nil =>
    rw [preferred_singleton]
    cases n.ways c with
    | nil => rfl
    | cons w ws => simp
  | cons m ns =>
    change (Way.andThen (n.ways c) (Node.ofList (m :: ns)).ways).head? = _
    rw [Way.andThen, Way.head?_distinct, List.head?_flatMap]
    simp only [List.head?_map]
    rfl

theorem preferred_cons_eq_none_iff {c : Cursor} :
    preferred (n :: ns) c = none ↔ ∀ w ∈ n.ways c, preferred ns w.stop = none := by
  simp [preferred_cons]

/-- What the front of a sequence refuses, the sequence refuses. -/
theorem preferred_append_of_none {c : Cursor} (h : preferred ms c = none) :
    preferred (ms ++ ns) c = none := by
  induction ms generalizing c with
  | nil => cases h
  | cons m ms ih =>
    rw [List.cons_append, preferred_cons_eq_none_iff]
    rw [preferred_cons_eq_none_iff] at h
    exact fun w hw => ih (h w hw)

/-- A sequence goes the way that its front prefers, if the rest can go on from there. -/
theorem preferred_append_of_some {c : Cursor} {w v : Way} (h : preferred ms c = some w)
    (hv : preferred ns w.stop = some v) : preferred (ms ++ ns) c = some (w.append v) := by
  induction ms generalizing c w with
  | nil =>
    obtain rfl : Way.stay c = w := Option.some.inj h
    rwa [Way.stay_append]
  | cons m ms ih =>
    rw [preferred_cons, List.findSome?_eq_some_iff] at h
    obtain ⟨before, x, after, hways, hx, hbefore⟩ := h
    obtain ⟨y, hy, rfl⟩ := Option.map_eq_some_iff.mp hx
    rw [List.cons_append, preferred_cons, List.findSome?_eq_some_iff]
    refine ⟨before, x, after, hways, ?_, fun z hz => ?_⟩
    · rw [ih hy hv]
      simp [Way.append]
    · have hnone : preferred ms z.stop = none := by simpa using hbefore z hz
      rw [preferred_append_of_none hnone]
      rfl

theorem takes_nil (p v : List Char) : Takes [] p [] v [] := by
  simp [Takes, Way.stay]

/-- What the front takes on its own, it takes in the sequence, if the rest goes on from there. -/
theorem Takes.append (h : Takes ms p t (u ++ v) hs) (h' : Takes ns (p ++ t) u v gs) :
    Takes (ms ++ ns) p (t ++ u) v (gs ++ hs) := by
  rw [Takes, List.append_assoc, preferred_append_of_some h h', Way.append, List.append_assoc]

theorem Takes.cons (h : Takes [n] p t (u ++ v) hs) (h' : Takes ns (p ++ t) u v gs) :
    Takes (n :: ns) p (t ++ u) v (gs ++ hs) := h.append h'

theorem accepts_nil (p v : List Char) : Accepts [] p v := Option.some_ne_none _

theorem Accepts.of_append (h : Accepts (ms ++ ns) p v) : Accepts ms p v :=
  fun hnone => h (preferred_append_of_none hnone)

theorem accepts_cons_iff :
    Accepts (n :: ns) p v ↔ ∃ w ∈ n.ways (between p v), preferred ns w.stop ≠ none := by
  rw [Accepts, ne_eq, preferred_cons_eq_none_iff]
  simp

/-! ## Looks and groups -/

theorem takes_look {l : Look} (h : l.holds (between p v) = true) : Takes [.look l] p [] v [] := by
  simp [Takes, preferred_singleton, Node.ways, h, Way.stay]

theorem accepts_look_iff {l : Look} :
    Accepts (.look l :: ns) p v ↔ l.holds (between p v) = true ∧ Accepts ns p v := by
  rw [accepts_cons_iff]
  by_cases h : l.holds (between p v) = true
  · simp [Node.ways, h, Accepts]
  · simp [Node.ways, h]

@[simp] theorem textStart_holds_between : Look.holds (between p v) .textStart = true ↔ p = [] := by
  simp [Look.holds, between]

@[simp] theorem textEnd_holds_between : Look.holds (between p v) .textEnd = true ↔ v = [] := by
  simp [Look.holds]

theorem Takes.group (i : Nat) (name : Option String) (h : Takes [n] p u v gs) :
    Takes [.group i name n] p u v ((i, u) :: gs) := by
  rw [Takes, preferred_singleton] at h
  rw [Takes, preferred_singleton]
  simp [Node.ways, h]

theorem accepts_group_iff {i : Nat} {name : Option String} :
    Accepts (.group i name n :: ns) p v ↔ Accepts (n :: ns) p v := by
  simp [accepts_cons_iff, Node.ways]

/-! ## Letters -/

/-- The expressions for the characters of a text. -/
def letters (t : List Char) : List Node := t.map fun c => .set (.ofChar c)

@[simp] theorem length_letters (t : List Char) : (letters t).length = t.length := by simp [letters]

@[simp] theorem mem_ofChar {c x : Char} : (CharSet.ofChar c).mem x = true ↔ x = c := by
  have hcode : x.toNat = c.toNat ↔ x = c := Char.toNat_inj
  rw [← hcode]
  simp only [CharSet.ofChar, CharSet.ofRange, Nat.le_refl, if_true, CharSet.mem,
    CharSet.memRanges]
  split
  · simp; omega
  · simp; omega

theorem takes_letters (p t v : List Char) : Takes (letters t) p t v [] := by
  induction t generalizing p with
  | nil => exact takes_nil p v
  | cons c t ih =>
    have hc : Takes [.set (.ofChar c)] p [c] (t ++ v) [] := by
      simp [Takes, preferred_singleton, Node.ways, step?_between_cons, Way.stay]
    exact hc.cons (ih (p ++ [c]))

theorem accepts_letters_iff :
    Accepts (letters t ++ ns) p v ↔ ∃ v', v = t ++ v' ∧ Accepts ns (p ++ t) v' := by
  induction t generalizing p v with
  | nil => simp [letters]
  | cons c t ih =>
    rw [letters, List.map_cons, List.cons_append, accepts_cons_iff]
    cases v with
    | nil => simp [Node.ways, step?]
    | cons x v =>
      by_cases hx : x = c
      · subst hx
        have := ih (p := p ++ [x]) (v := v)
        simpa [Node.ways, step?_between_cons, Accepts, letters] using this
      · simp [Node.ways, step?_between_cons, hx]

theorem accepts_letters_iff_starts : Accepts (letters t) p v ↔ t <+: v := by
  rw [← List.append_nil (letters t), accepts_letters_iff]
  constructor
  · rintro ⟨v', rfl, -⟩
    exact List.prefix_append t v'
  · rintro ⟨v', rfl⟩
    exact ⟨v', rfl, accepts_nil (p ++ t) v'⟩

/-! ## Choices -/

theorem head?_ways_choice {ms : List Node} (h : ms ≠ []) (c : Cursor) :
    ((Node.choice ms).ways c).head? = ms.findSome? fun m => (m.ways c).head? := by
  induction ms with
  | nil => exact absurd rfl h
  | cons m ms ih =>
    cases ms with
    | nil =>
      change (m.ways c).head? = _
      rw [List.findSome?_singleton]
    | cons m' ms =>
      change (Way.distinct [] (m.ways c ++ (Node.choice (m' :: ms)).ways c)).head? = _
      rw [Way.head?_distinct, List.head?_append, ih (List.cons_ne_nil _ _),
        List.findSome?_cons (a := m)]
      cases (m.ways c).head? with
      | none => rfl
      | some w => rfl

/-- The choice between several words. -/
def words (ts : List (List Char)) : Node := .choice (ts.map fun t => .ofList (letters t))

theorem preferred_words {ts : List (List Char)} (h : ts ≠ []) (c : Cursor) :
    preferred [words ts] c = ts.findSome? fun t => preferred (letters t) c := by
  rw [preferred_singleton, words, head?_ways_choice (by simpa using h), List.findSome?_map]
  rfl

/-- Of several words, the first one that the text goes on with is taken. -/
theorem takes_words (before : List (List Char)) {after : List (List Char)}
    (h : ∀ w ∈ before, ¬w <+: t ++ v) :
    Takes [words (before ++ t :: after)] p t v [] := by
  rw [Takes, preferred_words (by simp), List.findSome?_eq_some_iff]
  refine ⟨before, t, after, rfl, takes_letters p t v, fun w hw => ?_⟩
  by_contra hne
  exact h w hw (accepts_letters_iff_starts.mp hne)

theorem exists_prefix_of_accepts_words {ts : List (List Char)} (hts : ts ≠ [])
    (h : Accepts (words ts :: ns) p v) : ∃ t ∈ ts, t <+: v := by
  have hfront : Accepts ([words ts] ++ ns) p v := h
  have hwords : Accepts [words ts] p v := hfront.of_append
  rw [Accepts, preferred_words hts, ne_eq, List.findSome?_eq_none_iff] at hwords
  push Not at hwords
  obtain ⟨t, ht, hne⟩ := hwords
  exact ⟨t, ht, accepts_letters_iff_starts.mp hne⟩

/-! ## Repeated characters -/

/-- The places behind more and more characters of a set. -/
theorem getElem?_stops_eq_some_iff {k : Nat} {c : Cursor} :
    (stops s t.length p.reverse t p.length)[k]? = some c ↔ ∃ u v, t = u ++ v ∧
      (∀ x ∈ u, s.mem x = true) ∧ u.length = k ∧ c = between (p ++ u) v := by
  induction t generalizing p k with
  | nil =>
    rw [show stops s [].length p.reverse [] p.length = [between p []] from rfl]
    cases k with
    | zero => simp [@eq_comm _ c]
    | succ k => simp
  | cons x t ih =>
    cases k with
    | zero =>
      have hhead : (stops s (x :: t).length p.reverse (x :: t) p.length)[0]? =
          some (between p (x :: t)) := rfl
      rw [hhead, Option.some_inj]
      constructor
      · rintro rfl
        exact ⟨[], x :: t, rfl, nofun, rfl, by rw [List.append_nil]⟩
      · rintro ⟨u, v, ht, -, hu, rfl⟩
        obtain rfl := List.eq_nil_of_length_eq_zero hu
        rw [ht, List.nil_append, List.append_nil]
    | succ k =>
      have hnext : p.length + 1 = (p ++ [x]).length ∧ x :: p.reverse = (p ++ [x]).reverse := by
        simp
      simp only [List.length_cons, stops, hnext.1, hnext.2, List.getElem?_cons_succ]
      constructor
      · intro h
        split at h
        · next hx =>
          obtain ⟨u, v, rfl, hu, rfl, rfl⟩ := ih.mp h
          exact ⟨x :: u, v, rfl, List.forall_mem_cons.mpr ⟨hx, hu⟩, rfl, by simp⟩
        · cases h
      · rintro ⟨_ | ⟨y, u⟩, v, ht, hu, hk, rfl⟩
        · cases hk
        · obtain ⟨rfl, rfl⟩ := List.cons.inj ht
          obtain ⟨hx, hu⟩ := List.forall_mem_cons.mp hu
          rw [if_pos hx, ih]
          exact ⟨u, v, rfl, hu, Nat.succ.inj hk, by simp⟩

theorem pairwise_stops (s : CharSet) (p t : List Char) :
    (stops s t.length p.reverse t p.length).Pairwise (·.offset < ·.offset) := by
  rw [List.pairwise_iff_getElem]
  intro i j hi hj hij
  obtain ⟨u, _, -, -, hu, hc⟩ := getElem?_stops_eq_some_iff.mp (List.getElem?_eq_getElem hi)
  obtain ⟨u', _, -, -, hu', hc'⟩ := getElem?_stops_eq_some_iff.mp (List.getElem?_eq_getElem hj)
  rw [hc, hc', offset_between, offset_between, List.length_append, List.length_append]
  omega

/-- The places where a repetition can stop. -/
theorem mem_run_iff {least : Nat} {greedy : Bool} {w : Way} :
    w ∈ run s least none greedy (between p t) ↔ ∃ u v, t = u ++ v ∧
      (∀ x ∈ u, s.mem x = true) ∧ least ≤ u.length ∧ w = .stay (between (p ++ u) v) := by
  have hdrop : ∀ c, c ∈ (stops s t.length p.reverse t p.length).drop least ↔ ∃ u v, t = u ++ v ∧
      (∀ x ∈ u, s.mem x = true) ∧ least ≤ u.length ∧ c = between (p ++ u) v := by
    intro c
    simp only [List.mem_iff_getElem?, List.getElem?_drop, getElem?_stops_eq_some_iff]
    constructor
    · rintro ⟨k, u, v, rfl, hu, hk, rfl⟩
      exact ⟨u, v, rfl, hu, hk ▸ Nat.le_add_right least k, rfl⟩
    · rintro ⟨u, v, rfl, hu, hleast, rfl⟩
      exact ⟨u.length - least, u, v, rfl, hu, (Nat.add_sub_cancel' hleast).symm, rfl⟩
  have hmem : w ∈ run s least none greedy (between p t) ↔
      ∃ c ∈ (stops s t.length p.reverse t p.length).drop least, .stay c = w := by
    cases greedy <;> simp [run, between, -List.map_drop]
  rw [hmem]
  constructor
  · rintro ⟨c, hc, rfl⟩
    obtain ⟨u, v, rfl, hu, hleast, rfl⟩ := (hdrop c).mp hc
    exact ⟨u, v, rfl, hu, hleast, rfl⟩
  · rintro ⟨u, v, rfl, hu, hleast, rfl⟩
    exact ⟨_, (hdrop _).mpr ⟨u, v, rfl, hu, hleast, rfl⟩, rfl⟩

/-- Whether a repetition prefers the text `u` to the text `u'`, both of which it could take. -/
def Prefers (greedy : Bool) (u u' : List Char) : Prop :=
  if greedy then u'.length < u.length else u.length < u'.length

theorem pairwise_run (s : CharSet) (least : Nat) (greedy : Bool) (p t : List Char) :
    (run s least none greedy (between p t)).Pairwise fun w w' =>
      if greedy then w'.stop.offset < w.stop.offset else w.stop.offset < w'.stop.offset := by
  have hdrop := (pairwise_stops s p t).sublist (List.drop_sublist least _)
  cases greedy with
  | true =>
    simp only [run, between, Option.getD_none, if_true, List.pairwise_map, List.pairwise_reverse]
    exact hdrop
  | false =>
    simp only [run, between, Option.getD_none, List.pairwise_map]
    exact hdrop

/-- A repetition stops behind `u` if what follows can go on from there, and cannot go on from any
place where the repetition would rather stop. -/
theorem findSome?_run {α : Type} {f : Way → Option α} {a : α} {least : Nat} {greedy : Bool}
    (hu : ∀ x ∈ u, s.mem x = true) (hleast : least ≤ u.length)
    (hbefore : ∀ u' v', u' ++ v' = u ++ v → (∀ x ∈ u', s.mem x = true) → least ≤ u'.length →
      Prefers greedy u' u → f (.stay (between (p ++ u') v')) = none)
    (h : f (.stay (between (p ++ u) v)) = some a) :
    (run s least none greedy (between p (u ++ v))).findSome? f = some a := by
  obtain ⟨before, after, hrun⟩ :=
    List.append_of_mem (mem_run_iff.mpr ⟨u, v, rfl, hu, hleast, rfl⟩ :
      Way.stay (between (p ++ u) v) ∈ run s least none greedy (between p (u ++ v)))
  rw [List.findSome?_eq_some_iff]
  refine ⟨before, _, after, hrun, h, fun w hw => ?_⟩
  have hmem : w ∈ run s least none greedy (between p (u ++ v)) :=
    hrun ▸ List.mem_append_left _ hw
  obtain ⟨u', v', ht, hu', hleast', rfl⟩ := mem_run_iff.mp hmem
  refine hbefore u' v' ht.symm hu' hleast' ?_
  have hpair := pairwise_run s least greedy p (u ++ v)
  rw [hrun] at hpair
  have hoffset := (List.pairwise_append.mp hpair).2.2 _ hw _ List.mem_cons_self
  simpa [Prefers] using hoffset

section Repeated

variable {i least : Nat} {name : Option String} {greedy : Bool}

theorem Takes.repeated (hu : ∀ x ∈ u, s.mem x = true) (hleast : least ≤ u.length)
    (hbefore : ∀ u' v', u' ++ v' = u ++ (t ++ v) → (∀ x ∈ u', s.mem x = true) →
      Prefers greedy u' u → ¬Accepts ns (p ++ u') v')
    (h : Takes ns (p ++ u) t v gs) :
    Takes (.rep (.set s) least none greedy :: ns) p (u ++ t) v gs := by
  rw [Takes, preferred_cons, List.append_assoc]
  refine findSome?_run hu hleast (fun u' v' ht hu' _ hb => ?_) ?_
  · have hnone := not_not.mp (hbefore u' v' ht hu' hb)
    rw [Way.stop_stay, hnone]
    rfl
  · rw [Way.stop_stay, h]
    simp

/-- The same for a repetition whose text is kept. -/
theorem Takes.kept (i : Nat) (name : Option String) (greedy : Bool) (hu : ∀ x ∈ u, s.mem x = true)
    (hleast : least ≤ u.length)
    (hbefore : ∀ u' v', u' ++ v' = u ++ (t ++ v) → (∀ x ∈ u', s.mem x = true) →
      Prefers greedy u' u → ¬Accepts ns (p ++ u') v')
    (h : Takes ns (p ++ u) t v gs) :
    Takes (.group i name (.rep (.set s) least none greedy) :: ns) p (u ++ t) v
      (gs ++ [(i, u)]) := by
  rw [Takes, preferred_cons, Node.ways, List.findSome?_map, List.append_assoc]
  refine findSome?_run hu hleast (fun u' v' ht hu' _ hb => ?_) ?_
  · have hnone := not_not.mp (hbefore u' v' ht hu' hb)
    simp [hnone]
  · rw [Takes] at h
    simp [h, Way.append, Way.stay]

/-- A greedy repetition takes all the characters there are. -/
theorem takes_all (hu : ∀ x ∈ u, s.mem x = true) (hleast : least ≤ u.length)
    (hv : ∀ x ∈ v.head?, s.mem x = false) : Takes [.rep (.set s) least none true] p u v [] := by
  rw [← List.append_nil u]
  refine Takes.repeated hu hleast (fun u' v' ht hu' hb _ => ?_) (takes_nil _ _)
  obtain ⟨w, rfl⟩ : u <+: u' :=
    List.prefix_of_prefix_length_le (List.prefix_append u v) ⟨v', ht⟩ (Nat.le_of_lt hb)
  cases w with
  | nil => simp [Prefers] at hb
  | cons x w =>
    have hx : s.mem x = true := hu' x (List.mem_append_right _ List.mem_cons_self)
    have hhead : x ∈ v.head? := by
      have : (x :: w) ++ v' = v := by simpa using ht
      simp [← this]
    rw [hv x hhead] at hx
    cases hx

theorem accepts_repeated_iff :
    Accepts (.rep (.set s) least none greedy :: ns) p t ↔ ∃ u v, t = u ++ v ∧
      (∀ x ∈ u, s.mem x = true) ∧ least ≤ u.length ∧ Accepts ns (p ++ u) v := by
  rw [accepts_cons_iff]
  constructor
  · rintro ⟨w, hw, h⟩
    obtain ⟨u, v, rfl, hu, hleast, rfl⟩ := mem_run_iff.mp hw
    exact ⟨u, v, rfl, hu, hleast, h⟩
  · rintro ⟨u, v, rfl, hu, hleast, h⟩
    exact ⟨_, mem_run_iff.mpr ⟨u, v, rfl, hu, hleast, rfl⟩, h⟩

end Repeated

/-! ## Pieces that may be missing -/

/-- The ways of several pieces that may be missing. -/
theorem ways_optional (hms : 2 ≤ ms.length) (c : Cursor) :
    (Node.rep (.ofList ms) 0 (some 1) true).ways c =
      Way.distinct [] ((Node.ofList ms).ways c ++ [.stay c]) := by
  have hthread : ∀ (seen : List (Nat × Nat)) (ws : List Way),
      Way.thread (fun seen c => ([Way.stay c], seen)) seen ws = (ws, seen) := by
    intro seen ws
    induction ws with
    | nil => rfl
    | cons w ws ih => simp [Way.thread, ih]
  match ms, hms with
  | m :: m' :: ms, _ =>
    have hseq : Node.ofList (m :: m' :: ms) = .seq m (.ofList (m' :: ms)) := rfl
    rw [hseq]
    simp [Node.ways, repeated, exactly, atMost, hthread, Way.andThen, Way.prefer]

theorem Takes.optional (hms : 2 ≤ ms.length) (h : Takes ms p u v gs) :
    Takes [.rep (.ofList ms) 0 (some 1) true] p u v gs := by
  have hhead : ((Node.ofList ms).ways (between p (u ++ v))).head? =
      some ⟨between (p ++ u) v, gs⟩ := h
  rw [Takes, preferred_singleton, ways_optional hms, Way.head?_distinct, List.head?_append, hhead,
    Option.some_or]

/-- Pieces that are refused are missing. -/
theorem preferred_optional_of_refused (hms : 2 ≤ ms.length) (h : ¬Accepts ms p v) :
    preferred (.rep (.ofList ms) 0 (some 1) true :: ns) (between p v) =
      preferred ns (between p v) := by
  have hways : (Node.ofList ms).ways (between p v) = [] := List.head?_eq_none_iff.mp (not_not.mp h)
  rw [preferred_cons, ways_optional hms, hways]
  simp [Way.distinct]

/-! ## Searches -/

theorem search_between_cons (n : Node) (p : List Char) (x : Char) (v : List Char) :
    n.search p.reverse (x :: v) p.length = (n.matchAt? (between p (x :: v))).or
      (n.search (p ++ [x]).reverse v (p ++ [x]).length) := by
  rw [Node.search, between, List.reverse_append, List.length_append]
  cases n.matchAt? ⟨p.reverse, x :: v, p.length⟩ with
  | none => rfl
  | some groups => rfl

theorem search_of_matchAt? {groups : List (Nat × List Char)}
    (h : n.matchAt? (between p v) = some groups) : n.search p.reverse v p.length = some groups := by
  cases v with
  | nil => exact h
  | cons x v => rw [search_between_cons, h, Option.some_or]

/-- An expression that begins at the start of the text is found there. -/
theorem captures?_of_takes (h : Takes ns [] u v gs) :
    Regex.captures? ⟨.ofList (.look .textStart :: ns)⟩ (u ++ v) =
      some ⟨(0, u) :: gs, (Node.ofList (.look .textStart :: ns)).names⟩ := by
  have hstart : Takes [.look .textStart] [] [] (u ++ v) [] :=
    takes_look (textStart_holds_between.mpr rfl)
  have hhead : ((Node.ofList (.look .textStart :: ns)).ways (between [] (u ++ v))).head? =
      some ⟨between ([] ++ u) v, gs ++ []⟩ := hstart.cons h
  have hmatch : (Node.ofList (.look .textStart :: ns)).matchAt? (between [] (u ++ v)) =
      some ((0, u) :: gs) := by
    rw [Node.matchAt?, hhead, Option.map_some, textUpTo_between, List.append_nil]
  have hsearch : (Node.ofList (.look .textStart :: ns)).search [] (u ++ v) 0 =
      some ((0, u) :: gs) := search_of_matchAt? hmatch
  rw [Regex.captures?, hsearch]
  rfl

/-- It is not found where it is refused there. -/
theorem captures?_eq_none (h : ¬Accepts ns [] t) :
    Regex.captures? ⟨.ofList (.look .textStart :: ns)⟩ t = none := by
  have hmatch : ∀ p v, ¬(p = [] ∧ Accepts ns p v) →
      (Node.ofList (.look .textStart :: ns)).matchAt? (between p v) = none := by
    intro p v hp
    have hnone : preferred (.look .textStart :: ns) (between p v) = none := by
      by_contra hne
      exact hp (by simpa using accepts_look_iff.mp hne)
    rw [Node.matchAt?]
    exact congrArg (Option.map _) hnone
  have hsearch : ∀ p v, ¬(p = [] ∧ Accepts ns p v) →
      (Node.ofList (.look .textStart :: ns)).search p.reverse v p.length = none := by
    intro p v hp
    induction v generalizing p with
    | nil => exact hmatch p [] hp
    | cons x v ih =>
      rw [search_between_cons, hmatch p _ hp, Option.none_or]
      exact ih (p ++ [x]) (by simp)
  have hstart := hsearch [] t (by simpa using h)
  rw [Regex.captures?]
  exact congrArg (Option.map _) hstart

end LintDesk.Regex
