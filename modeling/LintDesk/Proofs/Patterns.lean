import LintDesk.Glob.Search
import LintDesk.Proofs.Paths
import Mathlib.Data.List.Forall2

/-! # Patterns as texts

A character that has no meaning of its own in a pattern stands for itself. So a text without such
characters can be put before a pattern: it is read as it is, and its pieces come before those of
the pattern.
-/

namespace LintDesk.Glob

open LintDesk.Text

variable {s t m : List Char} {c : Char} {n : Nat} {start : Bool} {ts : List Token}

/-! ## Plain characters -/

theorem isPattern_cons (c : Char) (s : List Char) :
    isPattern (c :: s) = (isPattern [c] || isPattern s) := by
  simp [isPattern]

theorem isPattern_append (s t : List Char) : isPattern (s ++ t) = (isPattern s || isPattern t) :=
  List.any_append

theorem tokensWithin?_of_plain (hc : isPattern [c] = false) (n : Nat) (start : Bool)
    (s : List Char) : tokensWithin? (n + 1) start (c :: s) =
      (tokensWithin? n (c == '/') s).map (.char c :: ·) := by
  obtain ⟨⟨hstar, hmark⟩, hbracket⟩ : (c ≠ '*' ∧ c ≠ '?') ∧ c ≠ '[' := by
    simpa [isPattern] using hc
  rw [tokensWithin?] <;> assumption

/-- A plain text before a slash is read as it is, and a new piece begins behind it. -/
theorem tokensWithin?_append (hs : isPattern s = false) (n : Nat) (start : Bool) (t : List Char) :
    tokensWithin? (s.length + 1 + n) start (s ++ '/' :: t) =
      (tokensWithin? n true t).map ((s ++ ['/']).map Token.char ++ ·) := by
  induction s generalizing start with
  | nil =>
    rw [List.length_nil, Nat.zero_add, Nat.add_comm, List.nil_append,
      tokensWithin?_of_plain (by decide)]
    rfl
  | cons c s ih =>
    rw [isPattern_cons, Bool.or_eq_false_iff] at hs
    have hlength : (c :: s).length + 1 + n = s.length + 1 + n + 1 := by
      rw [List.length_cons]
      omega
    rw [hlength, List.cons_append, tokensWithin?_of_plain hs.1, ih hs.2, Option.map_map]
    rfl

theorem tokens?_append (hs : isPattern s = false) (t : List Char) : tokens? (s ++ '/' :: t) =
    (tokens? t).map ((s ++ ['/']).map Token.char ++ ·) := by
  have hlength : (s ++ '/' :: t).length + 1 = s.length + 1 + (t.length + 1) := by
    rw [List.length_append, List.length_cons]
    omega
  rw [tokens?, hlength, tokensWithin?_append hs, tokens?]

theorem tokensWithin?_plain (hs : isPattern s = false) (hn : s.length ≤ n) (start : Bool) :
    tokensWithin? n start s = some (s.map .char) := by
  induction s generalizing n start with
  | nil => rw [tokensWithin?]; rfl
  | cons c s ih =>
    rw [isPattern_cons, Bool.or_eq_false_iff] at hs
    obtain ⟨n, rfl⟩ : ∃ m, n = m + 1 := ⟨n - 1, by rw [List.length_cons] at hn; omega⟩
    rw [tokensWithin?_of_plain hs.1, ih hs.2 (Nat.le_of_succ_le_succ hn)]
    rfl

theorem tokens?_plain (hs : isPattern s = false) : tokens? s = some (s.map .char) :=
  tokensWithin?_plain hs (Nat.le_succ _) true

theorem literal?_map_char (s : List Char) : literal? (s.map .char) = some s := by
  induction s with
  | nil => rfl
  | cons c s ih =>
    rw [List.map_cons, literal?, ih]
    rfl

theorem eq_map_char_of_literal? (h : literal? ts = some m) : ts = m.map .char := by
  induction ts generalizing m with
  | nil =>
    obtain rfl := Option.some.inj h
    rfl
  | cons token ts ih =>
    cases token with
    | char c =>
      obtain ⟨more, hmore, rfl⟩ := Option.map_eq_some_iff.mp h
      rw [ih hmore, List.map_cons]
    | anyChar | anySequence | anyDirs | within | except => cases h

theorem literal?_of_set? {token : Token} {rest : List Char} (h : set? s = some (token, rest))
    (ts : List Token) : literal? (token :: ts) = none := by
  rw [set?.eq_def] at h
  split at h
  · obtain ⟨_, -, h⟩ := Option.bind_eq_some_iff.mp h
    cases h
    rfl
  · cases h
  · obtain ⟨_, -, h⟩ := Option.bind_eq_some_iff.mp h
    cases h
    rfl
  · cases h

/-- Tokens that stand for themselves stand for the text that they have been read from. -/
theorem eq_of_literal? (h : tokensWithin? n start s = some ts) (hm : literal? ts = some m) :
    m = s := by
  fun_induction tokensWithin? n start s generalizing ts m with
  | case1 =>
    cases h
    cases hm
    rfl
  | case2 | case4 | case6 | case8 | case9 => cases h
  | case5 =>
    cases h
    cases hm
  | case3 | case7 | case10 =>
    obtain ⟨_, -, rfl⟩ := Option.map_eq_some_iff.mp h
    cases hm
  | case11 n start s ih =>
    obtain ⟨⟨token, rest⟩, hset, h⟩ := Option.bind_eq_some_iff.mp h
    obtain ⟨_, -, rfl⟩ := Option.map_eq_some_iff.mp h
    rw [literal?_of_set? hset] at hm
    cases hm
  | case12 n start c s _ _ _ ih =>
    obtain ⟨more, hmore, rfl⟩ := Option.map_eq_some_iff.mp h
    rw [literal?] at hm
    obtain ⟨rest, hrest, rfl⟩ := Option.map_eq_some_iff.mp hm
    rw [ih hmore hrest]

/-! ## A pattern behind a path -/

section Behind

variable {ns : List FileName} {arg : List Char}

theorem piecesOf_eq (s : List Char) : piecesOf s =
    if (Path.split s).getLast? = some [] then (Path.split s).dropLast else Path.split s := rfl

theorem piecesOf_of_split (h : Path.split s = ns ++ Path.split t) :
    piecesOf s = ns ++ piecesOf t := by
  have hne := Path.split_ne_nil t
  rw [piecesOf_eq, piecesOf_eq, h, List.getLast?_append_of_ne_nil _ hne,
    List.dropLast_append_of_ne_nil hne]
  split <;> rfl

theorem mem_split_of_mem_piecesOf {piece : List Char} (h : piece ∈ piecesOf s) :
    piece ∈ Path.split s := by
  rw [piecesOf_eq] at h
  split at h
  · exact List.mem_of_mem_dropLast h
  · exact h

/-- All pieces with any characters are pieces of the pattern. -/
theorem mem_piecesOf {piece : List Char} (h : piece ∈ Path.split s) (hne : piece ≠ []) :
    piece ∈ piecesOf s := by
  rw [piecesOf_eq]
  split
  · rename_i hlast
    obtain ⟨front, hfront⟩ := List.getLast?_eq_some_iff.mp hlast
    rw [hfront, List.mem_append, List.mem_singleton] at h
    rw [hfront, List.dropLast_concat]
    exact h.resolve_right hne
  · exact h

theorem piecesOf_ne_nil (h : isPattern s = true) : piecesOf s ≠ [] := by
  obtain ⟨c, hc, hspecial⟩ := List.any_eq_true.mp h
  have hslash : (c == '/') = false := by
    refine beq_false_of_ne ?_
    rintro rfl
    cases hspecial
  obtain ⟨piece, hpiece, hin⟩ := exists_mem_splitWhere (p := (· == '/')) hc hslash
  exact List.ne_nil_of_mem (mem_piecesOf hpiece (List.ne_nil_of_mem hin))

section MapM

variable {α β : Type} {f : α → Option β} {l : List α} {l' : List β}

theorem forall₂_of_mapM (h : l.mapM f = some l') : List.Forall₂ (fun a b => f a = some b) l l' := by
  induction l generalizing l' with
  | nil =>
    obtain rfl := Option.some.inj h
    exact .nil
  | cons a l ih =>
    rw [List.mapM_cons] at h
    obtain ⟨first, hfirst, h⟩ := Option.bind_eq_some_iff.mp h
    obtain ⟨others, hothers, h⟩ := Option.bind_eq_some_iff.mp h
    obtain rfl := Option.some.inj h
    exact .cons hfirst (ih hothers)

theorem exists_of_mem_mapM (h : l.mapM f = some l') {b : β} (hb : b ∈ l') :
    ∃ a ∈ l, f a = some b := by
  have hpairs := forall₂_of_mapM h
  obtain ⟨i, hi, rfl⟩ := List.getElem_of_mem hb
  have hil : i < l.length := hpairs.length_eq ▸ hi
  exact ⟨l[i], List.getElem_mem hil, hpairs.get hil hi⟩

theorem mapM_ne_nil (h : l.mapM f = some l') (hne : l ≠ []) : l' ≠ [] := fun hnil =>
  hne (List.forall₂_nil_right_iff.mp (hnil ▸ forall₂_of_mapM h))

end MapM

theorem mapM_tokens?_append (hplain : ∀ n ∈ ns, isPattern n = false) (pieces : List (List Char)) :
    (ns ++ pieces).mapM tokens? =
      (pieces.mapM tokens?).map (ns.map (List.map Token.char) ++ ·) := by
  induction ns with
  | nil => exact Option.map_id'.symm
  | cons n ns ih =>
    obtain ⟨hn, hns⟩ := List.forall_mem_cons.mp hplain
    rw [List.cons_append, List.mapM_cons, tokens?_plain hn, ih hns]
    cases pieces.mapM tokens? <;> rfl

theorem isPattern_flatMap (hplain : ∀ n ∈ ns, isPattern n = false) :
    isPattern (ns.flatMap ('/' :: ·)) = false := by
  induction ns with
  | nil => rfl
  | cons n ns ih =>
    obtain ⟨hn, hns⟩ := List.forall_mem_cons.mp hplain
    rw [List.flatMap_cons, isPattern_append, isPattern_cons, hn, ih hns]
    rfl

/-- A search below a path of plain names goes through these names first. -/
theorem search_join_ofNames (p : Place) (hlegal : ∀ n ∈ ns, n.Legal)
    (hplain : ∀ n ∈ ns, isPattern n = false) (harg : Path.isAbsolute arg = false) (hne : arg ≠ []) :
    search p (Path.join (Path.ofNames ns) arg) =
      match tokens? arg, (piecesOf arg).mapM tokens? with
      | some _, some pieces =>
        let depth := 100 * (p.tree.entries.length + (ns.length + pieces.length) + 1)
        let found := descend p depth (ns.map (List.map Token.char) ++ pieces) ['/']
        if arg.getLast? = some '/' then found.filter p.isDir else found
      | _, _ => [] := by
  obtain ⟨r, hjoin, hsplit⟩ := Path.exists_join_ofNames hlegal harg
  have htokens : tokens? ('/' :: r) = (tokens? arg).map
      ((ns.flatMap ('/' :: ·) ++ ['/']).map Token.char ++ ·) := by
    rw [← hjoin, Path.join_ofNames hlegal harg, tokens?_append (isPattern_flatMap hplain)]
  have hlast : ('/' :: r).getLast? = arg.getLast? := by
    rw [← hjoin, Path.join_ofNames hlegal harg, List.getLast?_append_of_ne_nil _
      (List.cons_ne_nil _ _), List.getLast?_cons_of_ne_nil hne]
  have hroot : rootOf ('/' :: r) = ['/'] := rfl
  have hpieces : (piecesOf (('/' :: r).drop ['/'].length)).mapM tokens? =
      ((piecesOf arg).mapM tokens?).map (ns.map (List.map Token.char) ++ ·) := by
    rw [← mapM_tokens?_append hplain, ← piecesOf_of_split hsplit]
    rfl
  rw [hjoin]
  simp only [search, hroot, htokens, hpieces, hlast]
  cases tokens? arg with
  | none => rfl
  | some ts =>
    cases (piecesOf arg).mapM tokens? with
    | none => rfl
    | some pieces =>
      simp only [Option.map_some, List.length_append, List.length_map]
      rfl

end Behind

end LintDesk.Glob
