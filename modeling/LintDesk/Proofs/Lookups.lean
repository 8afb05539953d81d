import LintDesk.Proofs.Paths
import Mathlib.Data.List.Perm.Subperm
import Mathlib.Data.List.Nodup

/-! # Lookups

A lookup goes from one place to the next, and every link that it follows is one less that it may
follow. A way through directories leads to the directory that its names spell, so what is looked up
behind it is looked up from this directory. In general a way can be longer than that, but not by
much: a place is below no more directories than the tree has entries, and a link is followed a
limited number of times.
-/

namespace LintDesk

open LintDesk.Text

def Entry.isLink : Entry → Bool
  | .link _ => true
  | .dir | .file .. | .program _ => false

namespace FileTree

variable {t : FileTree} {links links' : Nat} {here there : List FileName} {n : FileName}
  {ps qs rest : List FileName}

/-! ## One step -/

theorem pieces_ne_nil (path : List Char) : pieces path ≠ [] := by
  have hne := Path.split_ne_nil path
  rw [Path.pieces_eq, List.getLast?_eq_some_getLast hne]
  exact List.append_ne_nil_of_right_ne_nil _ (List.cons_ne_nil _ _)

theorem follow_nil (t : FileTree) (links : Nat) (here : List FileName) :
    t.follow links here [] = .ok here := by
  rw [follow]

theorem follow_of_not_dir (h : t.entry? here ≠ some .dir) :
    t.follow links here (n :: rest) = .error .notDirectory := by
  rw [follow, if_pos h]

theorem follow_dot (h : t.entry? here = some .dir) :
    t.follow links here (['.'] :: rest) = t.follow links here rest := by
  rw [follow, if_neg (not_not.mpr h), if_pos rfl]

theorem follow_up (h : t.entry? here = some .dir) :
    t.follow links here (['.', '.'] :: rest) = t.follow links here.dropLast rest := by
  rw [follow, if_neg (not_not.mpr h), if_neg (by decide), if_pos rfl]

section Name

variable (h : t.entry? here = some .dir) (hdot : n ≠ ['.']) (hup : n ≠ ['.', '.'])
include h hdot hup

theorem follow_missing (hn : t.entry? (here ++ [n]) = none) :
    t.follow links here (n :: rest) = .error .missing := by
  rw [follow, if_neg (not_not.mpr h), if_neg hdot, if_neg hup, hn]

theorem follow_name {e : Entry} (hn : t.entry? (here ++ [n]) = some e) (hlink : e.isLink = false) :
    t.follow links here (n :: rest) = t.follow links (here ++ [n]) rest := by
  rw [follow, if_neg (not_not.mpr h), if_neg hdot, if_neg hup, hn]
  cases e with
  | link target => cases hlink
  | dir | file | program => rfl

theorem follow_link {target : List Char} (hn : t.entry? (here ++ [n]) = some (.link target))
    (hne : target ≠ []) : t.follow (links + 1) here (n :: rest) =
      t.follow links (if Path.isAbsolute target then [] else here) (pieces target ++ rest) := by
  rw [follow, if_neg (not_not.mpr h), if_neg hdot, if_neg hup, hn]
  exact if_neg hne

end Name

/-! ## A whole lookup -/

/-- How the pieces of a path lead from one place to another, with the links that may be followed
before and after. -/
inductive Leads (t : FileTree) : Nat → List FileName → List FileName → Nat → List FileName → Prop
  | done {links : Nat} {here : List FileName} : Leads t links here [] links here
  | dot {links links' : Nat} {here there rest : List FileName} (dir : t.entry? here = some .dir)
      (onwards : Leads t links here rest links' there) :
      Leads t links here (['.'] :: rest) links' there
  | up {links links' : Nat} {here there rest : List FileName} (dir : t.entry? here = some .dir)
      (onwards : Leads t links here.dropLast rest links' there) :
      Leads t links here (['.', '.'] :: rest) links' there
  | name {links links' : Nat} {here there rest : List FileName} {n : FileName} {e : Entry}
      (dir : t.entry? here = some .dir) (ne_dot : n ≠ ['.']) (ne_up : n ≠ ['.', '.'])
      (entry : t.entry? (here ++ [n]) = some e) (isLink : e.isLink = false)
      (onwards : Leads t links (here ++ [n]) rest links' there) :
      Leads t links here (n :: rest) links' there
  | link {links links₁ links' : Nat} {here mid there rest : List FileName} {n : FileName}
      {target : List Char} (dir : t.entry? here = some .dir) (ne_dot : n ≠ ['.'])
      (ne_up : n ≠ ['.', '.']) (entry : t.entry? (here ++ [n]) = some (.link target))
      (ne_nil : target ≠ [])
      (across : Leads t links (if Path.isAbsolute target then [] else here) (pieces target) links₁
        mid)
      (onwards : Leads t links₁ mid rest links' there) :
      Leads t (links + 1) here (n :: rest) links' there

theorem Leads.dir (h : t.Leads links here ps links' there) (hne : ps ≠ []) :
    t.entry? here = some .dir := by
  cases h with
  | done => exact absurd rfl hne
  | dot dir | up dir | name dir | link dir => exact dir

/-- What comes behind is looked up from where the pieces lead. -/
theorem Leads.follow_append (h : t.Leads links here ps links' there) (rest : List FileName) :
    t.follow links here (ps ++ rest) = t.follow links' there rest := by
  induction h generalizing rest with
  | done => rfl
  | dot dir _ ih => rw [List.cons_append, follow_dot dir, ih]
  | up dir _ ih => rw [List.cons_append, follow_up dir, ih]
  | name dir ne_dot ne_up entry isLink _ ih =>
    rw [List.cons_append, follow_name dir ne_dot ne_up entry isLink, ih]
  | link dir ne_dot ne_up entry ne_nil _ _ across onwards =>
    rw [List.cons_append, follow_link dir ne_dot ne_up entry ne_nil, across, onwards]

theorem Leads.follow_eq (h : t.Leads links here ps links' there) :
    t.follow links here ps = .ok there := by
  rw [← List.append_nil ps, h.follow_append, follow_nil]

theorem Leads.exists_of_append (h : t.Leads links here (ps ++ qs) links' there) :
    ∃ links₁ mid, t.Leads links here ps links₁ mid ∧ t.Leads links₁ mid qs links' there := by
  induction ps generalizing links here with
  | nil => exact ⟨links, here, .done, h⟩
  | cons n ps ih =>
    cases h with
    | dot dir onwards =>
      obtain ⟨links₁, mid, hps, hqs⟩ := ih onwards
      exact ⟨links₁, mid, .dot dir hps, hqs⟩
    | up dir onwards =>
      obtain ⟨links₁, mid, hps, hqs⟩ := ih onwards
      exact ⟨links₁, mid, .up dir hps, hqs⟩
    | name dir ne_dot ne_up entry isLink onwards =>
      obtain ⟨links₁, mid, hps, hqs⟩ := ih onwards
      exact ⟨links₁, mid, .name dir ne_dot ne_up entry isLink hps, hqs⟩
    | link dir ne_dot ne_up entry ne_nil across onwards =>
      obtain ⟨links₁, mid, hps, hqs⟩ := ih onwards
      exact ⟨links₁, mid, .link dir ne_dot ne_up entry ne_nil across hps, hqs⟩

theorem exists_leads (h : t.follow links here ps = .ok there) :
    ∃ links', t.Leads links here ps links' there := by
  fun_induction follow t links here ps with
  | case1 links here =>
    cases h
    exact ⟨links, .done⟩
  | case2 | case5 | case6 | case7 => cases h
  | case3 links here rest hdir ih =>
    obtain ⟨links', hrest⟩ := ih h
    exact ⟨links', .dot (not_not.mp hdir) hrest⟩
  | case4 links here rest hdir _ ih =>
    obtain ⟨links', hrest⟩ := ih h
    exact ⟨links', .up (not_not.mp hdir) hrest⟩
  | case8 here n rest hdir hdot hup target hentry links hne ih =>
    obtain ⟨links', hrest⟩ := ih h
    obtain ⟨links₁, mid, hacross, honwards⟩ := hrest.exists_of_append
    exact ⟨links', .link (not_not.mp hdir) hdot hup hentry hne hacross honwards⟩
  | case9 links here n rest hdir hdot hup e hlink hentry ih =>
    obtain ⟨links', hrest⟩ := ih h
    have hnone : e.isLink = false := by
      cases e with
      | link target => exact absurd rfl (hlink target)
      | dir | file | program => rfl
    exact ⟨links', .name (not_not.mp hdir) hdot hup hentry hnone hrest⟩

/-- A way through directories leads to the one that its names spell; dots make no difference. -/
theorem leads_through (hup : ['.', '.'] ∉ ps)
    (hdirs : ∀ e, e <+: ps.filter (· ≠ ['.']) → t.entry? (here ++ e) = some .dir) :
    t.Leads links here ps links (here ++ ps.filter (· ≠ ['.'])) := by
  induction ps generalizing here with
  | nil =>
    rw [List.filter_nil, List.append_nil]
    exact .done
  | cons n ps ih =>
    obtain ⟨hn, hps⟩ := not_or.mp (mt List.mem_cons.mpr hup)
    have hhere : t.entry? here = some .dir := by simpa using hdirs [] List.nil_prefix
    by_cases hdot : n = ['.']
    · have hfilter : (n :: ps).filter (· ≠ ['.']) = ps.filter (· ≠ ['.']) :=
        List.filter_cons_of_neg (by simpa using hdot)
      rw [hfilter] at hdirs ⊢
      rw [hdot]
      exact .dot hhere (ih hps hdirs)
    · have hfilter : (n :: ps).filter (· ≠ ['.']) = n :: ps.filter (· ≠ ['.']) :=
        List.filter_cons_of_pos (by simpa using hdot)
      rw [hfilter] at hdirs ⊢
      have hnext : t.entry? (here ++ [n]) = some .dir :=
        hdirs [n] (List.prefix_cons_inj n |>.mpr List.nil_prefix)
      have honwards : t.Leads links (here ++ [n]) ps links
          (here ++ [n] ++ ps.filter (· ≠ ['.'])) := ih hps fun e he => by
        rw [List.append_assoc]
        exact hdirs (n :: e) ((List.prefix_cons_inj n).mpr he)
      rw [List.append_assoc] at honwards
      exact .name hhere hdot (Ne.symm hn) hnext rfl honwards

/-! ## How far a lookup goes -/

/-- Whether there is an entry at a place and at all places above it. -/
def Grounded (t : FileTree) (here : List FileName) : Prop :=
  ∀ e, e <+: here → (t.entry? e).isSome

theorem grounded_nil (h : t.entry? [] = some .dir) : t.Grounded [] := by
  intro e he
  rw [List.prefix_nil.mp he, h]
  rfl

theorem Grounded.of_prefix (h : t.Grounded here) (hthere : there <+: here) : t.Grounded there :=
  fun e he => h e (he.trans hthere)

theorem Grounded.append (h : t.Grounded here) (hn : (t.entry? (here ++ [n])).isSome) :
    t.Grounded (here ++ [n]) := by
  intro e he
  rcases List.prefix_concat_iff.mp he with rfl | he
  · exact hn
  · exact h e he

/-- Where the target of a link is looked up from. -/
theorem Grounded.target (h : t.Grounded here) (target : List Char) :
    t.Grounded (if Path.isAbsolute target then [] else here) := by
  split
  · exact h.of_prefix List.nil_prefix
  · exact h

theorem Leads.grounded (h : t.Leads links here ps links' there) (hhere : t.Grounded here) :
    t.Grounded there := by
  induction h with
  | done => exact hhere
  | dot _ _ ih => exact ih hhere
  | up _ _ ih => exact ih (hhere.of_prefix (List.dropLast_prefix _))
  | name _ _ _ entry _ _ ih => exact ih (hhere.append (entry ▸ rfl))
  | link _ _ _ _ _ _ _ across onwards => exact onwards (across (hhere.target _))

theorem Leads.links_le (h : t.Leads links here ps links' there) : links' ≤ links := by
  induction h with
  | done => exact Nat.le_refl _
  | dot _ _ ih | up _ _ ih | name _ _ _ _ _ _ ih => exact ih
  | link _ _ _ _ _ _ _ across onwards => exact (onwards.trans across).trans (Nat.le_succ _)

/-- A grounded place is below fewer directories than the tree has entries. -/
theorem Grounded.length_lt (h : t.Grounded here) : here.length < t.entries.length := by
  have hnodup : ((List.range (here.length + 1)).map here.take).Nodup := by
    refine List.Nodup.map_on (fun m hm n hn heq => ?_) List.nodup_range
    have hlength := congrArg List.length heq
    rw [List.mem_range] at hm hn
    rw [List.length_take, List.length_take] at hlength
    omega
  have hsubset : (List.range (here.length + 1)).map here.take ⊆ t.entries.map (·.1) := by
    intro e he
    obtain ⟨n, -, rfl⟩ := List.mem_map.mp he
    have hsome := h _ (List.take_prefix n here)
    rw [ entry?, Option.isSome_map, List.find?_isSome] at hsome
    obtain ⟨entry, hmem, heq⟩ := hsome
    exact List.mem_map.mpr ⟨entry, hmem, eq_of_beq heq⟩
  have hlength := (hnodup.subperm hsubset).length_le
  rwa [List.length_map, List.length_map, List.length_range] at hlength

/-- Each name takes a lookup one directory further down, unless it is that of a link. -/
theorem Leads.names_le (h : t.Leads links here ps links' there) (hhere : t.Grounded here) :
    ps.countP Path.isName + (links' * t.entries.length + (t.entries.length - there.length)) ≤
      links * t.entries.length + (t.entries.length - here.length) + ps.count ['.', '.'] := by
  have hname (n : FileName) (rest : List FileName) :
      (n :: rest).countP Path.isName ≤ rest.countP Path.isName + 1 := by
    rw [List.countP_cons]
    split <;> omega
  induction h with
  | done =>
    rw [List.countP_nil, List.count_nil]
    omega
  | dot dir _ ih =>
    rw [List.countP_cons_of_neg (by decide), List.count_cons_of_ne (by decide)]
    exact ih hhere
  | @up links links' here there rest dir _ ih =>
    have hrest := ih (hhere.of_prefix (List.dropLast_prefix _))
    rw [List.countP_cons_of_neg (by decide), List.count_cons_self]
    rw [List.length_dropLast] at hrest
    omega
  | @name links links' here there rest n e dir ne_dot ne_up entry isLink _ ih =>
    have hrest := ih (hhere.append (entry ▸ rfl))
    have hlength := hhere.length_lt
    have hn := hname n rest
    rw [List.count_cons_of_ne ne_up]
    rw [List.length_append, List.length_singleton] at hrest
    omega
  | @link links links₁ links' here mid there rest n target dir ne_dot ne_up entry ne_nil across
      onwards _ ih =>
    have hrest := ih (across.grounded (hhere.target target))
    have hlength := hhere.length_lt
    have hn := hname n rest
    have hlinks := Nat.mul_le_mul_right t.entries.length across.links_le
    rw [List.count_cons_of_ne ne_up, Nat.succ_mul]
    omega

/-! ## The tree below a directory -/

/-- An entry as it is seen from a directory above it. -/
def seenFrom (d : List FileName) (entry : List FileName × Entry) :
    Option (List FileName × Entry) :=
  if d <+: entry.1 then some (entry.1.drop d.length, entry.2) else none

/-- What is below a directory, as a tree of its own. -/
def subtree (t : FileTree) (d : List FileName) : FileTree := ⟨t.entries.filterMap (seenFrom d)⟩

variable {d x : List FileName}

theorem seenFrom_append (d x : List FileName) (e : Entry) :
    seenFrom d (d ++ x, e) = some (x, e) := by
  rw [seenFrom, if_pos (List.prefix_append d x), List.drop_left]

theorem seenFrom_of_not_above {entry : List FileName × Entry} (h : ¬d <+: entry.1) :
    seenFrom d entry = none := if_neg h

theorem mem_entries_of_eq_some {e : Entry} (h : t.entry? x = some e) : (x, e) ∈ t.entries := by
  obtain ⟨entry, hfind, rfl⟩ := Option.map_eq_some_iff.mp h
  obtain rfl : entry.1 = x := by simpa using List.find?_some hfind
  exact List.mem_of_find?_eq_some hfind

theorem entry?_subtree (t : FileTree) (d x : List FileName) :
    entry? (t.subtree d) x = t.entry? (d ++ x) := by
  have hkey (entry : List FileName × Entry) :
      (seenFrom d entry).any (·.1 == x) = (entry.1 == d ++ x) := by
    obtain ⟨names, e⟩ := entry
    by_cases hd : d <+: names
    · obtain ⟨y, rfl⟩ := hd
      rw [seenFrom_append]
      exact Bool.eq_iff_iff.mpr (by simp)
    · rw [seenFrom_of_not_above hd]
      refine (beq_false_of_ne ?_).symm
      rintro rfl
      exact hd (List.prefix_append d x)
  rw [ entry?, entry?, subtree, List.find?_filterMap]
  simp only [hkey]
  cases hfind : t.entries.find? (·.1 == d ++ x) with
  | none => rfl
  | some entry =>
    obtain ⟨names, e⟩ := entry
    obtain rfl : names = d ++ x := by simpa using List.find?_some hfind
    rw [Option.bind_some, seenFrom_append]
    rfl

theorem namesIn_subtree (t : FileTree) (d x : List FileName) :
    (t.subtree d).namesIn x = t.namesIn (d ++ x) := by
  have hname (names : List FileName) (e : Entry) : ((seenFrom d (names, e)).bind fun seen =>
      if seen.1.dropLast == x then seen.1.getLast? else none) =
        if names.dropLast == d ++ x then names.getLast? else none := by
    by_cases hd : d <+: names
    · obtain ⟨y, rfl⟩ := hd
      rw [seenFrom_append, Option.bind_some]
      obtain rfl | ⟨z, n, rfl⟩ := List.eq_nil_or_concat' y
      · -- The directory itself is no entry in it, not even if it is the root.
        rw [List.append_nil]
        refine (ite_self none).trans ?_
        cases d using List.reverseRecOn with
        | nil => exact (ite_self none).symm
        | append_singleton d m =>
          refine (if_neg fun heq => ?_).symm
          have hlength := congrArg List.length (eq_of_beq heq)
          simp only [List.length_dropLast, List.length_append, List.length_singleton] at hlength
          omega
      · rw [← List.append_assoc, List.dropLast_concat, List.dropLast_concat, List.getLast?_concat,
          List.getLast?_concat]
        exact if_congr (by simp) rfl rfl
    · rw [seenFrom_of_not_above hd]
      refine (if_neg fun heq => hd ?_).symm
      have habove : d <+: names.dropLast := eq_of_beq heq ▸ List.prefix_append d x
      exact habove.trans (List.dropLast_prefix names)
  rw [namesIn, namesIn, subtree, List.filterMap_filterMap]
  exact congrArg (fun names : List FileName => names.eraseDups.mergeSort _)
    (List.filterMap_congr fun entry _ => hname entry.1 entry.2)

/-- A lookup without a step up stays below the directory where it begins, unless there are links. -/
theorem follow_subtree (hlinks : ∀ entry ∈ (t.subtree d).entries, entry.2.isLink = false)
    (hup : ['.', '.'] ∉ ps) :
    t.follow links (d ++ x) ps = ((t.subtree d).follow links x ps).map (d ++ ·) := by
  -- Both lookups see the same entry at each step, and go on or stop together.
  induction ps generalizing x with
  | nil =>
    rw [follow_nil, follow_nil]
    rfl
  | cons n ps ih =>
    obtain ⟨hn, hps⟩ := not_or.mp (mt List.mem_cons.mpr hup)
    have hhere := entry?_subtree t d x
    by_cases hdir : t.entry? (d ++ x) = some .dir
    · by_cases hdot : n = ['.']
      · rw [hdot, follow_dot hdir, follow_dot (hhere.trans hdir), ih hps]
      · have hnext := entry?_subtree t d (x ++ [n])
        rw [← List.append_assoc] at hnext
        cases hentry : t.entry? (d ++ x ++ [n]) with
        | none =>
          rw [follow_missing hdir hdot (Ne.symm hn) hentry,
            follow_missing (hhere.trans hdir) hdot (Ne.symm hn) (hnext.trans hentry)]
          rfl
        | some e =>
          have hlink : e.isLink = false := hlinks _ (mem_entries_of_eq_some (hnext.trans hentry))
          rw [follow_name hdir hdot (Ne.symm hn) hentry hlink, List.append_assoc, ih hps,
            follow_name (hhere.trans hdir) hdot (Ne.symm hn) (hnext.trans hentry) hlink]
    · rw [follow_of_not_dir hdir, follow_of_not_dir (hhere ▸ hdir)]
      rfl

end FileTree

namespace Place

variable {p : Place} {path q : List Char} {d : List FileName} {e : Entry}

/-! ## Lookups of paths -/

/-- Where the lookup of a path begins. -/
def start (p : Place) (path : List Char) : List FileName :=
  if Path.isAbsolute path then [] else p.cwd

theorem resolve_eq (hpath : path ≠ []) : p.resolve path =
    (p.tree.follow 40 (p.start path) (FileTree.pieces path)).bind fun names =>
      match p.tree.entry? names with
      | some e => .ok (names, e)
      | none => .error .missing := by
  rw [resolve, if_neg hpath]
  rfl

theorem resolve_eq_ok_iff (hpath : path ≠ []) : p.resolve path = .ok (d, e) ↔
    p.tree.follow 40 (p.start path) (FileTree.pieces path) = .ok d ∧
      p.tree.entry? d = some e := by
  rw [resolve_eq hpath]
  cases p.tree.follow 40 (p.start path) (FileTree.pieces path) with
  | error fault => exact iff_of_false nofun nofun
  | ok names =>
    simp only [Except.bind]
    cases hentry : p.tree.entry? names with
    | none =>
      refine iff_of_false nofun ?_
      rintro ⟨⟨⟩, he⟩
      rw [hentry] at he
      cases he
    | some e' =>
      constructor
      · rintro ⟨⟩
        exact ⟨rfl, hentry⟩
      · rintro ⟨⟨⟩, he⟩
        rw [hentry] at he
        cases he
        rfl

theorem stat?_eq_some_iff : p.stat? path = some e ↔ ∃ d, p.resolve path = .ok (d, e) := by
  rw [stat?]
  cases p.resolve path with
  | error fault => exact iff_of_false nofun nofun
  | ok found =>
    obtain ⟨d, e'⟩ := found
    constructor
    · rintro ⟨⟩
      exact ⟨d, rfl⟩
    · rintro ⟨_, ⟨⟩⟩
      rfl

theorem isDir_iff : p.isDir path ↔ ∃ d, p.resolve path = .ok (d, .dir) := by
  rw [isDir, beq_iff_eq, stat?_eq_some_iff]

/-- The names in a directory are the last ones of entries. -/
theorem exists_of_mem_namesIn {n : FileName} (h : n ∈ p.namesIn path) :
    ∃ names e, (names, e) ∈ p.tree.entries ∧ names.getLast? = some n := by
  rw [namesIn] at h
  split at h
  · rename_i d hresolve
    rw [FileTree.namesIn, List.mem_mergeSort, List.mem_eraseDups] at h
    obtain ⟨⟨names, e⟩, hmem, hname⟩ := List.mem_filterMap.mp h
    change (if names.dropLast == d then names.getLast? else none) = some n at hname
    split at hname
    · exact ⟨names, e, hmem, hname⟩
    · cases hname
  · cases h

/-- A path that goes down to a directory by its names, with no link and no step up on the way. -/
structure LeadsTo (p : Place) (path : List Char) (d : List FileName) : Prop where
  eq : d = p.start path ++ Path.names path
  up_notMem : .up ∉ Path.parts path
  dirs : ∀ e, e <+: d → p.tree.entry? e = some .dir

theorem LeadsTo.start_prefix (h : p.LeadsTo path d) : p.start path <+: d :=
  h.eq ▸ List.prefix_append _ _

theorem LeadsTo.leads (h : p.LeadsTo path d) :
    p.tree.Leads 40 (p.start path) (Path.steps path) 40 d := by
  have hup : ['.', '.'] ∉ Path.steps path := fun hup =>
    h.up_notMem ((Path.up_mem_parts_iff path).mpr (List.mem_filter.mp hup).1)
  have hnames : (Path.steps path).filter (· ≠ ['.']) = Path.names path := by
    rw [Path.names_eq, Path.steps, List.filter_filter]
    refine List.filter_congr fun n hn => ?_
    have hne : n ≠ ['.', '.'] := fun hne =>
      h.up_notMem ((Path.up_mem_parts_iff path).mpr (hne ▸ hn))
    simp [Path.isName, hne, Bool.and_comm]
  have hthrough : p.tree.Leads 40 (p.start path) (Path.steps path) 40
      (p.start path ++ (Path.steps path).filter (· ≠ ['.'])) := FileTree.leads_through hup
    fun e he => h.dirs _ (h.eq ▸ (List.prefix_append_right_inj _).mpr (hnames ▸ he))
  rwa [hnames, ← h.eq] at hthrough

/-- What is looked up below the path is looked up from the directory. -/
theorem LeadsTo.resolve_join (h : p.LeadsTo path d) (hq : Path.isAbsolute q = false)
    (hne : q ≠ []) : p.resolve (Path.join path q) = ({ p with cwd := d } : Place).resolve q := by
  have hjoin : Path.join path q ≠ [] := by
    rw [Path.join_eq hq]
    simp [hne]
  rw [resolve_eq hjoin, resolve_eq hne, start, start, Path.isAbsolute_join hq, Path.pieces_join hq,
    hq]
  exact congrArg (Except.bind · _) (h.leads.follow_append _)

/-- Whether a directory has an entry of a name, provided that this is no link. -/
theorem has_name {t : FileTree} {n : FileName} (hd : t.entry? d = some .dir) (hn : n.Legal)
    (hlink : (t.entry? (d ++ [n])).any Entry.isLink = false) :
    ({ tree := t, cwd := d } : Place).has n = (t.entry? (d ++ [n])).isSome := by
  rw [has, stat?, resolve_eq hn.ne_nil, start, Path.isAbsolute_of_notMem hn.slash_notMem,
    Path.pieces_of_notMem hn.slash_notMem hn.ne_nil]
  cases hentry : t.entry? (d ++ [n]) with
  | none =>
    change Option.isSome (((t.follow 40 d [n]).bind _).toOption.map _) = _
    rw [FileTree.follow_missing hd hn.ne_dot hn.ne_up hentry]
    rfl
  | some e =>
    rw [hentry] at hlink
    change Option.isSome (((t.follow 40 d [n]).bind _).toOption.map _) = _
    rw [FileTree.follow_name hd hn.ne_dot hn.ne_up hentry hlink, FileTree.follow_nil]
    simp only [Except.bind, hentry]
    rfl

/-- The number of names in a path to a directory has a bound: each step up allows for one more. -/
theorem names_le_of_isDir (habs : Path.isAbsolute path = true) (h : p.isDir path = true) :
    (Path.steps path).countP Path.isName ≤
      41 * p.tree.entries.length + (Path.steps path).count ['.', '.'] := by
  obtain ⟨d, hresolve⟩ := isDir_iff.mp h
  obtain ⟨hfollow, -⟩ := (resolve_eq_ok_iff (Path.ne_nil_of_isAbsolute habs)).mp hresolve
  obtain ⟨links, hleads⟩ := FileTree.exists_leads hfollow
  have hroot : p.start path = [] := if_pos habs
  rw [hroot] at hleads
  have hdir := hleads.dir (FileTree.pieces_ne_nil path)
  have hle := hleads.names_le (FileTree.grounded_nil hdir)
  have hsteps : (FileTree.pieces path).countP Path.isName = (Path.steps path).countP Path.isName ∧
      (FileTree.pieces path).count ['.', '.'] = (Path.steps path).count ['.', '.'] := by
    rcases Path.pieces_cases path with hpieces | hpieces <;> rw [hpieces]
    · exact ⟨rfl, rfl⟩
    · rw [List.countP_append, List.count_append]
      exact ⟨rfl, rfl⟩
  rw [hsteps.1, hsteps.2] at hle
  rw [List.length_nil] at hle
  omega

end Place
end LintDesk
