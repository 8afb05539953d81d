import LintDesk.Config.Load
import LintDesk.Proofs.Lookups
import Mathlib.Data.List.Find

/-! # The root of a repository

Going up from a path is lexical. For a path that leads straight down to a directory, this passes
through the directories above it, one after another: all of them if the path is absolute, and those
that are not above the working directory if it is relative.
-/

namespace LintDesk.Config

open LintDesk.Text

variable {p : Place} {t : FileTree} {path root start : String} {q r : List Char}
  {d d₀ e : List FileName} {n : Nat}

/-! ## Marked directories -/

/-- The entries that tell the root of a repository. -/
def markers : List String := ["phplint.toml", "phplint.yaml", "phplint.yml", versionControl]

/-- Whether a directory has one of these entries. -/
def Marked (t : FileTree) (d : List FileName) : Prop :=
  ∃ m ∈ markers, ({ tree := t, cwd := d } : Place).has m.toList

/-- The closest directory, going up from `d₀`, that is marked. -/
structure Nearest (t : FileTree) (d₀ d : List FileName) : Prop where
  above : d <+: d₀
  marked : Marked t d
  closest : ∀ e, e <+: d₀ → Marked t e → e <+: d

theorem Nearest.unique (h : Nearest t d₀ d) (h' : Nearest t d₀ e) : d = e :=
  (h'.closest d h.above h.marked).eq_of_length_le (h.closest e h'.above h'.marked).length_le

theorem exists_nearest (hd : d <+: d₀) (hmarked : Marked t d) : ∃ e, Nearest t d₀ e := by
  classical
  induction d₀ using List.reverseRecOn with
  | nil =>
    obtain rfl := List.prefix_nil.mp hd
    exact ⟨[], List.prefix_rfl, hmarked, fun _ he _ => he⟩
  | append_singleton d₀ n ih =>
    by_cases hlast : Marked t (d₀ ++ [n])
    · exact ⟨d₀ ++ [n], List.prefix_rfl, hlast, fun _ he _ => he⟩
    · have hbefore {e : List FileName} (he : e <+: d₀ ++ [n]) (hm : Marked t e) : e <+: d₀ :=
        (List.prefix_concat_iff.mp he).resolve_left fun heq => hlast (heq ▸ hm)
      obtain ⟨e, he⟩ := ih (hbefore hd hmarked)
      exact ⟨e, he.above.trans (List.prefix_append _ _), he.marked,
        fun e' he' hm => he.closest e' (hbefore he' hm) hm⟩

/-- The configuration file of a directory that is preferred to its others. -/
def preferred? (t : FileTree) (d : List FileName) : Option (String × ConfigFormat) :=
  fileNames.find? fun (name, _) => ({ tree := t, cwd := d } : Place).has name.toList

/-! ## What a path above another finds -/

theorem markers_relative : ∀ m ∈ markers, Path.isAbsolute m.toList = false ∧ m.toList ≠ [] := by
  decide +kernel

theorem fst_mem_markers {c : String × ConfigFormat} (hc : c ∈ fileNames) : c.1 ∈ markers := by
  have hall : ∀ c ∈ fileNames, c.1 ∈ markers := by decide +kernel
  exact hall c hc

theorem has_joinPath (h : p.LeadsTo path.toList d) {m : String} (hm : m ∈ markers) :
    p.has (joinPath path m).toList = ({ p with cwd := d } : Place).has m.toList := by
  obtain ⟨hrelative, hne⟩ := markers_relative m hm
  rw [joinPath, String.toList_ofList, Place.has, Place.has, Place.stat?, Place.stat?,
    h.resolve_join hrelative hne]

theorem find?_eq (h : p.LeadsTo path.toList d) :
    find? p path = (preferred? p.tree d).map fun (name, f) => (joinPath path name, f) := by
  rw [find?, List.find?_map, preferred?]
  refine congrArg (Option.map _) (List.find?_congr fun c hc => ?_)
  exact has_joinPath h (fst_mem_markers hc)

theorem isRoot_iff (h : p.LeadsTo path.toList d) : isRoot p path ↔ Marked p.tree d := by
  have hconfig : (find? p path).isSome ↔
      ∃ c ∈ fileNames, ({ p with cwd := d } : Place).has c.1.toList := by
    rw [find?_eq h, Option.isSome_map, preferred?, List.find?_isSome]
  rw [isRoot, Bool.or_eq_true, hconfig, has_joinPath h (by simp [markers]), Marked]
  simp [fileNames, markers, or_assoc]

/-! ## Going up -/

theorem parts_eq_of_parent? (h : Path.parent? q = some r) :
    ∃ part, Path.parts q = Path.parts r ++ [part] ∧ Path.isAbsolute r = Path.isAbsolute q := by
  have hparts := Path.parts_of_parent? h
  have hnone : Path.parent? q ≠ none := h ▸ Option.some_ne_none r
  obtain ⟨hne, hroot⟩ := not_or.mp (mt Path.parent?_eq_none_iff.mpr hnone)
  have hlast := List.dropLast_append_getLast hne
  rw [← hparts] at hlast
  refine ⟨_, hlast.symm, Bool.eq_iff_iff.mpr ?_⟩
  rw [Path.isAbsolute_iff_head?_parts, Path.isAbsolute_iff_head?_parts, ← hlast]
  cases hr : Path.parts r with
  | cons part ps => rfl
  | nil =>
    rw [hr, List.nil_append] at hlast
    refine iff_of_false nofun fun hhead => hroot ?_
    rw [← hlast]
    exact congrArg (fun part => [part]) (Option.some.inj hhead)

theorem start_congr (habs : Path.isAbsolute r = Path.isAbsolute q) : p.start r = p.start q := by
  rw [Place.start, Place.start, habs]

/-- The path above another leads to the same directory, or to the one above it. -/
theorem leadsTo_parent (h : p.LeadsTo q d) (hparent : Path.parent? q = some r) :
    ∃ e, p.LeadsTo r e ∧ (d = e ∨ ∃ n, d = e ++ [n]) := by
  obtain ⟨part, hparts, habs⟩ := parts_eq_of_parent? hparent
  have hnames : Path.names q = Path.names r ++ [part].filterMap PathPart.name? := by
    rw [Path.names, hparts, List.filterMap_append]
    rfl
  have heq := h.eq
  rw [hnames, ← List.append_assoc, ← start_congr habs] at heq
  refine ⟨_, ⟨rfl, fun hup => h.up_notMem ?_, fun e he => h.dirs e ?_⟩, ?_⟩
  · rw [hparts]
    exact List.mem_append_left _ hup
  · rw [heq]
    exact he.trans (List.prefix_append _ _)
  · cases part with
    | name n => exact .inr ⟨n, heq⟩
    | root | current | up => exact .inl (heq.trans (List.append_nil _))

/-- What a path has at its end when there is nothing above it. -/
theorem names_eq_nil (h : Path.parent? q = none) : Path.names q = [] := by
  rw [Path.names]
  rcases Path.parent?_eq_none_iff.mp h with h | h <;> rw [h] <;> rfl

/-- What the walk up from a path that leads to `d` comes to. -/
inductive Walk (p : Place) (q : List Char) (d : List FileName) : Option String → Prop
  | found {root : String} {e : List FileName} (leads : p.LeadsTo root.toList e)
      (nearest : Nearest p.tree d e)
      (below : p.start q <+: e) : Walk p q d (some root)
  | unfound (unmarked : ∀ e, p.start q <+: e → e <+: d →
      ¬Marked p.tree e) : Walk p q d none

theorem upward_succ (n : Nat) (q : List Char) :
    upward (n + 1) q = q :: ((Path.parent? q).map (upward n)).getD [] := rfl

theorem Walk.of_parent {o : Option String} (h : Walk p r e o)
    (habs : Path.isAbsolute r = Path.isAbsolute q) (hmarked : ¬Marked p.tree d)
    (hd : d = e ∨ ∃ n, d = e ++ [n]) : Walk p q d o := by
  have habove {e' : List FileName} (he' : e' <+: d) (hm : Marked p.tree e') : e' <+: e := by
    rcases hd with rfl | ⟨n, rfl⟩
    · exact he'
    · exact (List.prefix_concat_iff.mp he').resolve_left fun heq => hmarked (heq ▸ hm)
  have he : e <+: d := by
    rcases hd with rfl | ⟨n, rfl⟩
    · exact List.prefix_rfl
    · exact List.prefix_append _ _
  cases h with
  | found leads nearest below =>
    exact .found leads ⟨nearest.above.trans he, nearest.marked, fun e' he' hm =>
      nearest.closest e' (habove he' hm) hm⟩ (start_congr habs ▸ below)
  | unfound unmarked =>
    exact .unfound fun e' hbelow he' hm =>
      unmarked e' (start_congr habs ▸ hbelow) (habove he' hm) hm

/-- By induction on the number of paths that the walk may come to, which are no more than the path
has parts. -/
theorem walk_upward (h : p.LeadsTo q d) (hn : (Path.parts q).length < n) :
    Walk p q d (((upward n q).map String.ofList).find? (isRoot p)) := by
  induction n generalizing q d with
  | zero => exact absurd hn (Nat.not_lt_zero _)
  | succ n ih =>
    have hleads : p.LeadsTo (String.ofList q).toList d := by rwa [String.toList_ofList]
    rw [upward_succ, List.map_cons]
    by_cases hmarked : Marked p.tree d
    · rw [List.find?_cons_of_pos ((isRoot_iff hleads).mpr hmarked)]
      exact .found hleads ⟨List.prefix_rfl, hmarked, fun _ he _ => he⟩ h.start_prefix
    · rw [List.find?_cons_of_neg (mt (isRoot_iff hleads).mp hmarked)]
      cases hparent : Path.parent? q with
      | none =>
        refine .unfound fun e hbelow he hm => hmarked ?_
        have hd := h.eq
        rw [names_eq_nil hparent, List.append_nil] at hd
        rw [hd] at he ⊢
        rwa [he.eq_of_length_le hbelow.length_le] at hm
      | some r =>
        obtain ⟨part, hparts, habs⟩ := parts_eq_of_parent? hparent
        obtain ⟨e, hr, hd⟩ := leadsTo_parent h hparent
        rw [hparts, List.length_append] at hn
        exact (ih hr (Nat.lt_of_succ_lt_succ hn)).of_parent habs hmarked hd

/-! ## The root that is found -/

/-- Whether what is below a path is below a directory. The empty path stands for the working
directory here. -/
def Names (p : Place) (path : String) (d : List FileName) : Prop :=
  p.resolve (Path.join path.toList ['.']) = .ok (d, .dir)

/-- What the root should be for a start in `d₀`: a path that names the closest directory that is
marked, or the start if no directory is. -/
inductive RightRoot (p : Place) (start : String) (d₀ : List FileName) : String → Prop
  | nearest {root : String} {d : List FileName} (nearest : Nearest p.tree d₀ d)
      (names : Names p root d) : RightRoot p start d₀ root
  | none (unmarked : ∀ e, e <+: d₀ → ¬Marked p.tree e) : RightRoot p start d₀ start

/-- The configuration that is loaded for a root is that of a directory: its preferred file is
read, and the entries that are asked for below the root are those of the directory. -/
structure LoadsFrom (p : Place) (root : String) (d : List FileName) : Prop where
  load : load p root = match preferred? p.tree d with
    | some (name, f) => (some (joinPath root name), ·) <$> read p (joinPath root name) f
    | none => .ok (none, {})
  resolve : ∀ m ∈ markers, p.resolve (joinPath root m).toList =
    ({ p with cwd := d } : Place).resolve m.toList

theorem names_of_leadsTo (h : p.LeadsTo path.toList d) : Names p path d := by
  have hdir := h.dirs d List.prefix_rfl
  have hfollow : p.tree.follow 40 d (FileTree.pieces ['.']) = .ok d := by
    rw [Path.pieces_of_notMem (by decide) (by decide), FileTree.follow_dot hdir,
      FileTree.follow_nil]
  rw [Names, h.resolve_join rfl (by decide), Place.resolve_eq (by decide)]
  change (p.tree.follow 40 d (FileTree.pieces ['.'])).bind _ = _
  rw [hfollow]
  simp only [Except.bind, hdir]

theorem names_unique (h : Names p path d) (h' : Names p path e) : d = e :=
  congrArg Prod.fst (Except.ok.inj (h.symm.trans h'))

theorem load_eq (h : p.LeadsTo path.toList d) :
    load p path = match preferred? p.tree d with
      | some (name, f) => (some (joinPath path name), ·) <$> read p (joinPath path name) f
      | none => .ok (none, {}) := by
  have hfind := find?_eq h
  unfold load
  cases hpreferred : preferred? p.tree d with
  | none => simp only [hfind, hpreferred, Option.map_none]
  | some c =>
    simp only [hfind, hpreferred, Option.map_some]
    exact bind_pure_comp _ _

theorem loadsFrom_of_leadsTo (h : p.LeadsTo path.toList d) : LoadsFrom p path d := by
  refine ⟨load_eq h, fun m hm => ?_⟩
  obtain ⟨hrelative, hne⟩ := markers_relative m hm
  rw [joinPath, String.toList_ofList, h.resolve_join hrelative hne]

/-- For a start that leads straight down to a directory, the root that is found is right if the
start is absolute; if it is relative, then this is so if and only if the closest directory that is
marked is not above the working directory. Whenever it is found, its preferred configuration file
is the one that is read. -/
theorem detectRoot_right_iff (h : p.LeadsTo start.toList d₀) :
    (RightRoot p start d₀ (detectRoot p start) ↔
      Path.isAbsolute start.toList ∨ ∀ d, Nearest p.tree d₀ d → p.cwd <+: d) ∧
    ∀ d, Nearest p.tree d₀ d → Path.isAbsolute start.toList ∨ p.cwd <+: d →
      LoadsFrom p (detectRoot p start) d := by
  have hwalk : Walk p start.toList d₀ ((ancestors start).find? (isRoot p)) :=
    walk_upward h (Nat.lt_succ_of_le (Path.length_parts_le _))
  have hlow (d : List FileName) : p.start start.toList <+: d ↔
      Path.isAbsolute start.toList ∨ p.cwd <+: d := by
    rw [Place.start]
    cases Path.isAbsolute start.toList <;> simp
  rw [detectRoot]
  generalize (ancestors start).find? (isRoot p) = found at hwalk ⊢
  cases hwalk with
  | @found root e leads nearest below =>
    refine ⟨iff_of_true (.nearest nearest (names_of_leadsTo leads)) ?_, fun d hd _ => ?_⟩
    · exact ((hlow e).mp below).imp_right fun hcwd d hd => nearest.unique hd ▸ hcwd
    · exact nearest.unique hd ▸ loadsFrom_of_leadsTo leads
  | unfound unmarked =>
    refine ⟨⟨fun hright => ?_, fun hcond => .none fun e he hmarked => ?_⟩, fun d hd hcond => ?_⟩
    · -- The start is not marked, so it does not name the closest directory that is.
      refine .inr fun d hd => ?_
      cases hright with
      | nearest hd' hnames =>
        have hmarked := names_unique (names_of_leadsTo h) hnames ▸ hd'.marked
        exact absurd hmarked (unmarked d₀ h.start_prefix List.prefix_rfl)
      | none hnone => exact absurd hd.marked (hnone d hd.above)
    · obtain ⟨d, hd⟩ := exists_nearest he hmarked
      exact unmarked d ((hlow d).mpr (hcond.imp_right (· d hd))) hd.above hd.marked
    · exact absurd hd.marked (unmarked d ((hlow d).mpr hcond) hd.above)

/-- In a directory whose entries are no links, it is enough to look at their names. -/
theorem marked_iff (hd : t.entry? d = some .dir)
    (hlink : ∀ m ∈ markers, (t.entry? (d ++ [m.toList])).any Entry.isLink = false) :
    Marked t d ↔ ∃ m ∈ markers, (t.entry? (d ++ [m.toList])).isSome := by
  have hlegal : ∀ m ∈ markers, FileName.Legal m.toList := by decide +kernel
  refine exists_congr fun m => and_congr_right fun hm => ?_
  rw [Place.has_name hd (hlegal m hm) (hlink m hm)]

theorem leadsTo_of_inits (heq : d = p.start q ++ Path.names q)
    (hup : .up ∉ Path.parts q) (hdirs : ∀ e ∈ d.inits, p.tree.entry? e = some .dir) :
    p.LeadsTo q d := ⟨heq, hup, fun e he => hdirs e ((List.mem_inits e d).mpr he)⟩

/-- From inside `/src`, the root for `app` is `/src`, which is closer than `/`. -/
theorem detectRoot_right_iff_below :
    let src := "src".toList
    let app := "app".toList
    let p : Place :=
      { tree := ⟨[([], .dir), ([src], .dir), ([src, app], .dir),
          (["phplint.toml".toList], .file [] false), ([src, ".git".toList], .dir)]⟩
        cwd := [src] }
    p.LeadsTo app [src, app] ∧ RightRoot p "app" [src, app] (detectRoot p "app") := by
  intro src app p
  have hleads : p.LeadsTo "app".toList [src, app] :=
    leadsTo_of_inits (by decide +kernel) (by decide +kernel) (by decide +kernel)
  have hmarked : Marked p.tree [src] :=
    (marked_iff (by decide +kernel) (by decide +kernel)).mpr (by decide +kernel)
  refine ⟨hleads, (detectRoot_right_iff hleads).1.mpr (.inr fun d hd => ?_)⟩
  exact hd.closest [src] (by decide +kernel) hmarked

/-- The configuration file in the directory above the working directory is not found. -/
theorem detectRoot_not_right :
    let w := "w".toList
    let p : Place :=
      { tree := ⟨[([], .dir), ([w], .dir), (["phplint.toml".toList], .file [] false)]⟩
        cwd := [w] }
    p.LeadsTo ".".toList [w] ∧ Nearest p.tree [w] [] ∧ detectRoot p "." = "." ∧
      ¬RightRoot p "." [w] "." := by
  intro w p
  have hleads : p.LeadsTo ".".toList [w] :=
    leadsTo_of_inits (by decide +kernel) (by decide +kernel) (by decide +kernel)
  have hmarked : Marked p.tree [] :=
    (marked_iff (by decide +kernel) (by decide +kernel)).mpr (by decide +kernel)
  have hunmarked : ¬Marked p.tree [w] :=
    mt (marked_iff (by decide +kernel) (by decide +kernel)).mp (by decide +kernel)
  have hnearest : Nearest p.tree [w] [] := by
    refine ⟨List.nil_prefix, hmarked, fun e he hm => ?_⟩
    refine (List.prefix_concat_iff.mp he).resolve_left ?_
    rintro rfl
    exact hunmarked hm
  refine ⟨hleads, hnearest, ?_, fun hright => ?_⟩
  · have hwalk : Walk p ['.'] [w] ((ancestors ".").find? (isRoot p)) :=
      walk_upward hleads (by decide +kernel)
    rw [detectRoot]
    generalize (ancestors ".").find? (isRoot p) = found at hwalk ⊢
    cases hwalk with
    | found leads nearest below =>
      rw [nearest.unique hnearest] at below
      exact absurd below (by decide +kernel)
    | unfound => rfl
  · cases hright with
    | nearest hd hnames =>
      rw [hd.unique hnearest] at hnames
      exact absurd (names_unique hnames (names_of_leadsTo hleads)) (List.cons_ne_nil _ _).symm
    | none hnone => exact hnone [] List.nil_prefix hmarked

end LintDesk.Config
