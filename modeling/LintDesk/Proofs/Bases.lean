import LintDesk.Proofs.GlobSearch
import Mathlib.Data.List.Permutation

/-! # Base directories

The arguments are relative to a base directory. What they name below it depends on what is below
it, and on the names of the base itself only if these are read as patterns, which happens when they
come before an argument that is one.
-/

namespace LintDesk.Glob

/-- A directory that arguments are relative to, by its names from the root. -/
structure Base where
  place : Place
  names : List FileName
  legal : ∀ n ∈ names, n.Legal
  isDir : place.isDir (Path.ofNames names)

namespace Base

def path (b : Base) : List Char := Path.ofNames b.names

def below (b : Base) (r : List Char) : List Char := Path.join b.path r

end Base

/-- Whether a path is relative, with steps up only if there may be any. -/
structure Within (up : Prop) (r : List Char) : Prop where
  relative : Path.isAbsolute r = false
  up : ['.', '.'] ∈ Path.steps r → up

/-- Whether two bases cannot be told apart by what is looked up at a path below them. -/
structure Alike (b₁ b₂ : Base) (r : List Char) : Prop where
  stat? : b₁.place.stat? (b₁.below r) = b₂.place.stat? (b₂.below r)
  hasEntry : b₁.place.hasEntry (b₁.below r) = b₂.place.hasEntry (b₂.below r)
  namesIn : b₁.place.namesIn (b₁.below r) = b₂.place.namesIn (b₂.below r)

/-- Whether the trees below two bases are the same; `up` tells whether this is asked for what is
reached by a step up, too. -/
structure SameBelow (b₁ b₂ : Base) (up : Prop) : Prop where
  alike : ∀ r, Within up r → Alike b₁ b₂ r
  legal : ∀ r, Within up r → ∀ n ∈ b₁.place.namesIn (b₁.below r), n.Legal

/-- Two paths that are the same below each base. -/
def Counterpart (b₁ b₂ : Base) (up : Prop) (q₁ q₂ : List Char) : Prop :=
  ∃ r, Within up r ∧ q₁ = b₁.below r ∧ q₂ = b₂.below r

/-- Two places that a search comes to: the bases at first, and counterparts below them then. -/
def Twin (b₁ b₂ : Base) (up : Prop) (q₁ q₂ : List Char) : Prop :=
  (q₁ = b₁.path ∧ q₂ = b₂.path) ∨ Counterpart b₁ b₂ up q₁ q₂

variable {b b₁ b₂ : Base} {up : Prop} {q₁ q₂ r name : List Char}

/-! ## Lookups below a base -/

theorem Base.isAbsolute_path (b : Base) : Path.isAbsolute b.path = true :=
  Path.isAbsolute_ofNames b.names

theorem Base.isAbsolute_below (b : Base) (h : Path.isAbsolute r = false) :
    Path.isAbsolute (b.below r) = true :=
  (Path.isAbsolute_join h b.path).trans b.isAbsolute_path

/-- A slash behind the path of a base makes no difference, since the base is a directory. -/
theorem Base.resolve_below_nil (b : Base) :
    b.place.resolve (b.below []) = b.place.resolve b.path := by
  have habs := b.isAbsolute_below (r := []) rfl
  obtain ⟨d, hresolve⟩ := Place.isDir_iff.mp b.isDir
  obtain ⟨hfollow, hentry⟩ := (Place.resolve_eq_ok_iff (Path.ne_nil_of_isAbsolute b.isAbsolute_path)).mp
    hresolve
  change b.place.resolve (b.below []) = b.place.resolve (Path.ofNames b.names)
  rw [hresolve, Place.resolve_eq_ok_iff (Path.ne_nil_of_isAbsolute habs)]
  refine ⟨?_, hentry⟩
  have hpieces : FileTree.pieces (b.below []) = Path.steps b.path ++ [['.']] :=
    Path.pieces_join rfl b.path
  rw [Place.start, if_pos b.isAbsolute_path] at hfollow
  rw [Place.start, if_pos habs, hpieces]
  rcases Path.pieces_cases b.path with hcase | hcase <;> rw [hcase] at hfollow
  · obtain ⟨links, hleads⟩ := FileTree.exists_leads hfollow
    rw [hleads.follow_append, FileTree.follow_dot hentry, FileTree.follow_nil]
  · exact hfollow

theorem Within.join (h : Within up r) (hname : '/' ∉ name) (hup : name = ['.', '.'] → up) :
    Within up (Path.join r name) := by
  have hrelative := Path.isAbsolute_of_notMem hname
  refine ⟨(Path.isAbsolute_join hrelative r).trans h.relative, fun hmem => ?_⟩
  rw [steps_join_name hname] at hmem
  rcases List.mem_append.mp hmem with hmem | hmem
  · exact h.up hmem
  · split at hmem
    · cases hmem
    · exact hup (List.mem_singleton.mp hmem).symm

theorem Twin.join (h : Twin b₁ b₂ up q₁ q₂) (hname : '/' ∉ name) (hup : name = ['.', '.'] → up) :
    Counterpart b₁ b₂ up (Path.join q₁ name) (Path.join q₂ name) := by
  have hrelative := Path.isAbsolute_of_notMem hname
  rcases h with ⟨rfl, rfl⟩ | ⟨r, hr, rfl, rfl⟩
  · have hnil : Within up [] := ⟨rfl, nofun⟩
    exact ⟨name, Path.join_nil name ▸ hnil.join hname hup, rfl, rfl⟩
  · exact ⟨_, hr.join hname hup, Path.join_join hr.relative hrelative _,
      Path.join_join hr.relative hrelative _⟩

theorem Twin.isAbsolute (h : Twin b₁ b₂ up q₁ q₂) :
    Path.isAbsolute q₁ = true ∧ Path.isAbsolute q₂ = true := by
  rcases h with ⟨rfl, rfl⟩ | ⟨r, hr, rfl, rfl⟩
  · exact ⟨b₁.isAbsolute_path, b₂.isAbsolute_path⟩
  · exact ⟨b₁.isAbsolute_below hr.relative, b₂.isAbsolute_below hr.relative⟩

/-! ## The same search at two places -/

/-- Whether a piece of a pattern leads up only if there may be steps up. -/
structure Stays (up : Prop) (piece : List Token) : Prop where
  literal : ∀ name, literal? piece = some name → '/' ∉ name ∧ (name = ['.', '.'] → up)
  dots : ['.', '.'] ∈ dots piece → up

theorem slash_notMem_of_mem_dots {piece : List Token} (h : name ∈ dots piece) : '/' ∉ name := by
  have hnames : ∀ name ∈ [['.'], ['.', '.']], '/' ∉ name := by decide
  rw [dots] at h
  split at h
  · exact hnames name (List.mem_filter.mp h).1
  · cases h

section Pairs

variable {α β : Type} {R : β → β → Prop} {f g : α → List β} {l : List α} {xs ys : List β}

theorem forall₂_flatMap (h : ∀ a ∈ l, List.Forall₂ R (f a) (g a)) :
    List.Forall₂ R (l.flatMap f) (l.flatMap g) := by
  have hl : List.Forall₂ (fun a b => a = b ∧ a ∈ l) l l :=
    List.forall₂_same.mpr fun a ha => ⟨rfl, ha⟩
  refine List.rel_flatMap hl ?_
  rintro a _ ⟨rfl, ha⟩
  exact h a ha

theorem forall₂_ite {c : Prop} [Decidable c] (h : c → List.Forall₂ R xs ys) :
    List.Forall₂ R (if c then xs else []) (if c then ys else []) := by
  split
  · exact h ‹c›
  · exact .nil

end Pairs

section Same

variable (hsame : SameBelow b₁ b₂ up)
include hsame

theorem Twin.isDir (h : Twin b₁ b₂ up q₁ q₂) : b₁.place.isDir q₁ = b₂.place.isDir q₂ := by
  rcases h with ⟨rfl, rfl⟩ | ⟨r, hr, rfl, rfl⟩
  · exact b₁.isDir.trans b₂.isDir.symm
  · rw [Place.isDir, Place.isDir, (hsame.alike r hr).stat?]

theorem Twin.namesIn (h : Twin b₁ b₂ up q₁ q₂) :
    b₁.place.namesIn q₁ = b₂.place.namesIn q₂ ∧ ∀ n ∈ b₁.place.namesIn q₁, n.Legal := by
  rcases h with ⟨rfl, rfl⟩ | ⟨r, hr, rfl, rfl⟩
  · have hnil : Within up [] := ⟨rfl, nofun⟩
    have hnames (b : Base) : b.place.namesIn b.path = b.place.namesIn (b.below []) := by
      rw [Place.namesIn, Place.namesIn, b.resolve_below_nil]
    rw [hnames, hnames]
    exact ⟨(hsame.alike [] hnil).namesIn, hsame.legal [] hnil⟩
  · exact ⟨(hsame.alike r hr).namesIn, hsame.legal r hr⟩

theorem Counterpart.hasEntry (h : Counterpart b₁ b₂ up q₁ q₂) :
    b₁.place.hasEntry q₁ = b₂.place.hasEntry q₂ := by
  obtain ⟨r, hr, rfl, rfl⟩ := h
  exact (hsame.alike r hr).hasEntry

theorem Counterpart.isFile (h : Counterpart b₁ b₂ up q₁ q₂) :
    b₁.place.isFile q₁ = b₂.place.isFile q₂ := by
  obtain ⟨r, hr, rfl, rfl⟩ := h
  rw [Place.isFile, Place.isFile, (hsame.alike r hr).stat?]

end Same

/-- Whether a search of depth `n` below one base finds the counterparts of what is found below
another, where the depth is enough for both searches. -/
structure SearchesAlike (b₁ b₂ : Base) (up : Prop) (n : Nat) : Prop where
  descend : ∀ {n₂ rest q₁ q₂}, (∀ t ∈ rest, Stays up t) → Twin b₁ b₂ up q₁ q₂ →
    Enough b₁.place n rest q₁ → Enough b₂.place n₂ rest q₂ →
      List.Forall₂ (Counterpart b₁ b₂ up) (descend b₁.place n rest q₁)
        (descend b₂.place n₂ rest q₂)
  meet : ∀ {n₂ piece rest q₁ q₂ name}, (∀ t ∈ piece :: rest, Stays up t) →
    Counterpart b₁ b₂ up q₁ q₂ → EnoughToMeet b₁.place n rest q₁ →
      EnoughToMeet b₂.place n₂ rest q₂ →
      List.Forall₂ (Counterpart b₁ b₂ up) (meet b₁.place n piece rest q₁ name)
        (meet b₂.place n₂ piece rest q₂ name)

section Step

variable {n n₂ : Nat} {piece : List Token} {rest : List (List Token)}
  (h : SearchesAlike b₁ b₂ up n)
include h

theorem SearchesAlike.onwards (hrest : ∀ t ∈ rest, Stays up t)
    (hq : Counterpart b₁ b₂ up q₁ q₂) (h₁ : Enough b₁.place n rest q₁)
    (h₂ : Enough b₂.place n₂ rest q₂) : List.Forall₂ (Counterpart b₁ b₂ up)
      (onwards b₁.place n rest q₁) (onwards b₂.place n₂ rest q₂) := by
  rw [Glob.onwards, Glob.onwards]
  split
  · exact .cons hq .nil
  · exact h.descend hrest (.inr hq) h₁ h₂

variable (hsame : SameBelow b₁ b₂ up)
include hsame

theorem SearchesAlike.descend_succ (hstays : ∀ t ∈ rest, Stays up t) (hq : Twin b₁ b₂ up q₁ q₂)
    (h₁ : Enough b₁.place (n + 1) rest q₁) (h₂ : Enough b₂.place n₂ rest q₂) :
    List.Forall₂ (Counterpart b₁ b₂ up) (Glob.descend b₁.place (n + 1) rest q₁)
      (Glob.descend b₂.place n₂ rest q₂) := by
  obtain ⟨n₂, rfl⟩ := h₂.pos
  cases rest with
  | nil =>
    rw [Glob.descend, Glob.descend]
    exact .nil
  | cons piece rest =>
    obtain ⟨hpiece, hrest⟩ := List.forall_mem_cons.mp hstays
    obtain ⟨habs₁, habs₂⟩ := hq.isAbsolute
    cases hname : literal? piece with
    | some name =>
      obtain ⟨hslash, hup⟩ := hpiece.literal name hname
      have hnext := hq.join hslash hup
      rw [descend_of_literal habs₁ hname, descend_of_literal habs₂ hname, hq.isDir hsame,
        hnext.hasEntry hsame]
      exact forall₂_ite fun _ =>
        h.onwards hrest hnext (h₁.onwards hslash) (h₂.onwards hslash)
    | none =>
      obtain ⟨hnames, hlegal⟩ := hq.namesIn hsame
      rw [descend_of_wild habs₁ hname, descend_of_wild habs₂ hname, hq.isDir hsame, ← hnames]
      refine forall₂_ite fun _ => List.rel_append (forall₂_flatMap fun name hname => ?_)
        (forall₂_flatMap fun name hname => ?_)
      · have hslash := slash_notMem_of_mem_dots hname
        exact h.onwards hrest (hq.join hslash fun hup => hpiece.dots (hup ▸ hname))
          (h₁.onwards hslash) (h₂.onwards hslash)
      · have hn := hlegal name hname
        exact h.meet hstays (hq.join hn.slash_notMem fun hup => absurd hup hn.ne_up)
          (h₁.meet habs₁ hn) (h₂.meet habs₂ hn)

theorem SearchesAlike.meet_succ (hstays : ∀ t ∈ piece :: rest, Stays up t)
    (hq : Counterpart b₁ b₂ up q₁ q₂) (h₁ : EnoughToMeet b₁.place (n + 1) rest q₁)
    (h₂ : EnoughToMeet b₂.place n₂ rest q₂) :
    List.Forall₂ (Counterpart b₁ b₂ up) (Glob.meet b₁.place (n + 1) piece rest q₁ name)
      (Glob.meet b₂.place n₂ piece rest q₂ name) := by
  obtain ⟨n₂, rfl⟩ := h₂.pos
  obtain ⟨hpiece, hrest⟩ := List.forall_mem_cons.mp hstays
  have hdir : b₁.place.isDir q₁ = b₂.place.isDir q₂ := Twin.isDir hsame (.inr hq)
  by_cases hany : piece = [.anyDirs]
  · rw [hany] at hstays ⊢
    cases rest with
    | nil =>
      rw [meet_anyDirs_nil, meet_anyDirs_nil, hdir]
      exact forall₂_ite fun hd => .cons hq
        (h.descend hstays (.inr hq) (h₁.deeper (hdir ▸ hd)) (h₂.deeper hd))
    | cons next more =>
      -- The name is either met by what comes behind `**`, or one more that `**` passes.
      rw [meet_anyDirs_cons, meet_anyDirs_cons, hdir]
      refine List.rel_append (h.meet hrest hq h₁.more h₂.more) (forall₂_ite fun hd => ?_)
      have hd := (Bool.and_eq_true_iff.mp hd).1
      exact h.descend hstays (.inr hq) (h₁.deeper (hdir ▸ hd)) (h₂.deeper hd)
  · rw [meet_of_name hany, meet_of_name hany]
    exact forall₂_ite fun _ => h.onwards hrest hq h₁.onwards h₂.onwards

end Step

/-- At every step both searches ask the same, and get the same answers. -/
theorem searchesAlike (hsame : SameBelow b₁ b₂ up) (n : Nat) : SearchesAlike b₁ b₂ up n := by
  induction n with
  | zero =>
    refine ⟨fun _ _ h => ?_, fun _ _ h => ?_⟩ <;> obtain ⟨_, hn⟩ := h.pos <;> cases hn
  | succ n ih => exact ⟨ih.descend_succ hsame, ih.meet_succ hsame⟩

/-! ## The search below a base -/

namespace Base

theorem has_of_prefix (b : Base) {e : List FileName} (he : e <+: b.names) (hne : e ≠ []) :
    b.place.has (Path.ofNames e) = true := by
  obtain ⟨rest, hrest⟩ := he
  have hnames : b.names ≠ [] := hrest ▸ List.append_ne_nil_of_left_ne_nil hne rest
  have hlegal : ∀ n ∈ e, n.Legal := fun n hn => b.legal n (hrest ▸ List.mem_append_left _ hn)
  have hpath (ns : List FileName) : Path.ofNames ns ≠ [] :=
    Path.ne_nil_of_isAbsolute (Path.isAbsolute_ofNames ns)
  have hstart (ns : List FileName) : b.place.start (Path.ofNames ns) = [] :=
    if_pos (Path.isAbsolute_ofNames ns)
  obtain ⟨d, hresolve⟩ := Place.isDir_iff.mp b.isDir
  obtain ⟨hfollow, -⟩ := (Place.resolve_eq_ok_iff (hpath _)).mp hresolve
  rw [hstart, Path.pieces_ofNames b.legal hnames, ← hrest] at hfollow
  obtain ⟨links, hleads⟩ := FileTree.exists_leads hfollow
  have hroot : b.place.tree.Grounded [] := FileTree.grounded_nil (hleads.dir (hrest ▸ hnames))
  obtain ⟨links₁, mid, hfront, -⟩ := hleads.exists_of_append
  obtain ⟨entry, hentry⟩ := Option.isSome_iff_exists.mp (hfront.grounded hroot mid List.prefix_rfl)
  have hfound : b.place.resolve (Path.ofNames e) = .ok (mid, entry) := by
    rw [Place.resolve_eq_ok_iff (hpath e), hstart, Path.pieces_ofNames hlegal hne]
    exact ⟨hfront.follow_eq, hentry⟩
  rw [Place.has, Place.stat?, hfound]
  rfl

/-- A search for the names of a base comes to the base, if there are more pieces. -/
theorem descend_names (b : Base) {ns : List FileName} {ps : List (List Token)} (hps : ps ≠ [])
    {e : List FileName} (hnames : e ++ ns = b.names) (n : Nat) :
    descend b.place (n + ns.length) (ns.map (List.map Token.char) ++ ps) (Path.ofNames e) =
      descend b.place n ps b.path := by
  induction ns generalizing e with
  | nil =>
    rw [List.append_nil] at hnames
    rw [hnames]
    rfl
  | cons name ns ih =>
    have hnext : (e ++ [name]) ++ ns = b.names := by rw [List.append_assoc, ← hnames]; rfl
    have hlegal : ∀ m ∈ e ++ [name], m.Legal := fun m hm =>
      b.legal m (hnext ▸ List.mem_append_left _ hm)
    have hname := hlegal name (List.mem_append_right _ List.mem_cons_self)
    have hjoin : Path.join (Path.ofNames e) name = Path.ofNames (e ++ [name]) :=
      Path.join_ofNames_name (fun m hm => hlegal m (List.mem_append_left _ hm)) hname
    have hentry : b.place.hasEntry (Path.ofNames (e ++ [name])) = true := by
      rw [Place.hasEntry, b.has_of_prefix ⟨ns, hnext⟩ (List.append_ne_nil_of_right_ne_nil _
        (List.cons_ne_nil _ _))]
      rfl
    have hmore : (ns.map (List.map Token.char) ++ ps).isEmpty = false := by simp [hps]
    have hdots : (decide (name = ['.']) || decide (name = ['.', '.'])) = false := by
      simp [hname.ne_dot, hname.ne_up]
    rw [List.length_cons, ← Nat.add_assoc, List.map_cons, List.cons_append,
      descend_of_literal (Path.isAbsolute_ofNames e) (literal?_map_char name), hjoin, hentry, hdots,
      onwards, hmore]
    exact ih hnext

/-- Whether the names of a base are read as they are when they come before a pattern. -/
def Plain (b : Base) : Prop := ∀ n ∈ b.names, isPattern n = false

theorem enough (b : Base) (rest : List (List Token)) :
    ∃ n, 100 * (b.place.tree.entries.length + (b.names.length + rest.length) + 1) =
      n + b.names.length ∧ Enough b.place n rest b.path := by
  have hup : (Path.steps b.path).count ['.', '.'] = 0 := by
    rw [path, Path.steps_ofNames b.legal]
    exact List.count_eq_zero_of_not_mem fun hmem => (b.legal _ hmem).ne_up rfl
  refine ⟨100 * (b.place.tree.entries.length + (b.names.length + rest.length) + 1) -
    b.names.length, by omega, ?_⟩
  rw [Enough, room, hup]
  omega

end Base

/-- Whether a piece of an argument leads up, by its text or by a match. -/
def goesUp (arg : List Char) : Bool :=
  (piecesOf arg).any fun piece => (tokens? piece).any fun ts => (dots ts).contains ['.', '.']

theorem goesUp_of_mem {arg piece : List Char} {ts : List Token} (hpiece : piece ∈ piecesOf arg)
    (htokens : tokens? piece = some ts) (hdots : ['.', '.'] ∈ dots ts) : goesUp arg = true := by
  refine List.any_eq_true.mpr ⟨piece, hpiece, ?_⟩
  rw [htokens]
  exact List.contains_iff_mem.mpr hdots

theorem mem_dots_up : ['.', '.'] ∈ dots [.char '.', .char '.'] := by
  have hmatches : matchesName [.char '.', .char '.'] ['.', '.'] = true := by cbv
  exact List.mem_filter.mpr ⟨by decide, hmatches⟩

theorem stays_of_mem {arg : List Char} {pieces : List (List Token)} {ts : List Token}
    (hpieces : (piecesOf arg).mapM tokens? = some pieces) (hts : ts ∈ pieces)
    (hup : goesUp arg = true → up) : Stays up ts := by
  obtain ⟨piece, hpiece, htokens⟩ := exists_of_mem_mapM hpieces hts
  refine ⟨fun name hname => ⟨?_, ?_⟩, fun hdots => hup (goesUp_of_mem hpiece htokens hdots)⟩
  · rw [eq_of_literal? htokens hname]
    exact Path.slash_notMem_of_mem_split (mem_split_of_mem_piecesOf hpiece)
  · rintro rfl
    refine hup (goesUp_of_mem hpiece htokens ?_)
    rw [eq_map_char_of_literal? hname]
    exact mem_dots_up

theorem within_of_arg {arg : List Char} (hrelative : Path.isAbsolute arg = false)
    (hup : goesUp arg = true → up) : Within up arg := by
  have htokens : tokens? ['.', '.'] = some [.char '.', .char '.'] := rfl
  refine ⟨hrelative, fun hmem => hup (goesUp_of_mem ?_ htokens mem_dots_up)⟩
  exact mem_piecesOf (List.mem_filter.mp hmem).1 (List.cons_ne_nil _ _)

theorem exists_below_of_forall₂ {xs ys : List (List Char)}
    (h : List.Forall₂ (Counterpart b₁ b₂ up) xs ys) :
    ∃ rels : List (List Char), (∀ r ∈ rels, Within up r) ∧ xs = rels.map b₁.below ∧
      ys = rels.map b₂.below := by
  induction h with
  | nil => exact ⟨[], nofun, rfl, rfl⟩
  | cons hxy _ ih =>
    obtain ⟨r, hr, rfl, rfl⟩ := hxy
    obtain ⟨rels, hrels, rfl, rfl⟩ := ih
    exact ⟨r :: rels, List.forall_mem_cons.mpr ⟨hr, hrels⟩, rfl, rfl⟩

/-- The order of paths by what they add to a base. -/
def addedLe (r r' : List Char) : Bool :=
  Path.comparePartLists (Path.added r) (Path.added r') != .gt

theorem Base.mergeSort_below (b : Base) {rels : List (List Char)}
    (hrels : ∀ r ∈ rels, Within up r) :
    (rels.map b.below).mergeSort Path.le = (rels.mergeSort addedLe).map b.below := by
  refine (List.map_mergeSort fun r hr r' hr' => ?_).symm
  rw [addedLe, Path.le, Base.below, Base.below,
    Path.parts_join (hrels r hr).relative b.isAbsolute_path,
    Path.parts_join (hrels r' hr').relative b.isAbsolute_path, Path.comparePartLists_append]

theorem forall₂_search (hsame : SameBelow b₁ b₂ up) (hplain₁ : b₁.Plain) (hplain₂ : b₂.Plain)
    {arg : List Char} (hrelative : Path.isAbsolute arg = false) (hpattern : isPattern arg = true)
    (hup : goesUp arg = true → up) : List.Forall₂ (Counterpart b₁ b₂ up)
      (search b₁.place (b₁.below arg)) (search b₂.place (b₂.below arg)) := by
  have hne : arg ≠ [] := by
    rintro rfl
    cases hpattern
  rw [Base.below, Base.below, Base.path, Base.path,
    search_join_ofNames b₁.place b₁.legal hplain₁ hrelative hne,
    search_join_ofNames b₂.place b₂.legal hplain₂ hrelative hne]
  cases tokens? arg with
  | none => exact .nil
  | some ts =>
    cases hpieces : (piecesOf arg).mapM tokens? with
    | none => exact .nil
    | some pieces =>
      have hmore := mapM_ne_nil hpieces (piecesOf_ne_nil hpattern)
      obtain ⟨n₁, hdepth₁, h₁⟩ := b₁.enough pieces
      obtain ⟨n₂, hdepth₂, h₂⟩ := b₂.enough pieces
      have hfound := (searchesAlike hsame n₁).descend
        (fun t ht => stays_of_mem hpieces ht hup) (.inl ⟨rfl, rfl⟩) h₁ h₂
      rw [← b₁.descend_names hmore (e := []) rfl, ← b₂.descend_names hmore (e := []) rfl,
        ← hdepth₁, ← hdepth₂] at hfound
      simp only
      split
      · exact List.rel_filter (fun _ _ hq => Bool.eq_iff_iff.mp (Twin.isDir hsame (.inr hq))) hfound
      · exact hfound

theorem exists_filesOf (hsame : SameBelow b₁ b₂ up) {arg : List Char}
    (hrelative : Path.isAbsolute arg = false) (hplain : isPattern arg = true → b₁.Plain ∧ b₂.Plain)
    (hup : goesUp arg = true → up) :
    ∃ rels : List (List Char), (∀ r ∈ rels, Within up r) ∧
      filesOf b₁.place b₁.path arg = rels.map b₁.below ∧
      filesOf b₂.place b₂.path arg = rels.map b₂.below := by
  rw [filesOf, filesOf]
  cases hpattern : isPattern arg with
  | true =>
    obtain ⟨hplain₁, hplain₂⟩ := hplain hpattern
    have hfiles := List.rel_filter (p := b₁.place.isFile) (q := b₂.place.isFile)
      (fun _ _ hq => Bool.eq_iff_iff.mp (Counterpart.isFile hsame hq))
      (forall₂_search hsame hplain₁ hplain₂ hrelative hpattern hup)
    obtain ⟨rels, hrels, hfiles₁, hfiles₂⟩ := exists_below_of_forall₂ hfiles
    refine ⟨rels.mergeSort addedLe, fun r hr => hrels r (List.mem_mergeSort.mp hr), ?_, ?_⟩
    · rw [← b₁.mergeSort_below hrels, ← hfiles₁]
      rfl
    · rw [← b₂.mergeSort_below hrels, ← hfiles₂]
      rfl
  | false =>
    have hwithin := within_of_arg hrelative hup
    have hfile : b₁.place.isFile (b₁.below arg) = b₂.place.isFile (b₂.below arg) :=
      Counterpart.isFile hsame ⟨arg, hwithin, rfl, rfl⟩
    change ∃ rels : List (List Char), _ ∧
      (if b₁.place.isFile (b₁.below arg) then [b₁.below arg] else []) = _ ∧
      (if b₂.place.isFile (b₂.below arg) then [b₂.below arg] else []) = _
    rw [hfile]
    cases b₂.place.isFile (b₂.below arg) with
    | true => exact ⟨[arg], fun r hr => List.mem_singleton.mp hr ▸ hwithin, rfl, rfl⟩
    | false => exact ⟨[], nofun, rfl, rfl⟩

end LintDesk.Glob
