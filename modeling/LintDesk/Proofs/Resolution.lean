import LintDesk.Proofs.Dispatch
import LintDesk.Proofs.Sections

/-! # Resolved configurations

Each setting is decided on its own: by the option of the command line, or else by the configuration
file, or else by the default. Only then is it asked what it comes to, so a time limit of zero on the
command line is not made up for by the file. The ids that the command line names pick the enabled
analyzers once the sections of the file have been merged, and so the file has no say in it.
-/

namespace LintDesk

namespace Config

variable {o : CommonOptions} {f : ConfigFile} {as bs : List Analyzer} {ids : List String}
  {repo : String} {path : Option String} {config : Config} {e : Error}

/-! ## One setting -/

/-- The value that a setting has by an option, a configuration file and a default. -/
inductive Decided {α : Type} (option file : Option α) (dflt : α) : α → Prop where
  | option {x : α} : option = some x → Decided option file dflt x
  | file {x : α} : option = none → file = some x → Decided option file dflt x
  | dflt : option = none → file = none → Decided option file dflt dflt

theorem decided_or {α : Type} (option file : Option α) (dflt : α) :
    Decided option file dflt ((option.or file).getD dflt) := by
  cases option with
  | some x => exact .option rfl
  | none =>
    cases file with
    | some x => exact .file rfl rfl
    | none => exact .dflt rfl rfl

/-- A time limit of zero is none. -/
theorem filter_pos_eq (t : Option Nat) :
    t.filter (0 < ·) = if t.getD 0 = 0 then none else some (t.getD 0) := by
  cases t with
  | none => rfl
  | some t => cases t <;> rfl

/-! ## The analyzers that are named -/

/-- The analyzers are as they were but for whether they are enabled, and those with the given ids
are. -/
def EnabledBy (ids : List String) (as bs : List Analyzer) : Prop :=
  List.Forall₂ (fun a b => (b.enabled = true ↔ a.id ∈ ids) ∧ { b with enabled := a.enabled } = a)
    as bs

theorem all_id_ne_iff {id : String} : (as.all (·.id != id)) = true ↔ id ∉ as.map (·.id) := by
  simp only [List.all_eq_true, bne_iff_ne, List.mem_map, not_exists, not_and]

/-- The first unknown id is refused. -/
theorem find?_unknown_iff {id : String} : ids.find? (fun id => as.all (·.id != id)) = some id ↔
    ∃ before after, ids = before ++ id :: after ∧ (∀ known ∈ before, known ∈ as.map (·.id)) ∧
      id ∉ as.map (·.id) := by
  simp only [List.find?_eq_some_iff_append, Bool.not_eq_true', ← Bool.not_eq_true, all_id_ne_iff,
    not_not]
  constructor
  · rintro ⟨hid, before, after, hids, hbefore⟩
    exact ⟨before, after, hids, hbefore, hid⟩
  · rintro ⟨before, after, hids, hbefore, hid⟩
    exact ⟨hid, before, after, hids, hbefore⟩

theorem find?_unknown_eq_none_iff :
    ids.find? (fun id => as.all (·.id != id)) = none ↔ ids ⊆ as.map (·.id) := by
  simp only [List.find?_eq_none, all_id_ne_iff, not_not]
  exact Iff.rfl

theorem enableOnly_eq_error_iff : enableOnly ids as = .error e ↔ ∃ before id after,
    ids = before ++ id :: after ∧ (∀ known ∈ before, known ∈ as.map (·.id)) ∧
      id ∉ as.map (·.id) ∧ e = .unknownAnalyzer id := by
  have hrefused : enableOnly ids as = .error e ↔
      ∃ id, ids.find? (fun id => as.all (·.id != id)) = some id ∧ e = .unknownAnalyzer id := by
    rw [enableOnly]
    cases ids.find? fun id => as.all (·.id != id) with
    | none => simp
    | some id => simp [eq_comm]
  rw [hrefused]
  constructor
  · rintro ⟨id, hfind, he⟩
    obtain ⟨before, after, hids, hbefore, hid⟩ := find?_unknown_iff.mp hfind
    exact ⟨before, id, after, hids, hbefore, hid, he⟩
  · rintro ⟨before, id, after, hids, hbefore, hid, he⟩
    exact ⟨id, find?_unknown_iff.mpr ⟨before, after, hids, hbefore, hid⟩, he⟩

theorem exists_enableOnly_eq_ok_iff : (∃ bs, enableOnly ids as = .ok bs) ↔ ids ⊆ as.map (·.id) := by
  rw [enableOnly, ← find?_unknown_eq_none_iff]
  cases ids.find? fun id => as.all (·.id != id) with
  | none => exact iff_of_true ⟨_, rfl⟩ rfl
  | some id => simp

theorem enableOnly_eq_ok (h : enableOnly ids as = .ok bs) : EnabledBy ids as bs := by
  rw [enableOnly] at h
  split at h
  · cases h
  · obtain rfl := Except.ok.inj h
    refine List.forall₂_map_right_iff.mpr (List.forall₂_same.mpr fun a _ => ⟨?_, rfl⟩)
    exact List.contains_iff_mem

/-- Those that are enabled have the named ids, in the order of the analyzers. -/
theorem EnabledBy.map_id_filter (h : EnabledBy ids as bs) :
    (bs.filter (·.enabled)).map (·.id) = (as.map (·.id)).filter (· ∈ ids) := by
  induction h with
  | nil => rfl
  | @cons a b as bs hab _ ih =>
    obtain ⟨henabled, hsame⟩ := hab
    have hid := congrArg Analyzer.id hsame
    change b.id = a.id at hid
    rw [List.map_cons, List.filter_cons, List.filter_cons]
    by_cases hb : b.enabled = true
    · rw [if_pos hb, if_pos (decide_eq_true (henabled.mp hb)), List.map_cons, hid, ih]
    · rw [if_neg hb, if_neg (by simpa using mt henabled.mpr hb), ih]

/-! ## All settings -/

/-- The configuration is made of the options, the file of a repository whose sections have been
merged, and the defaults. -/
structure MadeOf (o : CommonOptions) (repo : String) (path : Option String) (f : ConfigFile)
    (as : List Analyzer) (config : Config) : Prop where
  root : config.root = repo
  file : config.file = path
  interpreter : Decided o.interpreter f.interpreter "php" config.interpreter
  vendor : ∃ vendor, Decided o.vendor f.vendor "vendor" vendor ∧
    config.vendor = if Path.isAbsolute vendor.toList then vendor else joinPath repo vendor
  output : Decided o.output f.output "human" config.output
  timeout : ∃ t, Decided o.timeout f.timeout 0 t ∧
    config.timeout = if t = 0 then none else some t
  unnamed : o.only = none → config.analyzers = as
  named : ∀ ids, o.only = some ids → EnabledBy ids as config.analyzers

/-- The analyzers, with those enabled that the options name, if they name any. -/
def picked (o : CommonOptions) (as : List Analyzer) : Except Error (List Analyzer) :=
  match o.only with
  | some ids => enableOnly ids as
  | none => .ok as

theorem picked_of_eq_none (h : o.only = none) (as : List Analyzer) : picked o as = .ok as := by
  rw [picked, h]

theorem picked_of_eq_some (h : o.only = some ids) (as : List Analyzer) :
    picked o as = enableOnly ids as := by
  rw [picked, h]

/-- The configuration with the given analyzers. -/
def assemble (o : CommonOptions) (repo : String) (path : Option String) (f : ConfigFile)
    (as : List Analyzer) : Config where
  root := repo
  file := path
  interpreter := (o.interpreter.or f.interpreter).getD "php"
  vendor := vendorPath repo ((o.vendor.or f.vendor).getD "vendor")
  output := (o.output.or f.output).getD "human"
  timeout := (o.timeout.or f.timeout).filter (0 < ·)
  probe := probeFor ((o.interpreter.or f.interpreter).getD "php") f.probe
  analyzers := as

theorem madeOf_assemble (h : picked o as = .ok bs) :
    (assemble o repo path f bs).MadeOf o repo path f as where
  root := rfl
  file := rfl
  interpreter := decided_or ..
  vendor := ⟨_, decided_or .., rfl⟩
  output := decided_or ..
  timeout := ⟨_, decided_or .., filter_pos_eq _⟩
  unnamed honly := (Except.ok.inj ((picked_of_eq_none honly as).symm.trans h)).symm
  named _ honly := enableOnly_eq_ok ((picked_of_eq_some honly as).symm.trans h)

theorem combine_eq_map (hmerge : f.analyzers.merge (path.getD repo) = .ok as) :
    combine o repo path f = (picked o as).map (assemble o repo path f) := by
  rw [combine, hmerge]
  cases honly : o.only with
  | none =>
    rw [picked_of_eq_none honly]
    rfl
  | some ids =>
    rw [picked_of_eq_some honly]
    change (enableOnly ids as).bind _ = _
    cases enableOnly ids as with
    | error e => rfl
    | ok bs => rfl

theorem resolve_eq_map {place : Place} (hrepo : detectRoot place (o.repoRoot.getD ".") = repo)
    (hload : load place repo = .ok (path, f))
    (hmerge : f.analyzers.merge (path.getD repo) = .ok as) :
    resolve place o = (picked o as).map (assemble o repo path f) := by
  rw [← combine_eq_map hmerge, resolve, hrepo, hload]
  rfl

theorem picked_eq_error_iff : picked o as = .error e ↔ ∃ before id after,
    o.only = some (before ++ id :: after) ∧ (∀ known ∈ before, known ∈ as.map (·.id)) ∧
      id ∉ as.map (·.id) ∧ e = .unknownAnalyzer id := by
  cases honly : o.only with
  | none =>
    rw [picked_of_eq_none honly]
    exact iff_of_false nofun (by rintro ⟨_, _, _, h, -⟩; cases h)
  | some ids =>
    rw [picked_of_eq_some honly, enableOnly_eq_error_iff]
    simp only [Option.some.injEq]

theorem exists_picked_eq_ok_iff :
    (∃ bs, picked o as = .ok bs) ↔ ∀ ids, o.only = some ids → ids ⊆ as.map (·.id) := by
  cases honly : o.only with
  | none => exact iff_of_true ⟨as, picked_of_eq_none honly as⟩ nofun
  | some ids =>
    rw [picked_of_eq_some honly, exists_enableOnly_eq_ok_iff]
    simp only [Option.some.injEq, forall_eq']

/-! ## What is done with the named analyzers -/

namespace MadeOf

variable (h : config.MadeOf o repo path f as) (honly : o.only = some ids)
include h honly

theorem map_id_enabled :
    (config.analyzers.filter (·.enabled)).map (·.id) = (as.map (·.id)).filter (· ∈ ids) :=
  (h.named ids honly).map_id_filter

theorem map_fst_commands (file : String) :
    (config.commands file).map (·.1) = (as.map (·.id)).filter (· ∈ ids) := by
  rw [← h.map_id_enabled honly, commands, List.map_map]
  rfl

/-- Whatever happens on a desk, each request has a job for each of the named analyzers. -/
theorem map_analyzer_ofRequest {c : Coordinator}
    (hc : Coordinator.ofSettings config.settings = .ok c) (store : Store)
    (history : List DeskEvent) {i : Nat} {file : String}
    (hfile : (requestedFiles history)[i]? = some file) :
    (((Desk.fresh c store).after history).ofRequest (i + 1)).map (·.job.analyzer) =
      (as.map (·.id)).filter (· ∈ ids) := by
  have hjobs := Desk.jobs_ofRequest_after_fresh c store history hfile
  have henabled : c.enabled = config.analyzers.filter (·.enabled) := by
    rw [Coordinator.enabled, Coordinator.settings_of_ofSettings hc]
    rfl
  rw [← h.map_id_enabled honly, ← henabled]
  have hanalyzers := congrArg (List.map (·.analyzer)) hjobs
  rw [List.map_map, Coordinator.jobs_eq_map, List.map_map] at hanalyzers
  exact hanalyzers

end MadeOf

end Config

/-! ## The configuration file of the working directory -/

/-- A file of the working directory is found under its name behind a dot. -/
theorem Place.resolve_file {place : Place} {path name : List Char} {bytes : List UInt8} {x : Bool}
    (hpath : FileTree.pieces path = [['.'], name]) (hrelative : Path.isAbsolute path = false)
    (hdots : name ≠ ['.'] ∧ name ≠ ['.', '.']) (hcwd : place.tree.entry? place.cwd = some .dir)
    (hfile : place.tree.entry? (place.cwd ++ [name]) = some (.file bytes x)) :
    place.resolve path = .ok (place.cwd ++ [name], .file bytes x) := by
  have hne : path ≠ [] := by
    rintro rfl
    cases hpath
  have hfollow : place.tree.follow 40 place.cwd [['.'], name] = .ok (place.cwd ++ [name]) := by
    rw [FileTree.follow, if_neg (not_not.mpr hcwd), if_pos rfl, FileTree.follow,
      if_neg (not_not.mpr hcwd), if_neg hdots.1, if_neg hdots.2, hfile, FileTree.follow]
  rw [resolve, if_neg hne, hrelative, hpath]
  simp [hfollow, hfile, Bind.bind, Except.bind]

open Config Text in
/-- The configuration file of the working directory is found there, and is read if it spells a
configuration. -/
theorem Config.load_here {place : Place} {bytes : List UInt8} {x : Bool} {text : List Char}
    {f : ConfigFile} (hstat : place.stat? "./phplint.toml".toList = some (.file bytes x))
    (htext : (Utf8.strict bytes).toOption = some text) (hparse : parse? .toml text = some f) :
    detectRoot place "." = "." ∧ load place "." = .ok (some "./phplint.toml", f) := by
  have hfind : find? place "." = some ("./phplint.toml", .toml) := by
    have hpath : place.has (joinPath "." "phplint.toml").toList = true := by
      have hjoin : joinPath "." "phplint.toml" = "./phplint.toml" := by decide
      rw [hjoin, Place.has, hstat]
      rfl
    exact List.find?_cons_of_pos hpath
  constructor
  · have hancestors : ancestors "." = [".", ""] := by decide
    have hroot : isRoot place "." = true := by
      rw [isRoot, hfind]
      rfl
    rw [detectRoot, hancestors, List.find?_cons_of_pos hroot]
    rfl
  · have hread : Config.read place "./phplint.toml" .toml = .ok f := by
      have hbytes : place.bytes? "./phplint.toml".toList = some bytes := by
        rw [Place.bytes?, hstat]
      simp only [Config.read, hbytes, htext, hparse, Option.bind_eq_bind, Option.bind_some]
    unfold load
    rw [hfind]
    dsimp only
    rw [hread]
    rfl

/-! ## The resolved configuration -/

open Config in
/-- If the configuration file of the repository is read and its sections are merged, or there is no
such file, the configuration is made up of the options first, then the file, then the defaults. It
is refused only if the options name an analyzer that is not there, and the error names the first
such id. The analyzers that they do name are enabled, and no others, and nothing else about them is
changed; their commands are shown and their jobs dispatched in the order of the configuration. -/
theorem options_before_file (place : Place) (o : CommonOptions) {repo : String}
    {path : Option String} {f : ConfigFile} {as : List Analyzer}
    (hrepo : detectRoot place (o.repoRoot.getD ".") = repo)
    (hload : load place repo = .ok (path, f))
    (hmerge : f.analyzers.merge (path.getD repo) = .ok as) :
    (∀ e, resolve place o = .error e ↔ ∃ before id after, o.only = some (before ++ id :: after) ∧
      (∀ known ∈ before, known ∈ as.map (·.id)) ∧ id ∉ as.map (·.id) ∧ e = .unknownAnalyzer id) ∧
    ((∃ config, resolve place o = .ok config) ↔
      ∀ ids, o.only = some ids → ids ⊆ as.map (·.id)) ∧
    ∀ config, resolve place o = .ok config → config.MadeOf o repo path f as ∧
      ∀ ids, o.only = some ids →
        (∀ file, (config.commands file).map (·.1) = (as.map (·.id)).filter (· ∈ ids)) ∧
        ∀ c, Coordinator.ofSettings config.settings = .ok c →
          ∀ store history i file, (requestedFiles history)[i]? = some file →
            (((Desk.fresh c store).after history).ofRequest (i + 1)).map (·.job.analyzer) =
              (as.map (·.id)).filter (· ∈ ids) := by
  have hresolve := resolve_eq_map hrepo hload hmerge
  refine ⟨fun e => ?_, ?_, fun config hconfig => ?_⟩
  · rw [hresolve, ← picked_eq_error_iff]
    cases picked o as with
    | error e' => simp [Except.map]
    | ok bs => exact iff_of_false nofun nofun
  · rw [hresolve, ← exists_picked_eq_ok_iff]
    cases picked o as with
    | error e => exact iff_of_false nofun nofun
    | ok bs => exact iff_of_true ⟨_, rfl⟩ ⟨_, rfl⟩
  · cases hpicked : picked o as with
    | error e =>
      rw [hresolve, hpicked] at hconfig
      cases hconfig
    | ok bs =>
      rw [hresolve, hpicked] at hconfig
      obtain rfl := Except.ok.inj hconfig
      have hmade : (assemble o repo path f bs).MadeOf o repo path f as := madeOf_assemble hpicked
      exact ⟨hmade, fun ids honly => ⟨hmade.map_fst_commands honly,
        fun c hc store history i file hfile =>
          hmade.map_analyzer_ofRequest honly hc store history hfile⟩⟩

open Config Text in
/-- The command line takes the time limit of the file back, names an analyzer that the file
disables, and names it twice; or it names two that are not there. -/
theorem options_before_file_zero :
    let text := "vendor = \"v\"\ntimeout_secs = 9\n[analyzers.phpmd]\nenabled = false\n"
    let place : Place :=
      { tree := FileTree.add {} ["phplint.toml".toList] (.file (Utf8.encode text) false) }
    let f : ConfigFile :=
      { vendor := some "v", timeout := some 9,
        analyzers := .ofList [("phpmd", { enabled := some false })] }
    let o : CommonOptions := { timeout := some 0, only := some ["phpmd", "phpl", "phpmd"] }
    detectRoot place "." = "." ∧ load place "." = .ok (some "./phplint.toml", f) ∧
      (∃ as, f.analyzers.merge "./phplint.toml" = .ok as ∧
        as.map (·.enabled) = [true, true, true, false]) ∧
      (∃ config, resolve place o = .ok config ∧ config.vendor = "./v" ∧ config.timeout = none ∧
        (config.commands "a.php").map (·.1) = ["phpl", "phpmd"]) ∧
      resolve place { only := some ["phpl", "psalm", "phpstan"] } =
        .error (.unknownAnalyzer "psalm") := by
  intro text place f o
  have hstat : place.stat? "./phplint.toml".toList = some (.file (Utf8.encode text) false) := by
    have hentry : place.resolve "./phplint.toml".toList =
        .ok ([] ++ ["phplint.toml".toList], .file (Utf8.encode text) false) :=
      Place.resolve_file (by decide) (by decide) (by decide) (by decide +kernel) (by decide +kernel)
    rw [Place.stat?, hentry]
    rfl
  have htext : (Utf8.strict (Utf8.encode text)).toOption = some text.toList := by decide +kernel
  have hparse : Config.parse? .toml text.toList = some f := by decide +kernel
  have hvendor : f.vendor = some "v" := rfl
  obtain ⟨as, hmerge, hids, henabled⟩ : ∃ as, f.analyzers.merge "./phplint.toml" = .ok as ∧
      as.map (·.id) = ["phpcpd", "phpcs", "phpl", "phpmd"] ∧
      as.map (·.enabled) = [true, true, true, false] :=
    ⟨_, rfl, by decide +kernel, by decide +kernel⟩
  clear_value f place text
  obtain ⟨hrepo, hload⟩ := load_here hstat htext hparse
  refine ⟨hrepo, hload, ⟨as, hmerge, henabled⟩, ?_, ?_⟩
  · obtain ⟨-, hok, hmade⟩ := options_before_file place o hrepo hload hmerge
    have hknown : ∀ ids, o.only = some ids → ids ⊆ as.map (·.id) := by
      rintro ids ⟨⟩
      rw [hids]
      decide
    obtain ⟨config, hconfig⟩ := hok.mpr hknown
    obtain ⟨hfields, hnamed⟩ := hmade config hconfig
    refine ⟨config, hconfig, ?_, ?_, ?_⟩
    · obtain ⟨vendor, hdecided, hpath⟩ := hfields.vendor
      rw [hvendor] at hdecided
      rcases hdecided with ⟨⟨⟩⟩ | ⟨-, ⟨⟩⟩ | ⟨-, ⟨⟩⟩
      exact hpath.trans (by decide)
    · obtain ⟨t, hdecided, htimeout⟩ := hfields.timeout
      rcases hdecided with ⟨⟨⟩⟩ | ⟨⟨⟩, -⟩ | ⟨⟨⟩, -⟩
      exact htimeout
    · rw [(hnamed _ rfl).1, hids]
      decide
  · let unknown : CommonOptions := { only := some ["phpl", "psalm", "phpstan"] }
    have hrefused := (options_before_file place unknown hrepo hload hmerge).1
    refine (hrefused (.unknownAnalyzer "psalm")).mpr
      ⟨["phpl"], "psalm", ["phpstan"], rfl, ?_, ?_, rfl⟩
    · rw [hids]
      decide
    · rw [hids]
      decide

end LintDesk
