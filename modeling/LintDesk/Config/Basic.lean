import LintDesk.Analyzer

/-! # Configuration files

What a configuration file says. Whatever it leaves open is decided elsewhere.
-/

namespace LintDesk

/-- What a configuration file says about the probe of the interpreter. -/
structure ProbeSection where
  args : Option (List String) := none
  marker : Option String := none
deriving DecidableEq, Repr

/-- What a configuration file says about one analyzer. -/
structure AnalyzerSection where
  name : Option String := none
  program : Option String := none
  args : Option (List String) := none
  enabled : Option Bool := none
  options : Option (List String) := none
  optionFlag : Option String := none
  exitCodes : Option (List Int) := none
  rules : Option (List OutputRule) := none
deriving DecidableEq, Repr

/-- The sections on analyzers, each under the id of its analyzer. -/
structure AnalyzerSections where
  entries : List (String × AnalyzerSection)
  /-- The ids ascend, so that none is there twice. -/
  ascending : (entries.map (·.1)).Pairwise (· < ·)
deriving DecidableEq, Repr

namespace AnalyzerSections

def empty : AnalyzerSections := ⟨[], .nil⟩

def get? (sections : AnalyzerSections) (id : String) : Option AnalyzerSection :=
  sections.entries.lookup id

/-- The entries with a section added, in place of the one for the same id if there is one. -/
def putEntry (id : String) (s : AnalyzerSection) :
    List (String × AnalyzerSection) → List (String × AnalyzerSection)
  | [] => [(id, s)]
  | (k, t) :: rest =>
      if id = k then (id, s) :: rest
      else if id < k then (id, s) :: (k, t) :: rest
      else (k, t) :: putEntry id s rest

theorem mem_ids_putEntry (id k : String) (s : AnalyzerSection)
    (entries : List (String × AnalyzerSection)) :
    k ∈ (putEntry id s entries).map (·.1) ↔ k = id ∨ k ∈ entries.map (·.1) := by
  induction entries with
  | nil => simp [putEntry]
  | cons p rest ih =>
    obtain ⟨j, t⟩ := p
    simp only [putEntry]
    split
    · next h => subst h; simp
    · split
      · simp
      · simp only [List.map_cons, List.mem_cons, ih]
        exact or_left_comm

theorem ascending_putEntry {entries : List (String × AnalyzerSection)} (id : String)
    (s : AnalyzerSection) (h : (entries.map (·.1)).Pairwise (· < ·)) :
    ((putEntry id s entries).map (·.1)).Pairwise (· < ·) := by
  induction entries with
  | nil => simp [putEntry]
  | cons p rest ih =>
    obtain ⟨k, t⟩ := p
    obtain ⟨hk, hrest⟩ := List.pairwise_cons.mp h
    simp only [putEntry]
    split
    · next e => subst e; exact h
    · next hne =>
      split
      · next hlt =>
        refine List.pairwise_cons.mpr ⟨fun j hj => ?_, h⟩
        rcases List.mem_cons.mp hj with rfl | hj
        · exact hlt
        · exact String.lt_trans hlt (hk j hj)
      · next hge =>
        refine List.pairwise_cons.mpr ⟨fun j hj => ?_, ih hrest⟩
        rcases (mem_ids_putEntry id j s rest).mp hj with rfl | hj
        · exact String.not_le.mp fun hle => hne (String.le_antisymm hle (String.not_lt.mp hge))
        · exact hk j hj

/-- Adds a section, in place of the one for the same id if there is one. -/
def insert (sections : AnalyzerSections) (id : String) (s : AnalyzerSection) : AnalyzerSections :=
  ⟨putEntry id s sections.entries, ascending_putEntry id s sections.ascending⟩

/-- The sections in the order of their ids; of several for one id the last one counts. -/
def ofList (written : List (String × AnalyzerSection)) : AnalyzerSections :=
  written.foldl (fun sections (id, s) => sections.insert id s) empty

end AnalyzerSections

/-- What a configuration file says. -/
structure ConfigFile where
  interpreter : Option String := none
  vendor : Option String := none
  output : Option String := none
  timeout : Option Nat := none
  probe : Option ProbeSection := none
  analyzers : AnalyzerSections := .empty
deriving DecidableEq, Repr

end LintDesk
