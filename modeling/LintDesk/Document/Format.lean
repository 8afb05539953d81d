/-! # Values of document formats

Analyzers and configurations are written in several document formats. A format says how its values
are taken as texts, numbers, lists and records; the records of this library are read once for all
formats. A reader answers `none` when a value is not of the wanted kind.
-/

namespace LintDesk.Document

/-- How the values `ν` of a document format are taken apart. -/
structure Format (ν : Type) where
  /-- Whether the value stands for an absent one, where one may be absent; a value that is marked as
  absent and then is not says neither. -/
  isAbsent? : ν → Option Bool
  text? : ν → Option String
  flag? : ν → Option Bool
  /-- The value as an integer between two bounds, both of them allowed. -/
  integer? : Int → Int → ν → Option Int
  /-- The value as one of several names. -/
  choice? : ν → Option String
  items? : ν → Option (List ν)
  fields? : ν → Option (List (String × ν))
  /-- Whether a record written as a list may hold more items than it has fields. -/
  allowsSurplus : Bool

/-- A field of a record; a list that stands for the record may end before an omittable field. -/
structure Field where
  name : String
  omittable : Bool := false

namespace Format

variable {ν α : Type} (F : Format ν)

/-- The fields of a record that is written by names; none of the known fields may be written
twice. -/
def namedFields? (known : List Field) (written : List (String × ν)) :
    Option (String → Option ν) :=
  let ours := (written.map (·.1)).filter fun n => known.any (·.name == n)
  if ours.eraseDups.length = ours.length then
    some fun n => (written.find? (·.1 == n)).map (·.2)
  else none

/-- The fields of a record that is written as a list of their values. -/
def listedFields? (known : List Field) (items : List ν) : Option (String → Option ν) :=
  if (known.drop items.length).any (!·.omittable) then none
  else if items.length > known.length && !F.allowsSurplus then none
  else some fun n => (((known.map (·.name)).zip items).find? (·.1 == n)).map (·.2)

/-- The fields of a record. -/
def record? (known : List Field) (v : ν) : Option (String → Option ν) :=
  match F.fields? v with
  | some written => namedFields? known written
  | none => (F.items? v).bind (F.listedFields? known)

/-- A field that has to be there. -/
def required (read : ν → Option α) (v : Option ν) : Option α := v.bind read

/-- A field that may be missing, with the value that it then has. -/
def defaulted (read : ν → Option α) (dflt : α) : Option ν → Option α
  | none => some dflt
  | some v => read v

/-- A field that may be missing or absent. -/
def optional (read : ν → Option α) : Option ν → Option (Option α)
  | none => some none
  | some v => do
      if ← F.isAbsent? v then return none
      else return some (← read v)

def list? (read : ν → Option α) (v : ν) : Option (List α) := (F.items? v).bind (·.mapM read)

def texts? (v : ν) : Option (List String) := F.list? F.text? v

/-- An integer of 32 bits with sign. -/
def int32? (v : ν) : Option Int := F.integer? (-Nat.pow 2 31) (Nat.pow 2 31 - 1) v

end Format
end LintDesk.Document
