/-! # JSON documents

A document keeps the members of an object in their order. Numbers written without fraction and
exponent are integers; all others keep their spelling.
-/

namespace LintDesk

inductive Json where
  | null
  | bool (b : Bool)
  | int (n : Int)
  | real (spelling : String)
  | str (s : String)
  | arr (items : List Json)
  | obj (members : List (String × Json))
deriving Inhabited

namespace Json

/-- The value of the last member named `key`. -/
def get? (key : String) : Json → Option Json
  | obj ms => (ms.reverse.find? (·.1 == key)).map (·.2)
  | _ => none

def str? : Json → Option String
  | str s => some s
  | _ => none

def bool? : Json → Option Bool
  | bool b => some b
  | _ => none

def int? : Json → Option Int
  | int n => some n
  | _ => none

def arr? : Json → Option (List Json)
  | arr xs => some xs
  | _ => none

def isNull : Json → Bool
  | null => true
  | _ => false

def ofNat (n : Nat) : Json := int (Int.ofNat n)

def strings (xs : List String) : Json := arr (xs.map str)

/-- A text, or null for an absent one. -/
def ofOption (s : Option String) : Json := (s.map str).getD null

end Json
end LintDesk
