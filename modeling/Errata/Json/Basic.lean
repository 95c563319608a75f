import Errata.Number.Decimal

/-!
# JSON documents

A JSON document with its object members in order. Numbers with a point or an exponent are kept as the
text that writes them.
-/

namespace Errata

/-- A JSON document. -/
inductive Json where
  | null
  | bool (b : Bool)
  | int (n : Int)
  | real (d : Decimal)
  | str (s : String)
  | arr (items : List Json)
  | obj (members : List (String × Json))

namespace Json

instance : Inhabited Json := ⟨.null⟩

/-- An object with one member. -/
def single (key : String) (j : Json) : Json := obj [(key, j)]

/-- The member of an object under a key. -/
def member? (key : String) : Json → Option Json
  | obj members => members.lookup key
  | _ => none

mutual

/-- No object anywhere in the document has a key twice. -/
def WellFormed : Json → Prop
  | arr items => WellFormedItems items
  | obj members => (members.map Prod.fst).Nodup ∧ WellFormedMembers members
  | _ => True

/-- Every item is well formed. -/
def WellFormedItems : List Json → Prop
  | [] => True
  | j :: js => WellFormed j ∧ WellFormedItems js

/-- Every member is well formed. -/
def WellFormedMembers : List (String × Json) → Prop
  | [] => True
  | (_, j) :: ms => WellFormed j ∧ WellFormedMembers ms

end

end Json

end Errata
