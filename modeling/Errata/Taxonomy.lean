import Errata.Attributes
import Errata.Settings

/-!
# Error taxonomies

A unit as it is declared, and the taxonomy it stands for once every case has been read: named cases in
the order of their declaration, each with its attributes.
-/

namespace Errata

/-- A case as it is declared. A naive case carries no payload. -/
structure CaseDecl where
  name : String
  naive : Bool
  annotation : Option Annotation

/-- A unit as it is declared. No case may take one of the reserved names. -/
structure UnitDecl where
  name : String
  annotation : Option Annotation
  cases : List CaseDecl
  reserved : List String

/-- A case that has been read. -/
structure ErrorCase where
  name : String
  naive : Bool
  attributes : Attributes
  deriving DecidableEq

namespace ErrorCase

/-- The attributes of a case that answers a request. -/
def request? (c : ErrorCase) : Option RequestAttributes :=
  match c.attributes with
  | .request r => some r
  | .internal => none

/-- The case is not shown to the client. -/
def isInternal (c : ErrorCase) : Bool := c.request?.isNone

end ErrorCase

/-- The cases of a unit and the code that its internal cases share. -/
structure Taxonomy where
  typeName : String
  internalCode : Wording
  cases : List ErrorCase
  deriving DecidableEq

namespace Taxonomy

/-- The cases that answer a request. -/
def clientCases (t : Taxonomy) : List ErrorCase := t.cases.filter fun c => !c.isInternal

/-- The cases that are not shown to the client. -/
def internalCases (t : Taxonomy) : List ErrorCase := t.cases.filter ErrorCase.isInternal

/-- Reports the cases whose name is reserved by the surroundings. -/
def checkClashes (t : Taxonomy) (reserved : List String) : Validation Unit :=
  t.cases.forM fun c => do
    if reserved.contains c.name then Validation.report s!"{t.typeName}.{c.name}" .nameClash

/-- Reports the cases shown to the client whose name the internal cases are documented under. -/
def checkInternalName (t : Taxonomy) : Validation Unit := do
  if !t.internalCases.isEmpty then
    t.clientCases.forM fun c => do
      if c.name == internalErrorName then Validation.report s!"{t.typeName}.{c.name}" .reservedName

/-- Reports what is wrong with the names of the cases. -/
def checkNames (t : Taxonomy) (reserved : List String) : Validation Unit := do
  t.checkClashes reserved
  t.checkInternalName

/-- What is wrong with the names of the cases. -/
def nameDiagnostics (t : Taxonomy) (reserved : List String) : Except Context.Fault (List Diagnostic) :=
  (t.checkNames reserved).alone.map Prod.snd

end Taxonomy

namespace CaseDecl

/-- Reads a case of the unit with the given name. A case that cannot be read is left out. -/
def read (c : CaseDecl) (unitName : String) (suppress : Bool) : Validation (Option ErrorCase) := do
  let span := s!"{unitName}.{c.name}"
  match c.annotation with
  | none =>
    Validation.report span .missingAttribute
    return none
  | some a => return (← a.read span suppress).map fun attributes => ⟨c.name, c.naive, attributes⟩

/-- The case of the unit with the given name, and what is wrong with its declaration. -/
def classify (c : CaseDecl) (unitName : String) (suppress : Bool) :
    Except Context.Fault (Option ErrorCase × List Diagnostic) :=
  (c.read unitName suppress).alone

end CaseDecl

namespace UnitDecl

/-- The code that the unit gives to its internal cases. -/
def internalCode (u : UnitDecl) : Logged Wording :=
  match u.annotation with
  | none => .quiet defaultInternalCode
  | some a => a.internalCode u.name

/-- The taxonomy of some cases of the unit. -/
def taxonomy (u : UnitDecl) (cases : List ErrorCase) : Taxonomy :=
  ⟨u.name, u.internalCode.result, cases⟩

/-- Reads every case, and checks the names of those that could be read. -/
def read (u : UnitDecl) (suppress : Bool) : Validation Taxonomy := do
  let cases ← u.cases.filterMapM fun c => c.read u.name suppress
  (u.taxonomy cases).checkNames u.reserved
  return u.taxonomy cases

end UnitDecl

end Errata
