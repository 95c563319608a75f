import Errata.Compile
import Errata.Docs.Attribute
import Errata.Script.Member

/-!
# Classes

Taxonomies are classes below one root. A declared class holds a compiled unit and one class for each
case; a case class holds the case. Both may be derived from, and what a class does not have itself it
takes from the first of its ancestors that has it. A class that is not below the root holds nothing.
-/

namespace Errata

/-- A class: one that is always there, or the one with a number in the table. -/
inductive ClassId where
  | object
  | baseException
  | exception
  | root
  | user (n : Nat)
  | builtin (name : String)
  deriving DecidableEq, Repr

/-- What a class of the table holds. -/
inductive ClassBody where
  | declared (compiled : Compiled) (members : List (String × ClassId))
  | case (c : ErrorCase)
  | plain

/-- A class of the table. Its bases are in the order in which they were named, and its ancestors in the
order in which they are searched. -/
structure ClassDef where
  name : String
  qualifiedName : String
  bases : List ClassId
  ancestors : List ClassId
  body : ClassBody

/-- The classes that have been made, by number. -/
structure ClassTable where
  classes : List ClassDef

/-- The class of a type. -/
def ClassId.ofType : String → ClassId
  | "object" => .object
  | "BaseException" => .baseException
  | "Exception" => .exception
  | name => .builtin name

/-- The class of all classes. -/
def ClassId.ofClasses : ClassId := .builtin Script.typeOfTypes

namespace ClassTable

/-- No class has been made. -/
def empty : ClassTable := ⟨[]⟩

instance : Inhabited ClassTable := ⟨empty⟩

/-- The definition of a class of the table. -/
def find? (t : ClassTable) : ClassId → Option ClassDef
  | .user n => t.classes[n]?
  | _ => none

/-- The name of the root. -/
def rootName : String := "JsonErrorEnum"

/-- The name of a class. -/
def name (t : ClassTable) : ClassId → String
  | .object => "object"
  | .baseException => "BaseException"
  | .exception => "Exception"
  | .root => rootName
  | .user n => ((t.classes[n]?).map ClassDef.name).getD ""
  | .builtin name => name

/-- The name of a class with that of the class it belongs to. -/
def qualifiedName (t : ClassTable) (c : ClassId) : String :=
  match t.find? c with
  | some d => d.qualifiedName
  | none => t.name c

/-- The class and its ancestors, in the order in which they are searched. -/
def order (t : ClassTable) : ClassId → List ClassId
  | .object => [.object]
  | .baseException => [.baseException, .object]
  | .exception => [.exception, .baseException, .object]
  | .root => [.root, .exception, .baseException, .object]
  | .user n => .user n :: ((t.classes[n]?).map ClassDef.ancestors).getD []
  | .builtin name => (Script.lineage name).map .ofType

/-- One class derives from another, or is the same. -/
def derives (t : ClassTable) (c d : ClassId) : Bool := (t.order c).contains d

/-- What a class itself says about its case; the root says that there is none. -/
def ownCase? (t : ClassTable) (c : ClassId) : Option (Option ErrorCase) :=
  if c = .root then some none
  else
    match (t.find? c).map ClassDef.body with
    | some (.case e) => some (some e)
    | _ => none

/-- The case that an error of a class is reported as. -/
def case? (t : ClassTable) (c : ClassId) : Option ErrorCase :=
  ((t.order c).findSome? t.ownCase?).join

/-- The unit that a class itself declares. -/
def ownCompiled? (t : ClassTable) (c : ClassId) : Option Compiled :=
  match (t.find? c).map ClassDef.body with
  | some (.declared compiled _) => some compiled
  | _ => none

/-- The unit that a class answers with. -/
def compiled? (t : ClassTable) (c : ClassId) : Option Compiled :=
  (t.order c).findSome? t.ownCompiled?

/-- The class is a taxonomy or a case below the root. -/
def isTaxonomyClass (t : ClassTable) (c : ClassId) : Bool := t.derives c .root

/-- The case class that a class itself has under a name. -/
def ownMember? (t : ClassTable) (c : ClassId) (name : String) : Option ClassId :=
  match (t.find? c).map ClassDef.body with
  | some (.declared _ members) => members.lookup name
  | _ => none

/-- The case class that a class has under a name. -/
def member? (t : ClassTable) (c : ClassId) (name : String) : Option ClassId :=
  (t.order c).findSome? fun d => t.ownMember? d name

end ClassTable

/-- What every failure offers by a public name. -/
def failureAttributes : List String := ["add_note", "args", "with_traceback"]

/-- What the root of all taxonomies offers to its errors by a public name, with the type of each. -/
def rootAttributes : List (String × String) := [
  ("case_name", "property"), ("into_response", "function"), ("to_json_error", "function")]

/-- What the root has for the working of the language, with the type of each. -/
def rootSpecials : List (String × String) := [
  ("__init__", "function"), ("__init_subclass__", "method"), ("__str__", "function"),
  ("__weakref__", "getset_descriptor")]

/-- The attribute that holds the documentation of a taxonomy. -/
def catalogueAttribute : String := "oai"

/-- The attribute that holds the compiled unit of a taxonomy. -/
def compiledAttribute : String := "__json_resp__"

/-- The attribute that holds the case of a case class. -/
def caseAttribute : String := "__json_case__"

/-- The attribute that holds what an error carries. -/
def contentAttribute : String := "content"

/-- The names that no case may take, because errors or catalogues have them as attributes. -/
def reservedNames : List String :=
  failureAttributes ++ rootAttributes.map Prod.fst ++ Docs.Catalogue.publicAttributes ++
    [contentAttribute, catalogueAttribute]

end Errata
