import Errata.Docs.Catalogue

/-!
# Attributes of a catalogue

An artifact can be reached by name in two ways. Looked up as an entry, only documented names are found.
As an attribute, the catalogue's own attributes come first, and a name that begins with an underscore
is never an artifact.
-/

namespace Errata.Docs

namespace Catalogue

/-- The methods of a catalogue that are meant to be called by name. -/
def publicMethods : List String := ["components", "get", "items", "keys", "values"]

/-- The methods that operators and built-in functions call. -/
def operatorMethods : List String := [
  "__class__", "__class_getitem__", "__contains__", "__delattr__", "__dir__", "__eq__", "__format__",
  "__ge__", "__getattr__", "__getattribute__", "__getitem__", "__getstate__", "__gt__", "__init__",
  "__init_subclass__", "__iter__", "__le__", "__len__", "__lt__", "__ne__", "__new__", "__reduce__",
  "__reduce_ex__", "__repr__", "__setattr__", "__sizeof__", "__str__", "__subclasshook__"]

/-- The attribute that holds the name of the type. -/
def typeNameAttribute : String := "type_name"

/-- The public attributes that a catalogue has of its own. -/
def publicAttributes : List String := typeNameAttribute :: publicMethods

/-- The attributes that are there and hold nothing. -/
def emptyAttributes : List String := ["__hash__", "__reversed__", "__weakref__"]

/-- What the catalogues as a whole say of themselves. -/
def descriptions : List (String × String) := [
  ("__doc__", "Documentation artifacts of one unit, keyed (and attribute-accessible) by name."),
  ("__module__", "json_resp.openapi")]

/-- The attributes of which only the type matters. -/
def plainAttributes : List (String × String) := [
  ("__slots__", "tuple"), ("__orig_bases__", "tuple"), ("__abstractmethods__", "frozenset"),
  ("__dict__", "dict"), ("_artifacts", "dict"), ("_abc_impl", "_abc_data")]

/-- What an attribute of a catalogue can be. -/
inductive Attribute where
  | method (name : String)
  | text (s : String)
  | nothing
  | plain (type : String)
  | artifact (a : Artifact)

/-- Why a name is not found. -/
inductive Missing where
  | entry (name : String)
  | hidden (name : String)
  | undocumented (typeName name : String)
  deriving DecidableEq, Repr

/-- What went wrong, in words. -/
def Missing.message : Missing → String
  | entry name => Text.quoted name
  | hidden name => name
  | undocumented typeName name => s!"{typeName} documents no error named {Text.quoted name}"

/-- The artifact under a name. -/
def entry (c : Catalogue) (name : String) : Except Missing Artifact :=
  match c.get? name with
  | some a => .ok a
  | none => .error (.entry name)

/-- A name that is not meant to be seen. -/
def isHidden (name : String) : Bool := name.toList.head? == some '_'

/-- The attribute of a name. -/
def getAttribute (c : Catalogue) (name : String) : Except Missing Attribute :=
  if publicMethods.contains name || operatorMethods.contains name then .ok (.method name)
  else if name = typeNameAttribute then .ok (.text c.typeName)
  else if emptyAttributes.contains name then .ok .nothing
  else
    match descriptions.lookup name, plainAttributes.lookup name with
    | some s, _ => .ok (.text s)
    | none, some type => .ok (.plain type)
    | none, none =>
      if isHidden name then .error (.hidden name)
      else
        match c.get? name with
        | some a => .ok (.artifact a)
        | none => .error (.undocumented c.typeName name)

end Catalogue

end Errata.Docs
