import Errata.Script.TypeTable
import Errata.Text.Words

/-!
# Members of types

What is found under a name in a type of a script or in a value of it: the type of the attribute, and the type
that holds it. A type has its own members and those of the types that it is a special case of; beside them it
has what every type has because it is one.
-/

namespace Errata.Script

/-- How a type holds a member. -/
inductive Member where
  | method
  | operator
  | function
  | data (ofType ofValue : String)
  deriving DecidableEq, Repr

namespace Member

/-- The type of a member that is asked of the type itself. -/
def ofType : Member → String
  | method => "method_descriptor"
  | operator => "wrapper_descriptor"
  | function => "builtin_function_or_method"
  | data t _ => t

/-- The type of a member that is asked of a value. -/
def ofValue : Member → String
  | method => "builtin_function_or_method"
  | operator => "method-wrapper"
  | function => "builtin_function_or_method"
  | data _ v => v

end Member

/-- The words of a text. -/
def wordsOf (s : String) : List String := (Text.words s.toList).map String.ofList

namespace TypeEntry

/-- The type of a name. -/
def find? (name : String) : Option TypeEntry := all.find? fun e => e.name = name

/-- The data that a type holds under a name. -/
def data? (e : TypeEntry) (name : String) : Option Member :=
  (wordsOf e.data).findSome? fun w =>
    match Text.splitOn (· = ':') w.toList with
    | [n, t, v] => if String.ofList n = name then some (.data (String.ofList t) (String.ofList v)) else none
    | _ => none

/-- What a type itself holds under a name. -/
def member? (e : TypeEntry) (name : String) : Option Member :=
  if (wordsOf e.methods).contains name then some .method
  else if (wordsOf e.operators).contains name then some .operator
  else if (wordsOf e.functions).contains name then some .function
  else e.data? name

end TypeEntry

/-- A type and those that it is a special case of, nearest first. -/
def lineage (type : String) : List String :=
  type :: ((TypeEntry.find? type).map fun e => wordsOf e.ancestors).getD ["object"]

/-- What a type holds under a name, with the type that holds it. -/
def member? (type name : String) : Option (String × Member) :=
  (lineage type).findSome? fun t =>
    ((TypeEntry.find? t).bind fun e => e.member? name).map fun m => (t, m)

/-- What every type says of itself, with the type of each. -/
def typeData : List (String × String) := [
  ("__class__", "type"), ("__name__", "str"), ("__qualname__", "str"), ("__module__", "str"),
  ("__bases__", "tuple"), ("__base__", "type"), ("__mro__", "tuple"), ("__dict__", "mappingproxy"),
  ("__text_signature__", "NoneType"), ("__basicsize__", "int"), ("__itemsize__", "int"),
  ("__flags__", "int"), ("__weakrefoffset__", "int"), ("__dictoffset__", "int")]

/-- The name of the type of types. -/
def typeOfTypes : String := "type"

/-- The name under which a description is found. -/
def docAttribute : String := "__doc__"

/-- The type of the description of a type or of its values; where none is given it is a text. -/
def docType (type : String) (pick : Member → String) : String :=
  (((TypeEntry.find? type).bind fun e => e.data? docAttribute).map pick).getD "str"

/-- The type of what a type has under a name. -/
def typeAttribute? (type name : String) : Option String :=
  if name = docAttribute then some (docType type Member.ofType)
  else
    match typeData.lookup name with
    | some t => some t
    | none =>
      let t? : Option String := match member? type name with
        | some (_, m) => some m.ofType
        | none => (member? typeOfTypes name).map fun (_, m) => m.ofValue
      t?.filter (· ≠ "")

/-- The type of what a value of a type has under a name. -/
def valueAttribute? (type name : String) : Option String :=
  if name = docAttribute then some (docType type Member.ofValue)
  else ((member? type name).map fun (_, m) => m.ofValue).filter (· ≠ "")

/-- The names that scripts can use without binding them, with the types of what is no type and no
function. -/
def namedValues : List (String × String) := [
  ("Ellipsis", "ellipsis"), ("NotImplemented", "NotImplementedType"), ("__debug__", "bool"),
  ("__doc__", "str"), ("__name__", "str"), ("__package__", "str"), ("__loader__", "object"),
  ("__spec__", "ModuleSpec"), ("__builtins__", "dict"), ("copyright", "_Printer"),
  ("credits", "_Printer"), ("license", "_Printer"), ("exit", "Quitter"), ("quit", "Quitter"),
  ("help", "_Helper")]

/-- Further names of types. -/
def typeAliases : List (String × String) := [("EnvironmentError", "OSError"), ("IOError", "OSError")]

end Errata.Script
