import Errata.Class.Declaration
import Errata.Class.Instance

/-!
# Subjects

Whatever an expression of names and attributes can stand for: a class, a catalogue, an artifact, an
error, a value, a record or a row of such things, a member of a type, or a thing of which only the type
matters.
-/

namespace Errata

/-- What an expression stands for. -/
inductive Subject where
  | cls (c : ClassId)
  | catalogue (c : Docs.Catalogue)
  | artifact (a : Docs.Artifact)
  | error (i : Instance)
  | value (v : Value)
  | record (type : String) (fields : List (String × Subject))
  | row (parts : List Subject)
  | member (owner name : String) (m : Script.Member)
  | function (name : String)
  | other (type : String)

instance : Inhabited Subject := ⟨.other ""⟩

/-- A document as a value. -/
def Json.toValue : Json → Value
  | null => .null
  | bool b => .bool b
  | int n => .int n
  | real d => .float ((Floating.ofText? d.text).getD .nan)
  | str s => .text s
  | arr js => .list (toValues js)
  | obj ms => .dict (toEntries ms)
where
  /-- The documents of a row as values. -/
  toValues : List Json → List Value
    | [] => []
    | j :: js => j.toValue :: toValues js
  /-- The members of a document as entries. -/
  toEntries : List (String × Json) → List (Value × Value)
    | [] => []
    | (k, j) :: ms => (.text k, j.toValue) :: toEntries ms

/-- A wording as a value. -/
def Wording.toValue : Wording → Value
  | literal s => .text s
  | keyword d => .disposition d

namespace Subject

/-- A text. -/
def text (s : String) : Subject := value (.text s)

/-- Something that may be missing. -/
def optional (f : α → Subject) : Option α → Subject
  | some a => f a
  | none => value .null

/-- A status as it is kept. -/
def ofStatus (s : Status) : Subject :=
  record "Status" [("value", value (.int s.value)), ("symbol", optional text s.symbol?)]

/-- The attributes of a case as they are kept. -/
def ofAttributes : Attributes → Subject
  | .request r =>
    let wording (w : Wording) : Subject := value w.toValue
    record "ClientFacing" [
      ("status", ofStatus r.status), ("code", wording r.code), ("hint", optional wording r.hint),
      ("description", optional wording r.description)]
  | .internal => record "Internal" []

/-- A case as it is kept. -/
def ofCase (c : ErrorCase) : Subject :=
  record "Case" [
    ("name", text c.name), ("naive", value (.bool c.naive)), ("attributes", ofAttributes c.attributes)]

/-- A taxonomy as it is kept. -/
def ofTaxonomy (t : Taxonomy) : Subject :=
  record "ErrorTaxonomyIR" [
    ("type_name", text t.typeName),
    ("config", record "UnitConfig" [("internal_error_code", value t.internalCode.toValue)]),
    ("cases", row (t.cases.map ofCase))]

/-- A rule as it is kept. -/
def ofRule (r : Rule) : Subject :=
  record "ConversionRule" [
    ("type_name", text r.typeName), ("case_name", text r.caseName), ("naive", value (.bool r.naive)),
    ("internal", value (.bool r.isInternal)), ("status", value (.int r.status)), ("code", text r.code),
    ("hint", optional text r.hint), ("log_enabled", value (.bool r.logEnabled))]

/-- A response table as it is kept. -/
def ofTable (t : ResponseTable) : Subject :=
  record "ResponseTable" [("type_name", text t.typeName), ("rules", row (t.rules.map ofRule))]

/-- A compiled unit. -/
def ofCompiled (c : Compiled) : Subject :=
  record "CompiledUnit" [
    ("ir", ofTaxonomy c.taxonomy), ("responses", ofTable c.table), ("openapi", catalogue c.catalogue)]

/-- The parts of an artifact as they are kept. The parts of a combined artifact are single ones. -/
def artifactFields (a : Docs.Artifact) : List (String × Subject) :=
  [("schema_name", text a.name), ("schema", value a.schema.toValue), ("response", value a.response.toValue),
    ("status_index", value (Json.obj a.responses.entries).toValue), ("status", value (.int a.status)),
    ("codes", row (a.leaves.map fun l => value l.code.toValue)),
    ("parts", row (a.parts.map fun l => artifact (.single l)))]

end Subject

/-- Why an expression stands for nothing. -/
inductive LookupFault where
  | noClass (name : String)
  | noError (name : String)
  | classAttribute (cls name : String)
  | objectAttribute (type name : String)
  | hiddenAttribute (name : String)
  | catalogue (e : Docs.Catalogue.Missing)
  deriving DecidableEq, Repr

/-- The type of the fault. -/
def LookupFault.type : LookupFault → String
  | noClass _ => "LookupError"
  | noError _ => "LookupError"
  | catalogue (.entry _) => "KeyError"
  | _ => "AttributeError"

/-- The most bytes of the name of a class that are told. -/
def maxNameBytes : Nat := 50

/-- The name of a class as it is told. A character that does not fit is replaced. -/
def shortName (name : String) : String :=
  let (kept, divided) := Text.cutAt maxNameBytes name.toList
  String.ofList (if divided then kept ++ ['\uFFFD'] else kept)

/-- What went wrong, in words. -/
def LookupFault.message : LookupFault → String
  | noClass name => s!"no class {name}"
  | noError name => s!"no error {name}"
  | classAttribute cls name => s!"type object '{shortName cls}' has no attribute '{name}'"
  | objectAttribute type name => s!"'{shortName type}' object has no attribute '{name}'"
  | hiddenAttribute name => name
  | catalogue e => e.message

/-- What a record offers besides its fields, with the type of each. -/
def recordMembers : String → List (String × String)
  | "ErrorTaxonomyIR" => [("client_cases", "tuple"), ("internal_cases", "tuple")]
  | "Case" => [("is_internal", "bool")]
  | "ResponseTable" => [("rule_for", "method"), ("convert", "method"), ("into_response", "method")]
  | "ConversionRule" => [("apply", "method")]
  | "Status" => [("__int__", "method"), ("__str__", "method")]
  | "DocArtifact" =>
    [("responses", "method"), ("schemas", "method"), ("components", "method")]
  | _ => []

/-- What every record has for the working of the language, with the type of each. -/
def recordSpecials : List (String × String) := [
  ("__annotations__", "dict"), ("__dataclass_fields__", "dict"),
  ("__dataclass_params__", "_DataclassParams"), ("__delattr__", "method"), ("__dict__", "dict"),
  ("__doc__", "str"), ("__eq__", "method"), ("__hash__", "method"), ("__init__", "method"),
  ("__match_args__", "tuple"), ("__module__", "str"), ("__repr__", "method"),
  ("__setattr__", "method"), ("__weakref__", "NoneType")]

namespace ClassTable

/-- The description of the root. -/
def rootDescription : String := "Base class of every error taxonomy."

/-- The module that a class is told to be from. -/
def moduleName : ClassId → String
  | .root => "json_resp.taxonomy"
  | .user _ => "types"
  | _ => "builtins"

/-- The classes that a class was made with. -/
def bases (t : ClassTable) : ClassId → List ClassId
  | .user n => ((t.classes[n]?).map ClassDef.bases).getD []
  | c => (t.order c).tail.take 1

/-- The class whose inner form the values of a class have. -/
def base? (t : ClassTable) (c : ClassId) : Option ClassId :=
  let bases := t.bases c
  (bases.find? fun b => (ClassDecl.layout? t b).isSome).or bases.head?

/-- What every class says of itself under a name. -/
def selfDescription? (t : ClassTable) (c : ClassId) (name : String) : Option Subject :=
  let isOwn : Bool := match c with
    | .root | .user _ => true
    | _ => false
  match name with
  | "__class__" => some (.cls .ofClasses)
  | "__name__" => some (.text (t.name c))
  | "__qualname__" => some (.text (t.qualifiedName c))
  | "__module__" => some (.text (moduleName c))
  | "__bases__" => some (.row ((t.bases c).map .cls))
  | "__base__" => some (.optional .cls (t.base? c))
  | "__mro__" => some (.row ((t.order c).map .cls))
  | "__doc__" =>
    match c with
    | .root => some (.text rootDescription)
    | .user _ => some (.value .null)
    | c => some (.other (Script.docType (t.name c) Script.Member.ofType))
  | "__annotations__" => if isOwn then some (.other "dict") else none
  | "__text_signature__" => some (.value .null)
  | "__dict__" => some (.other "mappingproxy")
  | "__basicsize__" => if isOwn && t.isTaxonomyClass c then some (.value (.int 80)) else some (.other "int")
  | "__itemsize__" => if isOwn && t.isTaxonomyClass c then some (.value (.int 0)) else some (.other "int")
  | "__flags__" =>
    if isOwn && t.isTaxonomyClass c then some (.value (.int 1074288128)) else some (.other "int")
  | "__weakrefoffset__" =>
    if isOwn && t.isTaxonomyClass c then some (.value (.int 72)) else some (.other "int")
  | "__dictoffset__" =>
    if isOwn && t.isTaxonomyClass c then some (.value (.int 16)) else some (.other "int")
  | _ => none

/-- What the root itself has under a name. -/
def rootAttribute? (name : String) : Option Subject :=
  ((rootAttributes ++ rootSpecials).lookup name).map fun type =>
    if type = "function" then .function name else .other type

/-- What a class itself has under a name. -/
def ownAttribute? (t : ClassTable) (name : String) (c : ClassId) : Option Subject :=
  match c with
  | .user _ =>
    match t.ownMember? c name with
    | some d => some (.cls d)
    | none =>
      if name = catalogueAttribute then (t.ownCompiled? c).map fun u => .catalogue u.catalogue
      else if name = compiledAttribute then (t.ownCompiled? c).map .ofCompiled
      else if name = caseAttribute then (t.ownCase? c).map (.optional .ofCase)
      else none
  | .root => if name = caseAttribute then some (.value .null) else rootAttribute? name
  | c =>
    (((Script.TypeEntry.find? (t.name c)).bind fun e => e.member? name).filter (·.ofType ≠ "")).map
      (.member (t.name c) name)

/-- What every class has under a name because it is one. -/
def commonAttribute? (name : String) : Option Subject :=
  (Script.member? Script.typeOfTypes name).map fun (_, m) => .other m.ofValue

/-- The attribute of a class. -/
def getAttribute (t : ClassTable) (c : ClassId) (name : String) : Except LookupFault Subject :=
  if name = Script.abstractAttribute then .error (.hiddenAttribute name)
  else
    match (t.selfDescription? c name).or (((t.order c).findSome? (t.ownAttribute? name)).or
      (commonAttribute? name)) with
    | some s => .ok s
    | none => .error (.classAttribute (t.name c) name)

end ClassTable

namespace Subject

/-- The name of the type of a subject. -/
def typeName (t : ClassTable) : Subject → String
  | cls _ => Script.typeOfTypes
  | catalogue _ => "DocArtifacts"
  | artifact _ => "DocArtifact"
  | error i => t.name i.cls
  | value v => v.typeName
  | record type _ => type
  | row _ => "tuple"
  | member _ _ m => m.ofType
  | function _ => "function"
  | other type => type

/-- The attribute of a thing of which only the type matters. -/
def typeAttribute (type name : String) : Except LookupFault Subject :=
  if name = "__class__" then .ok (cls (.ofType type))
  else
    match Script.valueAttribute? type name with
    | some a => .ok (other a)
    | none => .error (.objectAttribute type name)

/-- The attribute of a record. -/
def recordAttribute (type : String) (fields : List (String × Subject)) (name : String) :
    Except LookupFault Subject :=
  match fields.lookup name with
  | some s => .ok s
  | none =>
    match (recordMembers type ++ recordSpecials).lookup name with
    | some a => .ok (other a)
    | none => typeAttribute type name

/-- The attribute of an artifact. -/
def artifactAttribute (a : Docs.Artifact) (name : String) : Except LookupFault Subject :=
  if name = "description" then .ok (text a.description)
  else if name = "leaves" then .ok (row (a.leaves.map fun l => artifact (.single l)))
  else recordAttribute "DocArtifact" (artifactFields a) name

/-- What every error says of itself under a name. -/
def errorDescription? (i : Instance) (name : String) : Option Subject :=
  match name with
  | "__class__" => some (cls i.cls)
  | "__doc__" => some (value .null)
  | "__module__" => some (text (ClassTable.moduleName i.cls))
  | "__annotations__" => some (other "dict")
  | _ => none

/-- What an error has where one of its classes has something. The only property is the name of the case, and the only
data that are kept are the arguments. -/
def bound (t : ClassTable) (i : Instance) : Subject → Subject
  | member _ "args" _ => row (i.args.map value)
  | member _ _ m => other m.ofValue
  | function _ => other "method"
  | other "property" => text (i.caseName t)
  | other "getset_descriptor" => value .null
  | s => s

/-- The attribute of an error. What it carries comes before what its classes have. -/
def errorAttribute (t : ClassTable) (i : Instance) (name : String) : Except LookupFault Subject :=
  if name = contentAttribute then .ok (value i.content)
  else
    match (errorDescription? i name).or (((t.order i.cls).findSome? (t.ownAttribute? name)).map (bound t i)) with
    | some s => .ok s
    | none => .error (.objectAttribute (t.name i.cls) name)

/-- The attribute of a subject. -/
def getAttribute (t : ClassTable) (name : String) : Subject → Except LookupFault Subject
  | cls c => t.getAttribute c name
  | error i => errorAttribute t i name
  | catalogue c =>
    match c.getAttribute name with
    | .ok (.method _) => .ok (if name = "__class__" then cls (.builtin "DocArtifacts") else other "method")
    | .ok (.text s) => .ok (text s)
    | .ok .nothing => .ok (value .null)
    | .ok (.plain type) => .ok (other type)
    | .ok (.artifact a) => .ok (artifact a)
    | .error e => .error (.catalogue e)
  | artifact a => artifactAttribute a name
  | record type fields => recordAttribute type fields name
  | s => typeAttribute (s.typeName t) name

/-- The attribute of an attribute, and so on. -/
def getAttributes (t : ClassTable) (s : Subject) (names : List String) : Except LookupFault Subject :=
  names.foldlM (fun s name => s.getAttribute t name) s

/-- How a class is shown. -/
def inspectClass (t : ClassTable) (c : ClassId) : String :=
  let home := match c with
    | .root | .user _ => ClassTable.moduleName c ++ "."
    | _ => ""
  s!"<class '{home}{t.qualifiedName c}'>"

/-- How a member of a type is shown. -/
def inspectMember (owner name : String) (m : Script.Member) : String :=
  match m with
  | .method => s!"<method '{name}' of '{owner}' objects>"
  | .operator => s!"<slot wrapper '{name}' of '{owner}' objects>"
  | .data "getset_descriptor" _ => s!"<attribute '{name}' of '{owner}' objects>"
  | .data "member_descriptor" _ => s!"<member '{name}' of '{owner}' objects>"
  | m => "<" ++ m.ofType ++ ">"

/-- The fields of an artifact, shown. -/
def inspectSingle (a : Docs.Artifact) (parts : List String) : String :=
  bracketed "DocArtifact(" ")" [
    "schema_name=" ++ Text.quoted a.name, "schema=" ++ a.schema.toValue.inspect,
    "response=" ++ a.response.toValue.inspect,
    "status_index=" ++ (Json.obj a.responses.entries).toValue.inspect,
    "status=" ++ toString a.status,
    "codes=" ++ tupled (a.leaves.map fun l => l.code.toValue.inspect), "parts=" ++ tupled parts]

/-- An artifact, shown with all its parts. -/
def inspectArtifact (a : Docs.Artifact) : String :=
  inspectSingle a (a.parts.map fun l => inspectSingle (.single l) [])

mutual

/-- The subject as it would be written. -/
def inspect (t : ClassTable) : Subject → String
  | cls c => inspectClass t c
  | value v => v.inspect
  | error i => i.inspect t
  | catalogue c => c.inspect
  | artifact a => inspectArtifact a
  | record type fields => bracketed (type ++ "(") ")" (inspectFields t fields)
  | row parts => tupled (inspectAll t parts)
  | member owner name m => inspectMember owner name m
  | s => "<" ++ s.typeName t ++ ">"

/-- The parts of a row, as they would be written. -/
def inspectAll (t : ClassTable) : List Subject → List String
  | [] => []
  | s :: ss => inspect t s :: inspectAll t ss

/-- The fields of a record, as they would be written. -/
def inspectFields (t : ClassTable) : List (String × Subject) → List String
  | [] => []
  | (name, s) :: fs => assigned (name, inspect t s) :: inspectFields t fs

end

end Subject

/-- The classes that can be named. -/
abbrev Scope := OrderedMap String ClassId

namespace Scope

/-- The class of a name; the root can always be named. -/
def find? (s : Scope) (name : String) : Option ClassId :=
  (s.get? name).or (if name = ClassTable.rootName then some .root else none)

/-- What a path of a class name and attributes stands for. -/
def resolve (s : Scope) (t : ClassTable) : List String → Except LookupFault Subject
  | [] => .error (.noClass "")
  | name :: names =>
    match s.find? name with
    | some c => (Subject.cls c).getAttributes t names
    | none => .error (.noClass name)

end Scope

end Errata
