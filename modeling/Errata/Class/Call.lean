import Errata.Class.Subject

/-!
# Calls

What happens when a subject is called: a class makes an error if it is a case, and whatever else is called
fails in a way of its own. A class statement whose first base is no class calls the type of that base.
-/

namespace Errata

/-- Why a call makes no error. -/
inductive CallFault where
  | construction (e : Instance.Fault)
  | notCallable (type : String)
  | missingReceiver (owner name : String)
  | surplus (owner name : String) (taken given : Nat)
  | unbound (owner name : String)
  | foreign (owner name type : String)
  | operatorAlone (owner name : String)
  | operatorForeign (owner name type : String)
  | arguments (text : String)
  | lookup (e : LookupFault)
  deriving DecidableEq, Repr

/-- What went wrong, in words. -/
def CallFault.message : CallFault → String
  | construction e => e.message
  | notCallable type => s!"'{type}' object is not callable"
  | missingReceiver owner name => s!"{owner}.{name}() missing 1 required positional argument: 'self'"
  | surplus owner name taken given =>
    s!"{owner}.{name}() takes {taken} positional argument but {given} were given"
  | unbound owner name => s!"unbound method {owner}.{name}() needs an argument"
  | foreign owner name type => s!"descriptor '{name}' for '{owner}' objects doesn't apply to a '{type}' object"
  | operatorAlone owner name => s!"descriptor '{name}' of '{owner}' object needs an argument"
  | operatorForeign owner name type =>
    s!"descriptor '{name}' requires a '{owner}' object but received a '{type}'"
  | arguments text => text
  | lookup e => e.message

/-- The type of the fault. -/
def CallFault.type : CallFault → String
  | lookup e => e.type
  | _ => "TypeError"

namespace Subject

/-- The attribute that every error that was made is asked for. -/
def caseNameAttribute : String := "case_name"

/-- What is said of a thing that was made and is no error. -/
def noError (type : String) : CallFault := .lookup (.objectAttribute type caseNameAttribute)

/-- Calls a class. -/
def callClass (t : ClassTable) (c : ClassId) (args : List Value) : Except CallFault Instance :=
  if t.isTaxonomyClass c then (Instance.construct t c args).mapError .construction
  else if c = .ofClasses then
    match args with
    | [v] => .error (.lookup (.classAttribute v.typeName caseNameAttribute))
    | _ => .error (.arguments "type() takes 1 or 3 arguments")
  else if !t.derives c .baseException && !args.isEmpty then
    .error (.arguments s!"{t.name c}() takes no arguments")
  else .error (noError (t.name c))

/-- Calls a function of the root. -/
def callFunction (name : String) (args : List Value) : CallFault :=
  match args with
  | [] => .missingReceiver ClassTable.rootName name
  | v :: rest =>
    if name = "__init__" then .lookup (.classAttribute v.typeName caseAttribute)
    else if !rest.isEmpty then .surplus ClassTable.rootName name 1 args.length
    else if name = "__str__" then .lookup (.classAttribute v.typeName caseAttribute)
    else .lookup (.objectAttribute v.typeName compiledAttribute)

/-- Calls a member of a type with values. -/
def callMember (owner name : String) (m : Script.Member) (args : List Value) : CallFault :=
  match m, args with
  | .method, [] => .unbound owner name
  | .method, v :: _ =>
    if (Script.lineage v.typeName).contains owner then noError "NoneType" else .foreign owner name v.typeName
  | .operator, [] => .operatorAlone owner name
  | .operator, v :: _ =>
    if (Script.lineage v.typeName).contains owner then noError "NotImplementedType"
    else .operatorForeign owner name v.typeName
  | .function, _ => noError "NoneType"
  | .data type _, _ => .notCallable type

/-- The types of things that can be called without a fault of their own. -/
def callableTypes : List String := ["method", "builtin_function_or_method", "method-wrapper"]

/-- Calls a subject. -/
def call (t : ClassTable) (args : List Value) : Subject → Except CallFault Instance
  | cls c => callClass t c args
  | function name => .error (callFunction name args)
  | member owner name m => .error (callMember owner name m args)
  | s =>
    let type := s.typeName t
    .error (if callableTypes.contains type then noError "NoneType" else .notCallable type)

/-- How many values the fields of a record take at least, and at most. -/
def recordArity : String → Option (Nat × Nat)
  | "CompiledUnit" => some (3, 3)
  | "ErrorTaxonomyIR" => some (3, 3)
  | "Case" => some (3, 3)
  | "ClientFacing" => some (2, 4)
  | "Internal" => some (0, 0)
  | "ResponseTable" => some (2, 2)
  | "UnitConfig" => some (0, 1)
  | "Status" => some (1, 2)
  | "DocArtifacts" => some (2, 2)
  | _ => none

/-- What is said of a record that is given three values. -/
def surplusFields (type : String) (least most : Nat) : CallFault :=
  let taken := if least = most then toString (most + 1) else s!"from {least + 1} to {most + 1}"
  let noun := if least = most && most = 0 then "argument" else "arguments"
  .arguments s!"{type}.__init__() takes {taken} positional {noun} but 4 were given"

/-- What is said of a type that is given three values and keywords. -/
def typeFault? (type : String) (keyword? : Option String) : Option CallFault :=
  let text (s : String) : Option CallFault := some (.arguments s)
  let noKeywords (s : String) : Option CallFault :=
    if keyword?.isSome then text s!"{type}() takes no keyword arguments" else text s
  match type with
  | "property" =>
    keyword?.map fun k => .arguments s!"'{k}' is an invalid keyword argument for property()"
  | "function" =>
    match keyword? with
    | some k => text s!"'{k}' is an invalid keyword argument for function()"
    | none => text "function() argument 'code' must be code, not str"
  | "method" => noKeywords "method expected 2 arguments, got 3"
  | "str" =>
    if keyword?.isSome then text "str() takes at most 3 arguments (4 given)"
    else text "str() argument 'encoding' must be str, not tuple"
  | "int" => text s!"int() takes at most 2 arguments ({if keyword?.isSome then 4 else 3} given)"
  | "mappingproxy" =>
    text s!"mappingproxy() takes at most 1 argument ({if keyword?.isSome then 4 else 3} given)"
  | "dict" => text "dict expected at most 1 argument, got 3"
  | "NoneType" => text "NoneType takes no arguments"
  | "bool" | "tuple" | "list" => noKeywords s!"{type} expected at most 1 argument, got 3"
  | _ => text s!"cannot create '{type}' instances"

/-- Calls the type of a subject with the name, the bases and the body of a class. -/
def callType (type : String) (keywords : List String) : Except CallFault Subject :=
  if type = "DocArtifact" then
    .error (.arguments (match keywords with
      | k :: _ => s!"DocArtifact.__init__() got an unexpected keyword argument '{k}'"
      | [] => "DocArtifact.__init__() missing 3 required positional arguments: " ++
          "'status_index', 'status', and 'codes'"))
  else
    match recordArity type with
    | some (least, most) =>
      match keywords with
      | k :: _ => .error (.arguments s!"{type}.__init__() got an unexpected keyword argument '{k}'")
      | [] => if most < 3 then .error (surplusFields type least most) else .ok (record type [])
    | none =>
      match typeFault? type keywords.head? with
      | some e => .error e
      | none => .ok (other type)

end Subject

end Errata
