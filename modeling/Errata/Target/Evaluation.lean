import Errata.Class.Call
import Errata.Target.Program

/-!
# What the expressions of a module stand for

An expression is evaluated among what is loaded. Its names are those of the body of a class, of a module, or of every
script. Classes, errors, and what a declaration is made of are followed; of everything else only the type is
(`Script.Thing`), or nothing.
-/

namespace Errata

namespace Raised

/-- A fault of a wrong type. -/
def ofType (text : String) : Raised := other "TypeError" text

/-- A fault of an expression of which only the types are followed. -/
def ofEvaluation (f : Script.EvaluationFault) : Raised := other f.type f.message

/-- A fault of an attribute. -/
def ofLookup (f : LookupFault) : Raised := other f.type f.message

/-- A fault of a division. -/
def ofDivision (text : String) : Raised := other "ZeroDivisionError" text

/-- The types of the faults of a text that cannot be read. -/
def syntaxTypes : List String := ["SyntaxError", "IndentationError", "TabError"]

/-- A fault of a type that is made with some arguments. -/
def made (type : String) (args : List Value) (missing? : Option String) : Raised :=
  let text := (Value.failure ((FailureKind.ofName? type).getD .general) args).print
  if type = "ImportError" then importError text none
  else if type = "ModuleNotFoundError" then importError text missing?
  else if syntaxTypes.contains type then syntaxError (if args.isEmpty then "None" else text)
  else other type text

end Raised

namespace Value

/-- The whole number that a value is. -/
def whole? : Value → Option Int
  | bool b => some (if b then 1 else 0)
  | int n => some n
  | status h => some h.code
  | _ => none

/-- An operation on two whole numbers. Only whole results are followed. -/
def arithmetic? (symbol : String) (m n : Int) : Option (Except Raised Value) :=
  match symbol with
  | "+" => some (.ok (.int (m + n)))
  | "-" => some (.ok (.int (m - n)))
  | "*" => some (.ok (.int (m * n)))
  | "//" => some (if n = 0 then .error (.ofDivision "integer division or modulo by zero") else .ok (.int (m.fdiv n)))
  | "%" => some (if n = 0 then .error (.ofDivision "integer modulo by zero") else .ok (.int (m.fmod n)))
  | "/" => if n = 0 then some (.error (.ofDivision "division by zero")) else none
  | "**" => if n < 0 then none else some (.ok (.int (m.pow n.toNat)))
  | _ => none

/-- An operation on two values, where its result is followed. -/
def operate? (symbol : String) (v w : Value) : Option (Except Raised Value) :=
  match v, w with
  | text s, text t => if symbol = "+" then some (.ok (text (s ++ t))) else none
  | list vs, list ws => if symbol = "+" then some (.ok (list (vs ++ ws))) else none
  | tuple vs, tuple ws => if symbol = "+" then some (.ok (tuple (vs ++ ws))) else none
  | v, w =>
    match v.whole?, w.whole? with
    | some m, some n => arithmetic? symbol m n
    | _, _ => none

/-- A sign before a value, where the result is followed. -/
def sign? (symbol : String) (v : Value) : Option Value :=
  match symbol, v.whole? with
  | "-", some n => some (.int (-n))
  | "+", some n => some (.int n)
  | "~", some n => some (.int (-n - 1))
  | _, _ => none

/-- A comparison of two values, where its result is followed. -/
def compare? (symbol : String) (v w : Value) : Option Bool :=
  match symbol, v.whole?, w.whole? with
  | "<", some m, some n => some (m < n)
  | "<=", some m, some n => some (m ≤ n)
  | ">", some m, some n => some (n < m)
  | ">=", some m, some n => some (n ≤ m)
  | "==", some m, some n => some (m = n)
  | "!=", some m, some n => some (m ≠ n)
  | symbol, _, _ =>
    match symbol, v.wording?, w.wording? with
    | "==", some s, some t => some (s.text == t.text)
    | "!=", some s, some t => some (s.text != t.text)
    | _, _, _ => none

/-- The truth of a value, where it is followed. -/
def truth? : Value → Option Bool
  | null => some false
  | text s => some (s ≠ "")
  | list vs => some !vs.isEmpty
  | tuple vs => some !vs.isEmpty
  | dict es => some !es.isEmpty
  | bytes bs => some !bs.isEmpty
  | v => v.whole?.map (· ≠ 0)

/-- Of the value only the type matters beside what is followed. -/
def isPlain : Value → Bool
  | status _ => false
  | disposition _ => false
  | object _ => false
  | detail _ => false
  | note _ _ => false
  | _ => true

end Value

namespace Binding

/-- A thing of a type. -/
def ofType (type : String) : Binding := if type = "NoneType" then subject (.value .null) else subject (.other type)

/-- A thing of which only the type is known. -/
def ofThing : Script.Thing → Binding
  | .type n => subject (.cls (.ofType n))
  | .parameterized n => generic n
  | .value t => ofType t
  | .other => unknown

/-- What is known of a thing where only the types are followed. -/
def thing (t : ClassTable) : Binding → Script.Thing
  | subject (.cls c) => .type (t.name c)
  | subject (.value v) => if v.isPlain then .value v.typeName else .other
  | subject (.other type) => .value type
  | subject (.row _) => .value "tuple"
  | row type _ => .value type
  | module _ => .value "module"
  | form .mark => .value "function"
  | function _ => .value "function"
  | method _ _ => .value "method"
  | fault r => .value r.type
  | _ => .other

/-- The value that a thing is known to be. -/
def value? : Binding → Option Value
  | subject (.value v) => some v
  | _ => none

/-- The parts of a row that is written without brackets of its own. -/
def parts? : Binding → Option (List Binding)
  | row "tuple" parts => some parts
  | subject (.value (.tuple vs)) => some (vs.map fun v => subject (.value v))
  | _ => none

/-- The parts of a row that something is assigned from. -/
def items? : Binding → Option (List Binding)
  | row _ parts => some parts
  | subject (.value (.list vs)) => some (vs.map fun v => subject (.value v))
  | b => b.parts?

/-- The row of some parts. It is a value if all of these are. -/
def ofRow (t : ClassTable) (type : String) (parts : List (Option Binding)) : Except Raised Binding := do
  let _ ← (Script.Thing.ofRow type (parts.map fun b? => b?.map (thing t))).mapError .ofEvaluation
  match type, parts.mapM id with
  | "dict", some [] => return subject (.value (.dict []))
  | "dict", _ => return ofType "dict"
  | "list", some bs => return ((bs.mapM value?).map fun vs => subject (.value (.list vs))).getD (row type bs)
  | "tuple", some bs => return ((bs.mapM value?).map fun vs => subject (.value (.tuple vs))).getD (row type bs)
  | type, _ => return ofType type

/-- The type of nothing. -/
def nothingType : ClassId := .builtin "NoneType"

/-- What a thing is as a hint, if it is followed. -/
def hint? (t : ClassTable) : Binding → Option Hint
  | hint h => some h
  | subject (.value v) => some (.raw v)
  | subject (.cls c) => some (.type (if c = nothingType then .nothing else .payload) (t.qualifiedName c))
  | form .classVariable => some (.type .classVariable "typing.ClassVar")
  | generic type => some (.type .payload type)
  | foreign name => some (.type .payload name)
  | unknown => none
  | b => some (.type .payload ((b.thing t).typeName))

/-- What a thing is as the type of a payload. One that is not followed is none of those with a meaning of their own. -/
def payload (t : ClassTable) (b : Binding) : Hint := (b.hint? t).getD (.type .payload "object")

/-- What is known of the truth of a thing. -/
def truth? : Binding → Option Bool
  | subject (.value v) => v.truth?
  | subject (.cls _) => some true
  | row _ parts => some !parts.isEmpty
  | module _ => some true
  | form _ => some true
  | function _ => some true
  | fault _ => some true
  | _ => none

/-- A thing is nothing, if that is known. -/
def isNothing? : Binding → Option Bool
  | subject (.value .null) => some true
  | foreign _ => none
  | unknown => none
  | _ => some false

/-- Two things are the same, if that is known. -/
def isSame? (a b : Binding) : Option Bool :=
  if a.isNothing? = some true then b.isNothing? else if b.isNothing? = some true then a.isNothing? else none

/-- The values of arguments and of keywords, if all of them are known. -/
def values? : List (Script.Argument Binding) → Option (List Value × List (String × Value))
  | [] => some ([], [])
  | .plain b :: rest => do
    let v ← b.value?
    let (vs, ks) ← values? rest
    return (v :: vs, ks)
  | .keyword name b :: rest => do
    let v ← b.value?
    let (vs, ks) ← values? rest
    return (vs, (name, v) :: ks)
  | .unpacked _ :: _ => none

/-- The thing that an argument is. -/
def argument (t : ClassTable) : Script.Argument Binding → Script.Thing
  | .plain b => b.thing t
  | .keyword _ b => b.thing t
  | .unpacked _ => .other

end Binding

namespace Loader

variable (l : Loader)

/-- What the body of a class binds to a name, or that of the first of its ancestors that has the name at all. -/
def inBody? (c : ClassId) (name : String) : Option Binding :=
  ((l.classes.order c).findSome? fun d =>
    if (l.classes.ownAttribute? name d).isSome then some none else (l.bodies.lookup (d, name)).map some).join

/-- The attribute of a class. -/
def classMember (c : ClassId) (name : String) : Except Raised Binding :=
  match l.inBody? c name with
  | some b => .ok b
  | none => ((l.classes.getAttribute c name).map Binding.subject).mapError .ofLookup

/-- The names that the body of a class binds by itself. -/
def descriptive : List String := ["__module__", "__qualname__", "__doc__"]

/-- Neither the body of a class nor that of an ancestor binds anything beside some names. -/
def bindsOnly (c : ClassId) (names : List String) : Bool :=
  l.bodies.all fun e => !(l.classes.order c).contains e.1.1 || (descriptive ++ names).contains e.1.2

/-- What the first function of some names gives that a class has, where it is known. -/
def said? (c : ClassId) : List String → Option String
  | [] => none
  | name :: names =>
    match l.inBody? c name with
    | some (.function (some (.text s))) => some s
    | some _ => none
    | none => said? c names

/-- The functions that say how an object is shown, each before the one that is asked in its place. -/
def shownBy : List String := ["__format__", "__str__", "__repr__"]

/-- An object of a class that is made of nothing, and says itself how it is shown. -/
def ownObject? (c : ClassId) : Option Value := do
  let inspected ← l.said? c (shownBy.drop 2)
  let printed ← l.said? c (shownBy.drop 1)
  let formatted ← l.said? c shownBy
  let module ← (l.inBody? c "__module__").bind Binding.value? |>.bind Value.wording?
  if l.bindsOnly c shownBy then return .object ⟨module.text, l.classes.name c, inspected, printed, formatted⟩
  else none

/-- Calls a class. -/
def callClass (c : ClassId) (arguments : List (Script.Argument Binding)) : Except Raised Binding :=
  let name := l.classes.name c
  if l.classes.isTaxonomyClass c then
    match Binding.values? arguments with
    | some (args, []) =>
      if !l.bindsOnly c [] then .ok .unknown
      else ((Instance.construct l.classes c args).map fun i => Binding.subject (.error i)).mapError fun e =>
        .ofType e.message
    | some (_, _ :: _) => .error (.ofType s!"{name}() takes no keyword arguments")
    | none => .ok .unknown
  else
    match c with
    | .user _ =>
      if arguments.isEmpty then .ok (((l.ownObject? c).map fun v => Binding.subject (.value v)).getD .unknown)
      else .ok .unknown
    | _ =>
      let values := (Binding.values? arguments).getD ([], [])
      if l.classes.derives c .baseException then
        match FailureKind.ofName? name, values.2 with
        | some kind, [] => .ok (.subject (.value (.failure kind values.1)))
        | _, keywords => .ok (.fault (.made name values.1 ((keywords.lookup "name").bind Value.wording? |>.map Wording.text)))
      else if c = .ofClasses then .ok .unknown
      else ((Script.Thing.type name).call (arguments.map (Binding.argument l.classes))).map Binding.ofThing |>.mapError
        .ofEvaluation

/-- The method of an error that tells what is said about it. -/
def conversionMethod : String := "to_json_error"

/-- The method of an error that gives the reply to it. -/
def replyMethod : String := "into_response"

/-- Calls a method of an error. -/
def callMethod (i : Instance) (name : String) (arguments : List (Script.Argument Binding)) : Attempt Raised Binding :=
  if !arguments.isEmpty then return .unknown
  else if name = conversionMethod then do
    let _ ← (i.convert l.classes).mapError fun e =>
      let f : ResponseTable.Fault := .noRule e
      Raised.other f.type f.message
    return .unknown
  else if name = replyMethod then do
    let _ ← (i.respond l.classes).mapError fun f => Raised.other f.type f.message
    return .unknown
  else return .unknown

/-- The status of a number. -/
def statusOf (v : Value) : Except Raised Binding :=
  match (v.whole?.filter (0 ≤ ·)).bind fun n => HttpStatus.ofCode? n.toNat with
  | some h => .ok (.subject (.value (.status h)))
  | none => .error (.other "ValueError" s!"{v.inspect} is not a valid HTTPStatus")

/-- Calls a thing. -/
def call (b : Binding) (arguments : List (Script.Argument Binding)) : Attempt Raised Binding :=
  match b with
  | .subject (.cls c) => Attempt.lift (l.callClass c arguments)
  | .method i name => l.callMethod i name arguments
  | .function result? =>
    return (result?.filter fun _ => arguments.isEmpty).elim .unknown fun v => .subject (.value v)
  | .form .mark =>
    return (Binding.values? arguments).elim .unknown fun (args, keywords) =>
      .subject (.value (.note args keywords))
  | .form .statuses =>
    match Binding.values? arguments with
    | some ([v], []) => Attempt.lift (statusOf v)
    | _ => return .unknown
  | .form .annotated => Attempt.lift (.error (.ofType "Type Annotated cannot be instantiated."))
  | .form .classVariable => Attempt.lift (.error (.ofType "Cannot instantiate typing.ClassVar"))
  | .form .choice => Attempt.lift (.error (.ofType "Cannot instantiate typing.Optional"))
  | .module _ => Attempt.lift (.error (.ofType "'module' object is not callable"))
  | b =>
    Attempt.lift <| ((b.thing l.classes).call (arguments.map (Binding.argument l.classes))).map Binding.ofThing
      |>.mapError .ofEvaluation

/-- The names that a module has by itself. -/
def ownNames : List String := [
  "__annotations__", "__builtins__", "__cached__", "__doc__", "__file__", "__loader__", "__package__", "__path__",
  "__spec__"]

/-- What a module binds to a name. -/
def bound? (module name : String) : Option Binding :=
  ((l.modules.get? module).bind fun m => m.bindings.get? name).or <|
    if name = "__name__" then some (.subject (.value (.text module)))
    else if ownNames.contains name then some .unknown
    else none

/-- A module may bind names that are not known. -/
def isOpen (module : String) : Bool := ((l.modules.get? module).map Module.isOpen).getD true

/-- The attribute of a module. -/
def moduleMember (module name : String) : Except Raised Binding :=
  match l.bound? module name with
  | some b => .ok b
  | none =>
    if l.isOpen module || ((l.modules.get? module).map fun m => m.attributes.contains name).getD false then
      .ok .unknown
    else .error (.other "AttributeError" s!"module {Text.quoted module} has no attribute {Text.quoted name}")

/-- The attribute of a status by the name of the class of all. -/
def statusMember (name : String) : Except Raised Binding :=
  match HttpStatus.ofName? name with
  | some h => .ok (.subject (.value (.status h)))
  | none =>
    if (Script.valueAttribute? "int" name).isSome || name.startsWith "_" then .ok .unknown
    else .error (.other "AttributeError" name)

/-- The attribute of a thing. -/
def member (b : Binding) (name : String) : Except Raised Binding :=
  match b with
  | .module m => l.moduleMember m name
  | .subject (.cls c) => l.classMember c name
  | .subject (.error i) =>
    if (l.inBody? i.cls name).isSome then .ok .unknown
    else if name = conversionMethod || name = replyMethod then .ok (.method i name)
    else (((Subject.error i).getAttribute l.classes name).map Binding.subject).mapError .ofLookup
  | .subject (.value v) =>
    if v.isPlain then (((Subject.value v).getAttribute l.classes name).map Binding.subject).mapError .ofLookup
    else .ok .unknown
  | .subject s => ((s.getAttribute l.classes name).map Binding.subject).mapError .ofLookup
  | .form .statuses => statusMember name
  | .fault _ => .ok .unknown
  | b => ((b.thing l.classes).getAttribute name).map Binding.ofThing |>.mapError .ofEvaluation

/-- A hint as it is written. -/
def written (h : Hint) : Except Raised Binding :=
  match h.check with
  | .ok () => .ok (.hint h)
  | .error f => .error (if f.type = "SyntaxError" then .syntaxError f.message else .other f.type f.message)

/-- A type with metadata. -/
def annotated (index : Binding) : Except Raised Binding :=
  match index.parts? with
  | some (inner :: b :: bs) =>
    match (b :: bs).mapM Binding.value? with
    | some metadata => written (.annotated (inner.payload l.classes) metadata)
    | none => .ok .unknown
  | _ => .error (.ofType HintFault.noMetadata.message)

/-- The part of a row at a place, which is counted from the end where it is negative. -/
def partAt (type : String) (parts : List α) (n : Int) : Except Raised α :=
  match parts[(if n < 0 then n + parts.length else n).toNat]? with
  | some a => if n + parts.length < 0 then .error (.other "IndexError" s!"{type} index out of range") else .ok a
  | none => .error (.other "IndexError" s!"{type} index out of range")

/-- How the names begin of what types are written with. -/
def typingNames : List Char := "typing.".toList

/-- The item of a thing. -/
def item (b index : Binding) : Except Raised Binding :=
  match b, index with
  | .form .annotated, index => l.annotated index
  | .form .classVariable, index => written (.classVariable (index.payload l.classes))
  | .form .choice, index =>
    .ok (if (index.hint? l.classes).any Hint.isNaive then .subject (.cls Binding.nothingType)
      else .generic "typing.Optional")
  | .form .statuses, .subject (.value (.text s)) =>
    match HttpStatus.ofName? s with
    | some h => .ok (.subject (.value (.status h)))
    | none => .error (.made "KeyError" [.text s] none)
  | .form .statuses, _ => .ok .unknown
  | .subject (.catalogue c), .subject (.value (.text s)) =>
    ((c.entry s).map fun a => Binding.subject (.artifact a)).mapError fun e => .ofLookup (.catalogue e)
  | .subject (.value (.list vs)), .subject (.value (.int n)) =>
    (partAt "list" vs n).map fun v => .subject (.value v)
  | .subject (.value (.tuple vs)), .subject (.value (.int n)) =>
    (partAt "tuple" vs n).map fun v => .subject (.value v)
  | .subject (.value (.dict es)), .subject (.value v) =>
    match es.find? fun e => e.1.sameKey v with
    | some e => .ok (.subject (.value e.2))
    | none => .error (.made "KeyError" [v] none)
  | .row type parts, .subject (.value (.int n)) => partAt type parts n
  | .subject (.cls (.user n)), _ =>
    if (l.inBody? (.user n) Script.Thing.parameterFunction).isSome then .ok .unknown
    else .error (.ofEvaluation (.typeNotSubscriptable (l.classes.name (.user n))))
  | .subject (.cls .root), _ => .error (.ofEvaluation (.typeNotSubscriptable ClassTable.rootName))
  | .module _, _ => .error (.ofEvaluation (.valueNotSubscriptable "module"))
  | .foreign name, _ => .ok (if typingNames.isPrefixOf name.toList then .foreign name else .unknown)
  | b, _ => ((b.thing l.classes).item.map Binding.ofThing).mapError .ofEvaluation

/-- A fault of an operation whose symbol is shown with a mark behind it. -/
def markedFault (mark : String) : Script.EvaluationFault → Script.EvaluationFault
  | .unsupported symbol left right => .unsupported (symbol ++ mark) left right
  | f => f

/-- An operation on two things, whose symbol is shown with a mark behind it. -/
def operateAs (mark symbol : String) (a b : Binding) : Except Raised Binding :=
  match (do Value.operate? symbol (← a.value?) (← b.value?)) with
  | some result => result.map fun v => .subject (.value v)
  | none =>
    ((Script.Thing.operate symbol (a.thing l.classes) (b.thing l.classes)).map Binding.ofThing).mapError fun f =>
      .ofEvaluation (markedFault mark f)

/-- A sign before a thing. -/
def sign (symbol : String) (b : Binding) : Except Raised Binding :=
  match b.value?.bind (Value.sign? symbol) with
  | some v => .ok (.subject (.value v))
  | none => ((Script.Thing.sign symbol (b.thing l.classes)).map Binding.ofThing).mapError .ofEvaluation

/-- A truth value. -/
def answer (b : Bool) : Binding := .subject (.value (.bool b))

/-- A comparison of two things. -/
def compare (symbol : String) (a b : Binding) : Except Raised Binding :=
  let known? : Option Bool := match symbol with
    | "is" => a.isSame? b
    | "is not" => (a.isSame? b).map (!·)
    | symbol => do Value.compare? symbol (← a.value?) (← b.value?)
  match known? with
  | some result => .ok (answer result)
  | none =>
    ((Script.Thing.compare symbol (a.thing l.classes) (b.thing l.classes)).map Binding.ofThing).mapError .ofEvaluation

end Loader

/-- Where a name is looked for: in the body of a class, and in a module. -/
structure Frame where
  module : String
  own : List (String × Binding)

namespace Frame

/-- What a name stands for. -/
def ofName (f : Frame) (l : Loader) (name : String) : Except Raised Binding :=
  match (f.own.lookup name).or (l.bound? f.module name) with
  | some b => .ok b
  | none =>
    match Script.Thing.builtin? name with
    | some t => .ok (.ofThing t)
    | none => if l.isOpen f.module then .ok .unknown else .error (.ofEvaluation (.unbound name))

/-- What expressions stand for in a frame. -/
def domain (f : Frame) (l : Loader) : Script.Domain Raised Binding where
  unknown := .unknown
  literal v := .subject (.value v)
  constant := Binding.ofType
  name := f.ofName l
  member := l.member
  call := l.call
  item := l.item
  row := Binding.ofRow l.classes
  iterate b := ((b.thing l.classes).iterate).mapError .ofEvaluation
  unpack b := ((b.thing l.classes).unpack).mapError .ofEvaluation
  compare := l.compare
  operate := l.operateAs ""
  sign := l.sign
  truth? := Binding.truth?
  answer := Loader.answer

end Frame

end Errata
