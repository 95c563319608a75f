import Errata.Log
import Errata.Script.Expression
import Errata.Script.Member

/-!
# Evaluation of expressions

What an expression of a script stands for, and why it stands for nothing: a name that is bound nowhere, an attribute
that is not there, or an operation that its operands do not know. The order in which the parts of an expression are
evaluated is the same whatever they stand for (`Domain`). Of a text that is read by itself only the types are followed
(`Thing`).
-/

namespace Errata.Script

/-- What an expression stands for: a type, a type with parameters, a value of a type, or a thing that is not
followed. -/
inductive Thing where
  | type (name : String)
  | parameterized (name : String)
  | value (type : String)
  | other
  deriving DecidableEq, Repr

/-- Why an expression stands for nothing. -/
inductive EvaluationFault where
  | unbound (name : String)
  | typeAttribute (type name : String)
  | valueAttribute (type name : String)
  | notCallable (type : String)
  | typeNotSubscriptable (type : String)
  | valueNotSubscriptable (type : String)
  | unsupported (symbol left right : String)
  | unsupportedSign (symbol type : String)
  | concatenation (left right : String)
  | unhashable (type : String)
  | unordered (symbol left right : String)
  | notContainer (type : String)
  | notText (type : String)
  | notIterable (type : String)
  | notUnpackable (type : String)
  deriving DecidableEq, Repr

/-- The attribute that types hide. -/
def abstractAttribute : String := "__abstractmethods__"

/-- What went wrong, in words. -/
def EvaluationFault.message : EvaluationFault → String
  | unbound name => s!"name '{name}' is not defined"
  | typeAttribute type name =>
    if name = abstractAttribute then name else s!"type object '{type}' has no attribute '{name}'"
  | valueAttribute type name => s!"'{type}' object has no attribute '{name}'"
  | notCallable type => s!"'{type}' object is not callable"
  | typeNotSubscriptable type => s!"type '{type}' is not subscriptable"
  | valueNotSubscriptable type => s!"'{type}' object is not subscriptable"
  | unsupported symbol left right =>
    let shown := if symbol = "**" then "** or pow()" else symbol
    s!"unsupported operand type(s) for {shown}: '{left}' and '{right}'"
  | unsupportedSign symbol type => s!"bad operand type for unary {symbol}: '{type}'"
  | concatenation left right => s!"can only concatenate {left} (not \"{right}\") to {left}"
  | unhashable type => s!"unhashable type: '{type}'"
  | unordered symbol left right => s!"'{symbol}' not supported between instances of '{left}' and '{right}'"
  | notContainer type => s!"argument of type '{type}' is not iterable"
  | notText type => s!"'in <string>' requires string as left operand, not {type}"
  | notIterable type => s!"'{type}' object is not iterable"
  | notUnpackable type => s!"Value after * must be an iterable, not {type}"

/-- The type of the fault. -/
def EvaluationFault.type : EvaluationFault → String
  | unbound _ => "NameError"
  | typeAttribute _ _ => "AttributeError"
  | valueAttribute _ _ => "AttributeError"
  | _ => "TypeError"

/-- An argument of a call. -/
inductive Argument (α : Type) where
  | plain (a : α)
  | keyword (name : String) (a : α)
  | unpacked (a : α)

/-- What the parts of an expression can stand for, and what can be done with them. Of a row, the parts that others are
unpacked into are not known. -/
structure Domain (ε α : Type) where
  unknown : α
  literal : Value → α
  constant : String → α
  name : String → Except ε α
  member : α → String → Except ε α
  call : α → List (Argument α) → Attempt ε α
  item : α → α → Except ε α
  row : String → List (Option α) → Except ε α
  iterate : α → Except ε Unit
  unpack : α → Except ε Unit
  compare : String → α → α → Except ε α
  operate : String → α → α → Except ε α
  sign : String → α → Except ε α
  truth? : α → Option Bool
  answer : Bool → α

namespace Expression

mutual

/-- A name is bound on the way. -/
def binds : Expression → Bool
  | named _ _ => true
  | formatted parts => bindsAmong parts
  | member e _ => binds e
  | call f arguments => binds f || bindsAmong arguments
  | keyword _ e => binds e
  | item e index => binds e || binds index
  | row _ parts => bindsAmong parts
  | comprehension _ source => binds source
  | comparison _ parts => bindsAmong parts
  | operation _ parts => bindsAmong parts
  | choice test yes no => binds test || (binds yes || binds no)
  | function defaults => bindsAmong defaults
  | _ => false

/-- A name is bound on the way by one of some expressions. -/
def bindsAmong : List Expression → Bool
  | [] => false
  | e :: es => binds e || bindsAmong es

end

variable {ε α : Type} (d : Domain ε α)

mutual

/-- What an expression stands for. -/
def evaluate : Expression → Attempt ε α
  | literal v => return d.literal v
  | constant type => return d.constant type
  | formatted parts => do
    let _ ← evaluateParts parts
    return d.constant "str"
  | name n => Attempt.lift (d.name n)
  | member e n => do
    let a ← evaluate e
    Attempt.lift (d.member a n)
  | call f arguments => do
    let a ← evaluate f
    let as ← evaluateArguments arguments
    d.call a as
  | keyword _ e => evaluate e
  | item e index => do
    let a ← evaluate e
    let i ← evaluate index
    Attempt.lift (d.item a i)
  | row type parts => do
    let as ← evaluateParts parts
    Attempt.lift (d.row type as)
  | comprehension type source => do
    let a ← evaluate source
    Attempt.lift (d.iterate a)
    return d.constant type
  | comparison symbols parts =>
    match parts with
    | [] => return d.unknown
    | e :: es => do
      let a ← evaluate e
      evaluateCompared a symbols es
  | operation symbol parts =>
    if symbol = "and" || symbol = "or" then evaluateWords (symbol = "or") parts
    else do
      let as ← evaluateParts parts
      if symbol = Reader.sliceSymbol then return d.constant "slice"
      else
        match as with
        | [some a, some b] =>
          if symbol = Reader.entrySymbol then return a else Attempt.lift (d.operate symbol a b)
        | [some a] =>
          if ["+", "-", "~"].contains symbol then Attempt.lift (d.sign symbol a)
          else if symbol = Reader.unpackSymbol || symbol = Reader.unpackPairsSymbol then return a
          else if symbol = "not" then return ((d.truth? a).map fun b => d.answer !b).getD (d.constant "bool")
          else return d.unknown
        | _ => return d.unknown
  | choice test yes no => do
    let a ← evaluate test
    if d.truth? a = some false then evaluate no else evaluate yes
  | named _ e => evaluate e
  | function defaults => do
    let _ ← evaluateParts defaults
    return d.constant "function"
  | refused _ _ => return d.unknown

/-- What the parts of a row stand for. -/
def evaluateParts : List Expression → Attempt ε (List (Option α))
  | [] => return []
  | operation symbol [e] :: es => do
    let a ← evaluate (.operation symbol [e])
    if symbol = Reader.unpackSymbol then Attempt.lift (d.unpack a)
    let as ← evaluateParts es
    return (if symbol = Reader.unpackSymbol || symbol = Reader.unpackPairsSymbol then none else some a) :: as
  | e :: es => do
    let a ← evaluate e
    let as ← evaluateParts es
    return some a :: as

/-- What the arguments of a call stand for. -/
def evaluateArguments : List Expression → Attempt ε (List (Argument α))
  | [] => return []
  | keyword n e :: es => do
    let a ← evaluate e
    let as ← evaluateArguments es
    return .keyword n a :: as
  | operation symbol [e] :: es => do
    let a ← evaluate (.operation symbol [e])
    let as ← evaluateArguments es
    return (if symbol = Reader.unpackSymbol || symbol = Reader.unpackPairsSymbol then .unpacked a else .plain a) :: as
  | e :: es => do
    let a ← evaluate e
    let as ← evaluateArguments es
    return .plain a :: as

/-- What the comparison of something with others stands for. -/
def evaluateCompared (a : α) : List String → List Expression → Attempt ε α
  | symbol :: symbols, e :: es => do
    let b ← evaluate e
    let c ← Attempt.lift (d.compare symbol a b)
    if symbols.isEmpty || d.truth? c = some false then return c else evaluateCompared b symbols es
  | _, _ => return a

/-- What conditions that hold together stand for, or alternatives. What is not known is taken for true. -/
def evaluateWords (alternatives : Bool) : List Expression → Attempt ε α
  | [] => return d.unknown
  | [e] => evaluate e
  | e :: es => do
    let a ← evaluate e
    if (d.truth? a).getD true == alternatives then return a else evaluateWords alternatives es

end

end Expression

namespace Thing

/-- The type of types with parameters. -/
def parameterizedType : String := "types.GenericAlias"

/-- The type of a choice of types. -/
def choiceType : String := "types.UnionType"

/-- The name of the type of a thing. -/
def typeName : Thing → String
  | type _ => typeOfTypes
  | parameterized _ => parameterizedType
  | value t => t
  | other => "object"

/-- The thing that is none. -/
def nothing : Thing := value "NoneType"

/-- The thing that an attribute of a type gives. -/
def ofAttribute (owner : String) (name type : String) : Thing :=
  if name = "__class__" then .type owner else if type = typeOfTypes then .other else .value type

/-- The attribute of a thing. -/
def getAttribute (t : Thing) (name : String) : Except EvaluationFault Thing :=
  match t with
  | type n =>
    match typeAttribute? n name with
    | some a => .ok (ofAttribute typeOfTypes name a)
    | none => .error (.typeAttribute n name)
  | parameterized n =>
    match valueAttribute? parameterizedType name, typeAttribute? n name with
    | some a, some b => .ok (ofAttribute typeOfTypes name (if name = "__class__" then b else a))
    | some a, none => .ok (.value a)
    | none, some a => .ok (ofAttribute typeOfTypes name a)
    | none, none => .error (.typeAttribute n name)
  | value n =>
    match valueAttribute? n name with
    | some a => .ok (ofAttribute n name a)
    | none => .error (.valueAttribute n name)
  | other => .ok other

/-- The method that makes a thing callable. -/
def callMethod : String := "__call__"

/-- The method that gives items. -/
def itemMethod : String := "__getitem__"

/-- The function of a type that gives types with parameters. -/
def parameterFunction : String := "__class_getitem__"

/-- Calls a thing. -/
def call (t : Thing) (arguments : List Thing) : Except EvaluationFault Thing :=
  match t with
  | type n =>
    match arguments with
    | [a] => .ok (if n ≠ typeOfTypes then .value n else if a = other then other else .type a.typeName)
    | _ => .ok (.value n)
  | parameterized n => .ok (.value n)
  | value n => if (valueAttribute? n callMethod).isSome then .ok other else .error (.notCallable n)
  | other => .ok other

/-- The item of a thing. -/
def item (t : Thing) : Except EvaluationFault Thing :=
  match t with
  | type n =>
    if n = typeOfTypes || (typeAttribute? n parameterFunction).isSome then .ok (parameterized n)
    else .error (.typeNotSubscriptable n)
  | parameterized _ => .ok other
  | value n =>
    if (valueAttribute? n itemMethod).isSome then .ok other else .error (.valueNotSubscriptable n)
  | other => .ok other

/-- The types of numbers, each wider than those before it. -/
def numbers : List String := ["bool", "int", "float", "complex"]

/-- The types of rows that can be joined. -/
def joinable : List String := ["str", "bytes", "list", "tuple"]

/-- The types whose values can stand in a choice of types. -/
def isTypeLike (t : Thing) : Bool :=
  match t with
  | type _ => true
  | parameterized _ => true
  | value n => n = choiceType
  | other => false

/-- The type of an operation on two numbers, when there is one. -/
def arithmetic? (symbol left right : String) : Option String :=
  if !numbers.contains left || !numbers.contains right then none
  else
    let wide := (numbers.filter fun n => n = left || n = right).getLast?.getD left
    if ["&", "|", "^"].contains symbol then
      if wide = "bool" || wide = "int" then some wide else none
    else if ["<<", ">>"].contains symbol then
      if wide = "bool" || wide = "int" then some "int" else none
    else if symbol = "@" then none
    else if ["//", "%"].contains symbol && wide = "complex" then none
    else if symbol = "/" && wide ≠ "complex" then some "float"
    else some (if wide = "bool" then "int" else wide)

/-- The type of an operation on rows, when there is one. -/
def rowwise? (symbol left right : String) : Option String :=
  let whole := ["bool", "int"]
  if symbol = "+" && left = right && joinable.contains left then some left
  else if symbol = "*" && joinable.contains left && whole.contains right then some left
  else if symbol = "*" && whole.contains left && joinable.contains right then some right
  else if symbol = "%" && (left = "str" || left = "bytes") then some left
  else if ["|", "&", "^", "-"].contains symbol && left = right && (left = "set" || left = "frozenset") then
    some left
  else if symbol = "|" && left = right && left = "dict" then some left
  else none

/-- An operation on two things. -/
def operate (symbol : String) (a b : Thing) : Except EvaluationFault Thing :=
  if a = other || b = other then .ok other
  else if symbol = "|" && ((isTypeLike a && (isTypeLike b || b = nothing)) || (a = nothing && isTypeLike b)) then
    .ok (.value choiceType)
  else
    let left := a.typeName
    let right := b.typeName
    match (arithmetic? symbol left right).or (rowwise? symbol left right) with
    | some t => .ok (.value t)
    | none =>
      if symbol = "+" && ["str", "list", "tuple"].contains left then .error (.concatenation left right)
      else .error (.unsupported symbol left right)

/-- A sign before a thing. -/
def sign (symbol : String) (t : Thing) : Except EvaluationFault Thing :=
  let n := t.typeName
  if t = other then .ok other
  else if numbers.contains n && !(symbol = "~" && (n = "float" || n = "complex")) then
    .ok (.value (if n = "bool" then "int" else n))
  else .error (.unsupportedSign symbol n)

/-- The types whose values cannot be keys. -/
def unhashable : List String := ["list", "dict", "set", "bytearray"]

/-- A thing that is a key. -/
def key (t : Thing) : Except EvaluationFault Unit :=
  match t with
  | value n => if unhashable.contains n then .error (.unhashable n) else .ok ()
  | _ => .ok ()

/-- The row of some parts. -/
def ofRow (type : String) (ts : List (Option Thing)) : Except EvaluationFault Thing := do
  if type = "set" || type = "dict" then (ts.filterMap id).forM key
  return value type

/-- The method that gives what a thing goes through. -/
def iterationMethod : String := "__iter__"

/-- The method that tells what a thing contains. -/
def containmentMethod : String := "__contains__"

/-- The values of a type have one of some methods. -/
def offers (type : String) (methods : List String) : Bool := methods.any fun m => (valueAttribute? type m).isSome

/-- A thing that can be gone through. -/
def iterate (t : Thing) : Except EvaluationFault Unit :=
  match t with
  | other => .ok ()
  | t => if offers t.typeName [iterationMethod, itemMethod] then .ok () else .error (.notIterable t.typeName)

/-- A thing that others are unpacked from. -/
def unpack (t : Thing) : Except EvaluationFault Unit := t.iterate.mapError fun _ => .notUnpackable t.typeName

/-- The types whose values have an order among themselves. -/
def ordered : List (List String) := [
  ["bool", "int", "float"], ["str"], ["bytes"], ["list"], ["tuple"], ["set", "frozenset"]]

/-- The types whose values have an order with nothing. -/
def orderless : List String := [
  "NoneType", "complex", "dict", "type", "function", "builtin_function_or_method", "ellipsis", "slice", "object",
  parameterizedType, choiceType]

/-- A comparison of two things. -/
def compare (symbol : String) (a b : Thing) : Except EvaluationFault Thing :=
  let left := a.typeName
  let right := b.typeName
  let known (n : String) : Bool := orderless.contains n || ordered.any fun ns => ns.contains n
  if a = other || b = other then .ok (value "bool")
  else if ["<", "<=", ">", ">="].contains symbol then
    if known left && known right && !ordered.any fun ns => ns.contains left && ns.contains right then
      .error (.unordered symbol left right)
    else .ok (value "bool")
  else if symbol = "in" || symbol = "not in" then
    if !offers right [containmentMethod, iterationMethod, itemMethod] then .error (.notContainer right)
    else if right = "str" && left ≠ "str" then .error (.notText left)
    else .ok (value "bool")
  else .ok (value "bool")

/-- What is known of the truth of a thing. -/
def truth? (t : Thing) : Option Bool :=
  match t with
  | type _ => some true
  | value n => if n = "NoneType" then some false else none
  | _ => none

/-- What a name stands for that every script can use without binding it. -/
def builtin? (name : String) : Option Thing :=
  if (wordsOf typeNames).contains name then some (.type name)
  else if (wordsOf functionNames).contains name then some (.value "builtin_function_or_method")
  else
    match typeAliases.lookup name with
    | some t => some (.type t)
    | none => (namedValues.lookup name).map .value

/-- What a name stands for where some are bound. -/
def ofName (scope : List (String × Thing)) (name : String) : Except EvaluationFault Thing :=
  match (scope.lookup name).or (builtin? name) with
  | some t => .ok t
  | none => .error (.unbound name)

/-- The things of an argument. -/
def ofArgument : Argument Thing → Thing
  | .plain t => t
  | .keyword _ t => t
  | .unpacked _ => other

/-- Only the types are followed. -/
def domain (scope : List (String × Thing)) : Domain EvaluationFault Thing where
  unknown := other
  literal v := value v.typeName
  constant type := value type
  name := ofName scope
  member := getAttribute
  call t arguments := Attempt.lift (t.call (arguments.map ofArgument))
  item t _ := t.item
  row := ofRow
  iterate := iterate
  unpack := unpack
  compare := compare
  operate := operate
  sign := sign
  truth? := truth?
  answer _ := value "bool"

end Thing

end Errata.Script
