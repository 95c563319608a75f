import Errata.Script.Evaluation
import Errata.Value.Inspect

/-!
# Hints

What stands behind the name of a case in a class: the type of its payload, with metadata among which
the annotation is looked for. A hint is checked when it is written. It may be written as a text, which is
read as an expression when the class is made; inside another hint such a text only has to be an expression,
and stands for some type.
-/

namespace Errata

/-- What a type says about a case. -/
inductive HintType where
  | nothing
  | payload
  | classVariable
  deriving DecidableEq, Repr

/-- The hint of a name in a class. A type goes with its name. -/
inductive Hint where
  | type (t : HintType) (name : String)
  | annotated (inner : Hint) (metadata : List Value)
  | classVariable (inner : Hint)
  | quoted (inner : Hint)
  | raw (v : Value)

instance : Inhabited Hint := ⟨.raw .null⟩

/-- Why a hint cannot be written or read. -/
inductive HintFault where
  | noMetadata
  | plainClassVariable
  | notArgument (shown : String)
  | severalTypes (position shown : String)
  | noExpression (shown : String)
  | homeless (type : String)
  | unshown (f : InspectFault)
  | script (f : Script.Fault)
  | evaluation (f : Script.EvaluationFault)
  deriving DecidableEq, Repr

/-- The name that a text has as a script. -/
def textScript : String := "<string>"

/-- What went wrong, in words. -/
def HintFault.message : HintFault → String
  | noMetadata =>
    "Annotated[...] should be used with at least two arguments (a type and an annotation)."
  | plainClassVariable => "Plain typing.ClassVar is not valid as type argument"
  | notArgument shown => s!"{shown} is not valid as type argument"
  | severalTypes position shown => s!"{position} Got {shown}."
  | noExpression shown => s!"Forward reference must be an expression -- got {shown}"
  | homeless type => s!"'{type}' object has no attribute '__module__'"
  | unshown f => f.message
  | script f => f.message textScript
  | evaluation f => f.message

/-- The type of the fault. -/
def HintFault.type : HintFault → String
  | noExpression _ => "SyntaxError"
  | homeless _ => "AttributeError"
  | unshown f => f.type
  | script f => f.type
  | evaluation f => f.type
  | _ => "TypeError"

namespace Hint

/-- The type and the metadata of a hint; the metadata of an inner hint comes first. -/
def flatten : Hint → HintType × List Value
  | type t _ => (t, [])
  | annotated inner metadata =>
    let (t, ms) := inner.flatten
    (t, ms ++ metadata)
  | classVariable _ => (.classVariable, [])
  | quoted _ => (.payload, [])
  | raw .null => (.nothing, [])
  | raw _ => (.payload, [])

/-- The hint holds metadata. -/
def isAnnotated : Hint → Bool
  | annotated _ _ => true
  | _ => false

/-- The hint declares a case: it is no class variable, unless that stands inside an annotated type. -/
def isCase (hint : Hint) : Bool :=
  hint.isAnnotated || hint.flatten.1 != .classVariable

/-- The case carries no payload. -/
def isNaive (hint : Hint) : Bool := hint.flatten.1 == .nothing

/-- The first annotation of the metadata. -/
def note? (hint : Hint) : Option Annotation := hint.flatten.2.findSome? Value.note?

/-- How a value is shown that stands for a type. -/
def shownValue (v : Value) : Except InspectFault String :=
  match v, v.wording? with
  | .null, _ => .ok "NoneType"
  | v, some _ => v.inspect?.map fun text => s!"ForwardRef({text})"
  | v, none => v.inspect?

/-- How a type with metadata is shown. -/
def withMetadata (metadata : List Value) (name : String) : Except InspectFault String :=
  if metadata.isEmpty then .ok name
  else do
    let texts ← metadata.mapM Value.inspect?
    return bracketed "typing.Annotated[" "]" (name :: texts)

/-- How a hint is shown inside another, with more metadata behind its own. -/
def shown (metadata : List Value) : Hint → Except InspectFault String
  | type _ name => withMetadata metadata name
  | annotated inner own => inner.shown (own ++ metadata)
  | classVariable inner => do
    let text ← inner.shown []
    withMetadata metadata ("typing.ClassVar[" ++ text ++ "]")
  | quoted _ => withMetadata metadata "ForwardRef"
  | raw v => do
    let text ← shownValue v
    withMetadata metadata text

/-- The fault that tells of something, where it can be shown. -/
def tell (fault : String → HintFault) : Except InspectFault String → HintFault
  | .ok text => fault text
  | .error f => .unshown f

/-- A class variable without a type. -/
def isPlainClassVariable : Hint → Bool
  | type .classVariable _ => true
  | _ => false

/-- The innermost hint, below all metadata. -/
def core : Hint → Hint
  | annotated inner _ => inner.core
  | h => h

/-- The most characters of a row that are shown where a type should be. -/
def maxShown : Nat := 100

/-- A value that stands for a type inside another hint. Among values, only rows and texts can be wrong. -/
def checkValue (position : String) (v : Value) : Except HintFault Unit :=
  match v, v.wording? with
  | .tuple vs, _ =>
    .error (tell (fun text => .severalTypes position (String.ofList (text.toList.take maxShown)))
      (Value.tuple vs).inspect?)
  | v, some w =>
    match Script.Expression.read w.text.toList with
    | .ok _ => .ok ()
    | .error _ => .error (tell .noExpression v.inspect?)
  | _, none => .ok ()

/-- What is said where a class variable has several types. -/
def variablePosition : String := "typing.ClassVar accepts only single type."

/-- What is said where metadata have several types. -/
def metadataPosition : String := "Annotated[t, ...]: t must be a type."

/-- A hint that becomes a class variable: no class variable may stand in it at once. -/
def checkVariable (inner : Hint) : Except HintFault Unit :=
  match inner with
  | raw v => checkValue variablePosition v
  | classVariable _ => .error (tell .notArgument (inner.shown []))
  | type .classVariable _ => .error .plainClassVariable
  | annotated _ _ =>
    if inner.core.isPlainClassVariable then .error (tell .notArgument (inner.shown [])) else .ok ()
  | _ => .ok ()

/-- The values that no type can be made of because nothing tells where they are from. -/
def isHomeless : Value → Bool
  | .bool _ | .int _ | .float _ | .list _ | .dict _ | .bytes _ | .failure _ _ => true
  | _ => false

/-- A hint that gets metadata. -/
def checkMetadata (inner : Hint) (metadata : List Value) : Except HintFault Unit :=
  if metadata.isEmpty then .error .noMetadata
  else
    match inner with
    | raw v =>
      if isHomeless v then .error (.homeless v.typeName) else checkValue metadataPosition v
    | _ => .ok ()

/-- A hint as it is written, from the inside. -/
def check : Hint → Except HintFault Unit
  | type _ _ => .ok ()
  | raw _ => .ok ()
  | quoted inner => inner.check
  | classVariable inner => do
    inner.check
    inner.checkVariable
  | annotated inner metadata => do
    inner.check
    inner.checkMetadata metadata

/-- What a text can name where it is read, besides what every script can name. -/
def bindings : List (String × Script.Thing) := [
  ("__module__", .value "str"), ("__annotations__", .value "dict"), ("__doc__", .nothing)]

/-- A character that may stand before an expression. -/
def isLeadingBlank (c : Char) : Bool := c = ' ' || c = '\t'

/-- What a thing says about a case. -/
def typeOfThing (t : Script.Thing) : HintType :=
  if t = .nothing || t = .type "NoneType" then .nothing else .payload

/-- Reads a text as a hint. -/
def ofText (s : String) : Except HintFault Hint := do
  let e ← (Script.Expression.read (s.toList.dropWhile isLeadingBlank)).mapError .script
  let t ← (e.evaluate (Script.Thing.domain bindings)).outcome.mapError .evaluation
  return .type (typeOfThing t) s

/-- Reads a text at the top of a hint. -/
def resolve : Hint → Except HintFault Hint
  | quoted inner => .ok inner
  | raw v =>
    match v.wording? with
    | some w => ofText w.text
    | none => .ok (raw v)
  | hint => .ok hint

end Hint

end Errata
