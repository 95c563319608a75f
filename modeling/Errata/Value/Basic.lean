import Errata.Http.Status
import Errata.Number.Floating
import Errata.OrderedMap
import Errata.Wording

/-!
# Values

The values that a declaration holds and an error carries: plain data, constants of the declaration
language, failures, and annotations that have not been read yet.
-/

namespace Errata

/-- The kinds of failure that are no error case. -/
inductive FailureKind where
  | general
  | value
  | runtime
  | key
  | type
  deriving DecidableEq, Repr

namespace FailureKind

/-- The name a failure of the kind is shown with. -/
def name : FailureKind → String
  | general => "Exception"
  | value => "ValueError"
  | runtime => "RuntimeError"
  | key => "KeyError"
  | type => "TypeError"

/-- Every kind. -/
def all : List FailureKind := [general, value, runtime, key, type]

/-- The kind of a name. -/
def ofName? (s : String) : Option FailureKind := all.find? fun k => k.name == s

end FailureKind

/-- An object of a class that says itself how its objects are shown: as they would be written, in prose, and
inside a text that is put together. -/
structure OwnObject where
  module : String
  type : String
  inspected : String
  printed : String
  formatted : String
  deriving DecidableEq, Repr

/-- The name of the class with the module that it is from. -/
def OwnObject.path (o : OwnObject) : String := o.module ++ "." ++ o.type

/-- A value of a declaration or a payload. -/
inductive Value where
  | null
  | bool (b : Bool)
  | int (n : Int)
  | float (x : Floating)
  | text (s : String)
  | status (h : HttpStatus)
  | disposition (d : Disposition)
  | list (vs : List Value)
  | tuple (vs : List Value)
  | dict (es : List (Value × Value))
  | bytes (bs : List UInt8)
  | failure (kind : FailureKind) (args : List Value)
  | detail (field : Value)
  | object (o : OwnObject)
  | note (args : List Value) (keywords : List (String × Value))

instance : Inhabited Value := ⟨.null⟩

/-- The arguments of an annotation, in the order they were written. No keyword comes twice. -/
structure Annotation where
  args : List Value
  keywords : OrderedMap String Value
  deriving Inhabited

namespace Annotation

/-- An annotation with keywords only. A keyword that comes again keeps its place and takes the new
value. -/
def ofKeywords (args : List Value) (keywords : List (String × Value)) : Annotation :=
  ⟨args, .ofList keywords⟩

/-- No argument at all. -/
def isEmpty (a : Annotation) : Bool := a.args.isEmpty && a.keywords.entries.isEmpty

/-- An annotation as a value. -/
def toValue (a : Annotation) : Value := .note a.args a.keywords.entries

/-- The value of a keyword. -/
def keyword? (a : Annotation) (key : String) : Option Value := a.keywords.get? key

end Annotation

namespace Value

/-- The number that a value is, when it is one. -/
def number? : Value → Option (Int ⊕ Floating)
  | bool b => some (.inl (if b then 1 else 0))
  | int n => some (.inl n)
  | status h => some (.inl h.code)
  | float x =>
    match x.integer? with
    | some n => some (.inl n)
    | none => some (.inr x)
  | _ => none

/-- The wording that a value is, when it is one. -/
def wording? : Value → Option Wording
  | text s => some (.literal s)
  | disposition d => some (.keyword d)
  | _ => none

/-- Equality of two numbers, whatever their types. -/
def sameNumber : Int ⊕ Floating → Int ⊕ Floating → Bool
  | .inl m, .inl n => m == n
  | .inr x, .inr y => x.sameNumber y
  | _, _ => false

mutual

/-- Equality of two dictionary keys: numbers by their value, texts by their text. -/
def sameKey : Value → Value → Bool
  | tuple vs, tuple ws => sameKeys vs ws
  | bytes bs, bytes cs => bs == cs
  | null, null => true
  | v, w =>
    match v.number?, w.number? with
    | some m, some n => sameNumber m n
    | _, _ =>
      match v.wording?, w.wording? with
      | some s, some t => s.text == t.text
      | _, _ => false

/-- Equality of two rows of dictionary keys. -/
def sameKeys : List Value → List Value → Bool
  | [], [] => true
  | v :: vs, w :: ws => sameKey v w && sameKeys vs ws
  | _, _ => false

end

end Value

/-- Sets the value at a key of a list of entries, where `same` decides which keys are equal. The key
that came first stays. -/
def putBy (same : α → α → Bool) (k : α) (v : β) : List (α × β) → List (α × β)
  | [] => [(k, v)]
  | e :: es => if same e.1 k then (e.1, v) :: es else e :: putBy same k v es

/-- Merges the entries whose keys are equal. -/
def mergeBy (same : α → α → Bool) (es : List (α × β)) : List (α × β) :=
  es.foldl (fun acc e => putBy same e.1 e.2 acc) []

namespace Value

/-- A dictionary of a list of entries. -/
def ofEntries (es : List (Value × Value)) : Value := dict (mergeBy sameKey es)

/-- The name of the type of a value. -/
def typeName : Value → String
  | null => "NoneType"
  | bool _ => "bool"
  | int _ => "int"
  | float _ => "float"
  | text _ => "str"
  | status _ => "HTTPStatus"
  | disposition _ => "Disposition"
  | list _ => "list"
  | tuple _ => "tuple"
  | dict _ => "dict"
  | bytes _ => "bytes"
  | failure kind _ => kind.name
  | detail _ => "Detail"
  | object o => o.type
  | note _ _ => "Annotation"

/-- The annotation that a value is, when it is one. -/
def note? : Value → Option Annotation
  | note args keywords => some (.ofKeywords args keywords)
  | _ => none

end Value

end Errata
