import Errata.Json.Basic
import Errata.Text.Utf8
import Errata.Value.Inspect

/-!
# Plain images of values

Before a value is written as JSON it becomes a plain image: lists, dictionaries, numbers and texts
only. A payload that stands by itself keeps the types of its keys until it is written. What stands
inside a record is dumped instead: every key becomes a text at once, a number that is not finite counts
as none, and values may not stand in each other too deep. In both cases the entries under reserved text
keys are left out.
-/

namespace Errata

/-- Why a value has no JSON text. -/
inductive EncodeFault where
  | undecodable (f : Text.Utf8Fault)
  | undecodableField (f : Text.Utf8Fault)
  | surrogates (r : Text.SurrogateRun)
  | unhashableList
  | unhashableDict
  | outOfRange
  | unknownType (type : String)
  | tooDeep
  | tooLong
  deriving DecidableEq, Repr

/-- What went wrong, in words. -/
def EncodeFault.message : EncodeFault → String
  | undecodable f => f.message f.reason
  | undecodableField f => f.message "invalid utf-8"
  | surrogates r => r.message
  | unhashableList => "unhashable type: 'list'"
  | unhashableDict => "unhashable type: 'dict'"
  | outOfRange => "Out of range float values are not JSON compliant"
  | unknownType type => s!"Unable to serialize unknown type: <class '{type}'>"
  | tooDeep => "Maximum serialization depth exceeded"
  | tooLong => InspectFault.tooLong.message

/-- The type of the fault. -/
def EncodeFault.type : EncodeFault → String
  | undecodable _ => "UnicodeDecodeError"
  | undecodableField _ => "UnicodeDecodeError"
  | surrogates _ => "UnicodeEncodeError"
  | unhashableList => "TypeError"
  | unhashableDict => "TypeError"
  | unknownType _ => "PydanticSerializationError"
  | _ => "ValueError"

namespace Image

/-- A key of a plain dictionary. -/
inductive Key where
  | null
  | bool (b : Bool)
  | int (n : Int)
  | float (x : Floating)
  | text (s : String)
  deriving DecidableEq

namespace Key

/-- The number that a key is, when it is one. -/
def number? : Key → Option (Int ⊕ Floating)
  | bool b => some (.inl (if b then 1 else 0))
  | int n => some (.inl n)
  | float x =>
    match x.integer? with
    | some n => some (.inl n)
    | none => some (.inr x)
  | _ => none

/-- Equality of two keys: numbers by their value. -/
def same : Key → Key → Bool
  | null, null => true
  | text s, text t => s == t
  | k, l =>
    match k.number?, l.number? with
    | some m, some n => Value.sameNumber m n
    | _, _ => false

/-- An entry under this key is never shown. -/
def isReserved : Key → Bool
  | text s => "_sa".toList.isPrefixOf s.toList
  | _ => false

end Key

end Image

/-- A value of lists, dictionaries, numbers and texts only. -/
inductive Image where
  | null
  | bool (b : Bool)
  | int (n : Int)
  | float (x : Floating)
  | text (s : String)
  | list (items : List Image)
  | dict (entries : List (Image.Key × Image))

namespace Image

instance : Inhabited Image := ⟨.null⟩

/-- A dictionary in which equal keys are merged. -/
def ofEntries (es : List (Key × Image)) : Image := dict (mergeBy Key.same es)

/-- The key that an image makes. -/
def key? : Image → Except EncodeFault Key
  | null => .ok .null
  | bool b => .ok (.bool b)
  | int n => .ok (.int n)
  | float x => .ok (.float x)
  | text s => .ok (.text s)
  | list _ => .error .unhashableList
  | dict _ => .error .unhashableDict

mutual

/-- The image without the entries under reserved keys, at every depth. -/
def withoutReserved : Image → Image
  | list items => list (itemsWithoutReserved items)
  | dict entries => dict (entriesWithoutReserved entries)
  | image => image

/-- The items without reserved entries. -/
def itemsWithoutReserved : List Image → List Image
  | [] => []
  | i :: is => withoutReserved i :: itemsWithoutReserved is

/-- The entries without reserved ones. -/
def entriesWithoutReserved : List (Key × Image) → List (Key × Image)
  | [] => []
  | (k, i) :: es =>
    if k.isReserved then entriesWithoutReserved es
    else (k, withoutReserved i) :: entriesWithoutReserved es

end

/-- A whole number that can be written. -/
def writable? (n : Int) : Except EncodeFault Int := if Value.isLong n then .error .tooLong else .ok n

/-- A finite number. -/
def finite? : Floating → Except EncodeFault Decimal
  | .finite d _ => .ok d
  | _ => .error .outOfRange

/-- The text of a key in a JSON object. -/
def Key.json : Key → Except EncodeFault String
  | null => .ok "null"
  | bool true => .ok "true"
  | bool false => .ok "false"
  | int n => (writable? n).map toString
  | float x => (finite? x).map Decimal.text
  | text s => .ok s

mutual

/-- The document of an image, when all its numbers are finite. -/
def json : Image → Except EncodeFault Json
  | null => .ok .null
  | bool b => .ok (.bool b)
  | int n => (writable? n).map .int
  | float x => (finite? x).map .real
  | text s => .ok (.str s)
  | list items => (jsonItems items).map .arr
  | dict entries => (jsonEntries entries).map .obj

/-- The documents of a row. -/
def jsonItems : List Image → Except EncodeFault (List Json)
  | [] => .ok []
  | i :: is => do
    let j ← json i
    let js ← jsonItems is
    return j :: js

/-- The members of a dictionary's document. -/
def jsonEntries : List (Key × Image) → Except EncodeFault (List (String × Json))
  | [] => .ok []
  | (k, i) :: es => do
    let key ← k.json
    let j ← json i
    let js ← jsonEntries es
    return (key, j) :: js

end

end Image

namespace Value

/-- How deep values may stand in each other inside a record. -/
def maxDumpDepth : Nat := 255

/-- Takes one of the levels that may still stand in each other. -/
def deeper : Nat → Except EncodeFault Nat
  | 0 => .error .tooDeep
  | levels + 1 => .ok levels

/-- The image of a value that holds no others. -/
def leaf (levels : Nat) (i : Image) : Except EncodeFault Image := (deeper levels).map fun _ => i

/-- The text of bytes inside a record. -/
def fieldText (bs : List UInt8) : Except EncodeFault String :=
  (Text.ofUtf8 bs).mapError .undecodableField

mutual

/-- The text of a dictionary key inside a record. A number that is not finite counts as none. -/
def dumpKey : Value → Except EncodeFault String
  | null => .ok "None"
  | bool true => .ok "true"
  | bool false => .ok "false"
  | int n => .ok (toString n)
  | float (.finite d _) => .ok d.text
  | float _ => .ok "None"
  | text s => .ok s
  | status h => .ok (toString h.code)
  | disposition d => .ok d.text
  | bytes bs => fieldText bs
  | tuple vs => (dumpKeys vs).map (",".intercalate ·)
  | failure kind _ => .error (.unknownType kind.name)
  | object o => .error (.unknownType o.path)
  | list _ => .error .unhashableList
  | _ => .error .unhashableDict

/-- The texts of the parts of a key. -/
def dumpKeys : List Value → Except EncodeFault (List String)
  | [] => .ok []
  | v :: vs => do
    let s ← dumpKey v
    let ss ← dumpKeys vs
    return s :: ss

end

mutual

/-- The image of a value inside a record, with a number of levels that may still stand in each other. A
number that is not finite counts as none. -/
def dump (levels : Nat) : Value → Except EncodeFault Image
  | null => leaf levels .null
  | bool b => leaf levels (.bool b)
  | int n => leaf levels (.int n)
  | float (.finite d printed) => leaf levels (.float (.finite d printed))
  | float _ => leaf levels .null
  | text s => leaf levels (.text s)
  | status h => leaf levels (.int h.code)
  | disposition d => leaf levels (.text d.text)
  | list vs => do
    let inner ← deeper levels
    let items ← dumpAll inner vs
    return .list items
  | tuple vs => do
    let inner ← deeper levels
    let items ← dumpAll inner vs
    return .list items
  | dict es => do
    let inner ← deeper levels
    let entries ← dumpEntries inner es
    return .ofEntries entries
  | bytes bs => do
    let _ ← deeper levels
    let s ← fieldText bs
    return .text s
  | failure kind _ => do
    let _ ← deeper levels
    throw (.unknownType kind.name)
  | object o => do
    let _ ← deeper levels
    throw (.unknownType o.path)
  | detail v => do
    let inner ← deeper levels
    let i ← dump inner v
    return .dict [(.text "field", i)]
  | note args keywords => do
    let inner ← deeper levels
    let parts ← deeper inner
    let items ← dumpAll parts args
    let entries ← dumpKeywords parts keywords
    return .dict [(.text "args", .list items), (.text "kwargs", .dict entries)]

/-- The images of a row inside a record. -/
def dumpAll (levels : Nat) : List Value → Except EncodeFault (List Image)
  | [] => .ok []
  | v :: vs => do
    let i ← dump levels v
    let is ← dumpAll levels vs
    return i :: is

/-- The images of a dictionary's entries inside a record. -/
def dumpEntries (levels : Nat) :
    List (Value × Value) → Except EncodeFault (List (Image.Key × Image))
  | [] => .ok []
  | (k, v) :: es => do
    let key ← dumpKey k
    let i ← dump levels v
    let is ← dumpEntries levels es
    return (.text key, i) :: is

/-- The images of keywords inside a record. -/
def dumpKeywords (levels : Nat) :
    List (String × Value) → Except EncodeFault (List (Image.Key × Image))
  | [] => .ok []
  | (k, v) :: es => do
    let i ← dump levels v
    let is ← dumpKeywords levels es
    return (.text k, i) :: is

end

mutual

/-- The image of a payload. -/
def image : Value → Except EncodeFault Image
  | null => .ok .null
  | bool b => .ok (.bool b)
  | int n => .ok (.int n)
  | float x => .ok (.float x)
  | text s => .ok (.text s)
  | status h => .ok (.int h.code)
  | disposition d => .ok (.text d.text)
  | list vs => (imageAll vs).map .list
  | tuple vs => (imageAll vs).map .list
  | dict es => (imageEntries es).map .ofEntries
  | bytes bs => ((Text.ofUtf8 bs).mapError .undecodable).map .text
  | failure _ _ => .ok (.dict [])
  | object _ => .ok (.dict [])
  | detail v => (dump maxDumpDepth v).map fun i => .dict [(.text "field", i.withoutReserved)]
  | note args keywords => do
    let items ← imageAll args
    let entries ← imageKeywords keywords
    return .dict [(.text "args", .list items), (.text "kwargs", .dict entries)]

/-- The images of a row. -/
def imageAll : List Value → Except EncodeFault (List Image)
  | [] => .ok []
  | v :: vs => do
    let i ← image v
    let is ← imageAll vs
    return i :: is

/-- The images of a dictionary's entries that are not under a reserved text. -/
def imageEntries : List (Value × Value) → Except EncodeFault (List (Image.Key × Image))
  | [] => .ok []
  | (k, v) :: es =>
    if (k.wording?.map fun w => (Image.Key.text w.text).isReserved) == some true then imageEntries es
    else do
      let keyImage ← image k
      let i ← image v
      let key ← keyImage.key?
      let is ← imageEntries es
      return (key, i) :: is

/-- The images of keywords that are not reserved. -/
def imageKeywords : List (String × Value) → Except EncodeFault (List (Image.Key × Image))
  | [] => .ok []
  | (k, v) :: es =>
    if (Image.Key.text k).isReserved then imageKeywords es
    else do
      let i ← image v
      let is ← imageKeywords es
      return (.text k, i) :: is

end

end Value

end Errata
