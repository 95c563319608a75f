import Errata.Reply.Body
import Errata.Text.Integer

/-!
# Fields of a record

Error bodies and envelopes can be built from values that have not been checked. A field for a number
takes whatever writes one without loss, and a field for a text takes texts, the bytes of one, and members
of enumerations. All fields are read, so that every fault is reported, in the order of the fields.
-/

namespace Errata

namespace Field

/-- Why a field was refused. -/
inductive Fault where
  | missing
  | notInteger
  | notIntegerText
  | notIntegerSize
  | fraction
  | notFinite
  | notText
  | notUnicode
  deriving DecidableEq, Repr

namespace Fault

/-- The tag of a fault. -/
def tag : Fault → String
  | missing => "missing"
  | notInteger => "int_type"
  | notIntegerText => "int_parsing"
  | notIntegerSize => "int_parsing_size"
  | fraction => "int_from_float"
  | notFinite => "finite_number"
  | notText => "string_type"
  | notUnicode => "string_unicode"

/-- What is wrong, in words. -/
def message : Fault → String
  | missing => "Field required"
  | notInteger => "Input should be a valid integer"
  | notIntegerText => "Input should be a valid integer, unable to parse string as an integer"
  | notIntegerSize => "Unable to parse input string as an integer, exceeded maximum size"
  | fraction => "Input should be a valid integer, got a number with a fractional part"
  | notFinite => "Input should be a finite number"
  | notText => "Input should be a valid string"
  | notUnicode => "Input should be a valid string, unable to parse raw data as a unicode string"

end Fault

/-- The number that a text writes. -/
def integerOfText (s : String) : Except Fault Int :=
  (Text.laxInteger s).mapError fun e =>
    match e with
    | .malformed _ => .notIntegerText
    | .tooLong _ => .notIntegerSize

/-- The number that a floating number is. -/
def integerOfFloating : Floating → Except Fault Int
  | .finite d _ =>
    match d.integer? with
    | some n => if n.natAbs < Nat.pow 2 63 then .ok n else .error .notIntegerSize
    | none => .error .fraction
  | _ => .error .notFinite

/-- The number in a field. -/
def integer : Value → Except Fault Int
  | .int n => .ok n
  | .bool b => .ok (if b then 1 else 0)
  | .status h => .ok h.code
  | .float x => integerOfFloating x
  | .text s => if Text.isEncodable s then integerOfText s else .error .notUnicode
  | .disposition d => integerOfText d.text
  | .bytes bs =>
    match Text.ofUtf8 bs with
    | .ok s => integerOfText s
    | .error _ => .error .notIntegerText
  | _ => .error .notInteger

/-- The text in a field. A status is taken for its number. -/
def text : Value → Except Fault String
  | .text s => .ok s
  | .disposition d => .ok d.text
  | .status h => .ok (toString h.code)
  | .bytes bs => (Text.ofUtf8 bs).mapError fun _ => .notUnicode
  | _ => .error .notText

/-- The text in a field that may be empty. -/
def text? : Value → Except Fault (Option String)
  | .null => .ok none
  | v => (text v).map some

end Field

/-- A field that was refused, by its name. -/
abbrev FieldFault := String × Field.Fault

namespace Field

/-- A field that has to be there. -/
def required (fields : OrderedMap String Value) (name : String) (read : Value → Except Fault α) :
    Except FieldFault α :=
  match fields.get? name with
  | some v => (read v).mapError fun e => (name, e)
  | none => .error (name, .missing)

/-- A field that has a default. -/
def optional (fields : OrderedMap String Value) (name : String) (default : α)
    (read : Value → Except Fault α) : Except FieldFault α :=
  match fields.get? name with
  | some v => (read v).mapError fun e => (name, e)
  | none => .ok default

/-- The fault of a field, if it has one. -/
def faults : Except FieldFault α → List FieldFault
  | .ok _ => []
  | .error e => [e]

end Field

/-- Builds an error body. -/
def ErrorBody.ofFields (fields : OrderedMap String Value) : Except (List FieldFault) ErrorBody :=
  match Field.required fields "status" Field.integer, Field.required fields "code" Field.text,
      Field.optional fields "hint" none Field.text? with
  | .ok status, .ok code, .ok hint => .ok ⟨status, code, hint, (fields.get? "content").getD .null⟩
  | status, code, hint => .error (Field.faults status ++ Field.faults code ++ Field.faults hint)

/-- What the content of an envelope has to be. -/
inductive ContentType where
  | any
  | text
  | integer
  deriving DecidableEq, Repr

/-- The content as its type has it. -/
def ContentType.read : ContentType → Value → Except Field.Fault Value
  | any, v => .ok v
  | text, v => (Field.text v).map .text
  | integer, v => (Field.integer v).map .int

/-- Builds an envelope. -/
def Envelope.ofContent (type : ContentType) (content status : Value) :
    Except (List FieldFault) Envelope :=
  match (Field.integer status).mapError fun e => ("status", e),
      (type.read content).mapError fun e => ("content", e) with
  | .ok status, .ok content => .ok ⟨status, content, .null⟩
  | status, content => .error (Field.faults status ++ Field.faults content)

end Errata
