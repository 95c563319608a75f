import Errata.Json.Text
import Errata.Value.Image

/-!
# Replies

The bodies that are sent to a client. An error has a status, a code, perhaps a hint, and a content; a
success has a status, a content, and perhaps something about it. The status of the reply is the one
in the body.
-/

namespace Errata

/-- A status line's number and a JSON body, which may be missing. -/
structure Reply where
  status : Int
  body : Option Json

/-- The body as it is sent. -/
def Reply.text (r : Reply) : String := (r.body.map Json.compact).getD ""

/-- The reply with a body, when bytes can hold the text of the body. -/
def Reply.ofBody (status : Int) (body : Json) : Except EncodeFault Reply :=
  match Text.surrogateRun? body.compact with
  | some run => .error (.surrogates run)
  | none => .ok ⟨status, some body⟩

/-- What is said about an error. -/
structure ErrorBody where
  status : Int
  code : String
  hint : Option String
  content : Value

namespace ErrorBody

/-- The members before the content; a hint that is absent is left out. -/
def head (e : ErrorBody) : List (String × Json) :=
  [("status", .int e.status), ("code", .str e.code)] ++
    match e.hint with
    | some h => [("hint", .str h)]
    | none => []

/-- The JSON body with a given content. -/
def json (e : ErrorBody) (content : Json) : Json :=
  .obj (e.head ++ [("content", content)])

/-- The document of the body, when the content has one. -/
def document (e : ErrorBody) : Except EncodeFault Json := do
  let image ← e.content.image
  let content ← image.json
  return e.json content

/-- The reply, when the body has a document and bytes can hold its text. -/
def reply (e : ErrorBody) : Except EncodeFault Reply := do
  let body ← e.document
  Reply.ofBody e.status body

end ErrorBody

/-- What is sent with a success. -/
structure Envelope where
  status : Int
  content : Value
  info : Value

namespace Envelope

/-- The envelope with something else said about its content. -/
def withInfo (e : Envelope) (info : Value) : Envelope := { e with info }

/-- The reply, when content and information have a document and bytes can hold the text of the body. -/
def reply (e : Envelope) : Except EncodeFault Reply := do
  let content ← e.content.dump Value.maxDumpDepth
  let info ← e.info.dump Value.maxDumpDepth
  let content ← content.withoutReserved.json
  let info ← info.withoutReserved.json
  Reply.ofBody e.status (.obj [("status", .int e.status), ("content", content), ("meta", info)])

end Envelope

end Errata
