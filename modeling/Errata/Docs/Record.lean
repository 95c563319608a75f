import Errata.Docs.Catalogue

/-!
# Records of artifacts

What is kept of an artifact. The name, the schema and the response are made once, when errors are documented
or combined, and everything later is read from what was made then. A record of combined errors keeps the
records of the single ones, and is combined further by way of these.
-/

namespace Errata.Docs

/-- A response: how it is described, in the words that it was given, and what it contains. -/
structure StoredResponse where
  description : Wording
  content : Json

/-- A response as a document has it. -/
def StoredResponse.json (r : StoredResponse) : Json :=
  .obj [("description", .str r.description.text), ("content", r.content)]

/-- What is kept of the documentation of an error. Only a record of combined errors has parts. -/
structure Record where
  name : String
  schema : Json
  response : StoredResponse
  index : OrderedMap String StoredResponse
  status : Int
  codes : List Wording
  parts : List Record

namespace Record

/-- The records of the single errors. -/
def leaves (r : Record) : List Record := if r.parts.isEmpty then [r] else r.parts

/-- How the error is described in prose. -/
def description (r : Record) : String := r.response.description.shown

/-- Makes a record, with the response that refers to its schema. -/
def build (name : String) (status : Int) (codes : List Wording) (schema : Json) (description : Wording)
    (parts : List Record) : Record :=
  let response := ⟨description, .single "application/json" (.single "schema" (schemaRef name))⟩
  { name, schema, response, index := .ofList [(toString status, response)], status, codes, parts }

/-- The record of a single error. -/
def single (l : Leaf) : Record := build l.name l.status [l.code] l.schema l.description []

/-- The schema that offers those of some records. A code stands for a schema where the codes are distinct, and
there is one for each record. -/
def alternatives (leaves : List Record) : Json :=
  let codes := leaves.flatMap codes
  .obj (("oneOf", .arr (leaves.map fun r => schemaRef r.name)) ::
    if (codes.map Wording.text).Nodup ∧ codes.length = leaves.length then
      [("discriminator", .obj [
        ("propertyName", .str "code"),
        ("mapping", .obj (leaves.flatMap fun r =>
          r.codes.head?.toList.map fun code => (code.text, .str (schemaPath ++ r.name))))])]
    else [])

/-- Documents the errors of two records together. -/
def combine (a b : Record) : Except Violation Record :=
  if a.status ≠ b.status then .error (.differentStatus a.name a.status b.name b.status)
  else
    let leaves := a.leaves ++ b.leaves
    .ok (build ("Or".intercalate (leaves.map name)) a.status (leaves.flatMap codes) (alternatives leaves)
      (.literal (" | ".intercalate (leaves.map description))) leaves)

/-- The responses, by status. -/
def responses (r : Record) : OrderedMap String Json := r.index.mapValues StoredResponse.json

/-- The schemas that are needed: those of the single errors, and its own. -/
def schemas (r : Record) : OrderedMap String Json :=
  (OrderedMap.ofList (r.leaves.map fun l => (l.name, l.schema))).insert r.name r.schema

/-- The components. -/
def components (r : Record) : Components := ⟨r.schemas, .ofList [(r.name, r.response.json)]⟩

end Record

/-- What is kept of an artifact. -/
def Artifact.record (a : Artifact) : Record :=
  if a.isCombined then
    .build a.name a.status (a.leaves.map Leaf.code) a.schema (.literal a.description) (a.leaves.map .single)
  else .single a.first

end Errata.Docs
