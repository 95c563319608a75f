import Errata.Docs.Artifact

/-!
# Schemas and responses

The JSON that documents an error. A single error has an object schema in which every member but the
content is pinned to one value. Combined errors have a schema of alternatives, with a discriminator by
code where no two codes are equal. A response refers to the schema of its own name.
-/

namespace Errata.Docs

/-- Where schemas are found in a document. -/
def schemaPath : String := "#/components/schemas/"

/-- The reference to a schema. -/
def schemaRef (name : String) : Json := .single "$ref" (.str (schemaPath ++ name))

/-- A member that has one value only. -/
def pinned (type : String) (value : Json) : Json :=
  .obj [("type", .str type), ("enum", .arr [value]), ("example", value)]

namespace Leaf

/-- The members of a body, with their schemas. -/
def properties (l : Leaf) : List (String × Json) :=
  [("status", pinned "integer" (.int l.status)), ("code", pinned "string" (.str l.code.text))] ++
    (match l.hint with
      | some h => [("hint", pinned "string" (.str h.text))]
      | none => []) ++
    if l.carriesContent then [("content", .single "type" (.str "object"))] else []

/-- The schema of a body; every member is required. -/
def schema (l : Leaf) : Json :=
  .obj [
    ("type", .str "object"),
    ("properties", .obj l.properties),
    ("required", .arr (l.properties.map fun p => .str p.1))]

end Leaf

namespace Artifact

/-- No two leaves have one code, so that the code tells them apart. -/
def hasDistinctCodes (a : Artifact) : Bool := decide a.codes.Nodup

/-- Which schema a code stands for. -/
def discriminator (a : Artifact) : Json :=
  .obj [
    ("propertyName", .str "code"),
    ("mapping", .obj (a.leaves.map fun l => (l.code.text, .str (schemaPath ++ l.name))))]

/-- The alternatives of a combined artifact. -/
def alternatives (a : Artifact) : Json :=
  .obj (("oneOf", .arr (a.leaves.map fun l => schemaRef l.name)) ::
    if a.hasDistinctCodes then [("discriminator", a.discriminator)] else [])

/-- The schema under the artifact's own name. -/
def schema (a : Artifact) : Json := if a.isCombined then a.alternatives else a.first.schema

/-- The response that refers to it. -/
def response (a : Artifact) : Json :=
  .obj [
    ("description", .str a.responseDescription),
    ("content", .single "application/json" (.single "schema" (schemaRef a.name)))]

/-- The key of its status in an index of responses. -/
def statusKey (a : Artifact) : String := toString a.status

/-- The schemas it needs: those of its leaves and its own. -/
def schemas (a : Artifact) : OrderedMap String Json :=
  (OrderedMap.ofList (a.leaves.map fun l => (l.name, l.schema))).insert a.name a.schema

/-- Its responses, by status. -/
def responses (a : Artifact) : OrderedMap String Json := .ofList [(a.statusKey, a.response)]

end Artifact

/-- A response, with the name of the artifact that it comes from. -/
structure OwnedResponse where
  owner : String
  response : Json

/-- Adds a response of an artifact under the key of its status, which no other artifact may have taken. -/
def addResponse (name : String) (merged : OrderedMap String OwnedResponse) (entry : String × Json) :
    Except Violation (OrderedMap String OwnedResponse) :=
  match merged.get? entry.1 with
  | some owned => .error (.sharedStatus owned.owner name entry.1)
  | none => .ok (merged.insert entry.1 ⟨name, entry.2⟩)

/-- Adds the responses of an artifact. -/
def addResponses (merged : OrderedMap String OwnedResponse) (a : Artifact) :
    Except Violation (OrderedMap String OwnedResponse) :=
  a.responses.entries.foldlM (addResponse a.name) merged

/-- Merges the responses of artifacts that have different statuses. -/
def mergeResponses (artifacts : List Artifact) : Except Violation (OrderedMap String Json) :=
  (artifacts.foldlM addResponses .empty).map fun merged => merged.mapValues OwnedResponse.response

end Errata.Docs
