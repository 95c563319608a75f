import Errata.Docs.Schema

/-!
# Catalogues and components

The documentation of a whole taxonomy, by name, and the sections of a document that it is collected
into. A name that comes again keeps its place and takes the new entry.
-/

namespace Errata.Docs

/-- The schemas and responses of a document, by name. -/
structure Components where
  schemas : OrderedMap String Json
  responses : OrderedMap String Json

namespace Components

/-- No schema and no response. -/
def empty : Components := ⟨.empty, .empty⟩

instance : Inhabited Components := ⟨empty⟩

/-- Sets every schema and every response of others. -/
def update (c d : Components) : Components :=
  ⟨c.schemas.update d.schemas, c.responses.update d.responses⟩

/-- Joins components, one after the other. -/
def join (cs : List Components) : Components := cs.foldl update empty

end Components

/-- The components of one artifact. -/
def Artifact.components (a : Artifact) : Components :=
  ⟨a.schemas, .ofList [(a.name, a.response)]⟩

/-- The documentation of a taxonomy. -/
structure Catalogue where
  typeName : String
  artifacts : OrderedMap String Artifact

namespace Catalogue

/-- The catalogue of a list of artifacts, by their names. -/
def ofArtifacts (typeName : String) (artifacts : List Artifact) : Catalogue :=
  ⟨typeName, .ofList (artifacts.map fun a => (a.name, a))⟩

/-- The artifacts of a taxonomy: one for every case that answers a request, and at the end one for all
internal cases together. -/
def artifactsOf (t : Taxonomy) : List Artifact :=
  t.cases.filterMap (fun c => c.request?.map fun r => .single (.ofRequest c.name c.naive r)) ++
    if t.internalCases.isEmpty then [] else [.single (.internal t.internalCode)]

/-- The documentation of a taxonomy. -/
def ofTaxonomy (t : Taxonomy) : Catalogue := ofArtifacts t.typeName (artifactsOf t)

/-- The artifact of a name. -/
def get? (c : Catalogue) (name : String) : Option Artifact := c.artifacts.get? name

/-- The documented names, in order. -/
def names (c : Catalogue) : List String := c.artifacts.keys

/-- The components of all artifacts. -/
def components (c : Catalogue) : Components := .join (c.artifacts.values.map Artifact.components)

/-- Two catalogues document the same errors, in whatever order. -/
def same (a b : Catalogue) : Bool :=
  a.artifacts.size == b.artifacts.size &&
    a.artifacts.entries.all fun e =>
      match b.get? e.1 with
      | some artifact => e.2.same artifact
      | none => false

/-- How a catalogue is shown. -/
def inspect (c : Catalogue) : String :=
  bracketed "DocArtifacts(" ")"
    [Text.quoted c.typeName, bracketed "[" "]" (c.names.map Text.quoted)]

end Catalogue

end Errata.Docs
