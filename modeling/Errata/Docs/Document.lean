import Errata.Docs.Catalogue

/-!
# Documents

The document that describes an application. It is built from the routes when the application is first
asked for it, and is kept from then on. A registration puts itself before the way in which the application
was asked until then: where no document is kept, it asks in that way and sets its components in the document
that it gets. So the registrations are nested, and each of them gives the document that is kept as it is.
-/

namespace Errata.Docs

/-- The sections of components: those of schemas and of responses, which may be absent, and whatever else the
application declares, such as its security schemes. -/
structure Sections where
  schemas : Option (OrderedMap String Json)
  responses : Option (OrderedMap String Json)
  others : List (String × Json)

namespace Sections

/-- Components without any section. -/
def none : Sections := ⟨.none, .none, []⟩

/-- Updates a section; nothing is created where nothing is put in. -/
def updateSection (section? : Option (OrderedMap String Json)) (entries : OrderedMap String Json) :
    Option (OrderedMap String Json) :=
  if entries.entries.isEmpty then section? else some ((section?.getD .empty).update entries)

/-- Updates the sections with components. -/
def register (s : Sections) (c : Components) : Sections :=
  { s with
    schemas := updateSection s.schemas c.schemas
    responses := updateSection s.responses c.responses }

end Sections

/-- A document: its components, which may be absent, and its other members, such as its paths. -/
structure Document where
  components : Option Sections
  others : List (String × Json)

namespace Document

/-- Updates the components of a document. -/
def register (d : Document) (c : Components) : Document :=
  { d with components := some ((d.components.getD .none).register c) }

end Document

/-- The way in which an application is asked for its document: that of its routes, or that of a
registration, behind which stands the way before it. -/
inductive Inquiry where
  | routes
  | registration (c : Components) (before : Inquiry)

/-- An application: the document of its routes, the way in which it is asked, the documents that were built,
each at its place, and the place of the one that is kept. -/
structure Application where
  routes : Document
  inquiry : Inquiry
  documents : List Document
  kept : Option Nat
  kept_lt : ∀ place, kept = some place → place < documents.length

namespace Application

/-- An application that was not asked yet, and where nothing is registered. -/
def ofRoutes (routes : Document) : Application := ⟨routes, .routes, [], none, nofun⟩

/-- An application without routes. -/
def bare : Application := ofRoutes ⟨none, []⟩

/-- Registers components. -/
def register (a : Application) (c : Components) : Application :=
  { a with inquiry := .registration c a.inquiry }

/-- Adds a document, and keeps it. -/
def keep (a : Application) (d : Document) : Application :=
  { a with
    documents := a.documents ++ [d]
    kept := some a.documents.length
    kept_lt := by simp }

end Application

/-- A document of an application, by its place. -/
structure Located where
  application : Application
  place : Nat
  place_lt : place < application.documents.length

namespace Located

/-- The document itself, as it is now. -/
def document (l : Located) : Document := l.application.documents.get ⟨l.place, l.place_lt⟩

/-- Sets components in the document, where it stands. -/
def register (l : Located) (c : Components) : Located where
  application := { l.application with
    documents := l.application.documents.modify l.place (·.register c)
    kept_lt := by simpa using l.application.kept_lt }
  place := l.place
  place_lt := by simpa using l.place_lt

end Located

/-- Asks an application in some way. A document that is kept is given as it is. Otherwise the routes build
one, and a registration changes the one that it gets. -/
def Inquiry.ask (a : Application) : Inquiry → Located
  | routes =>
    match h : a.kept with
    | some place => ⟨a, place, a.kept_lt place h⟩
    | none => ⟨a.keep a.routes, a.documents.length, by simp [Application.keep]⟩
  | registration c before =>
    match h : a.kept with
    | some place => ⟨a, place, a.kept_lt place h⟩
    | none => (before.ask a).register c

namespace Application

/-- Asks an application for its document. -/
def ask (a : Application) : Located := a.inquiry.ask a

/-- The document, and the application that was asked for it. -/
def document (a : Application) : Document × Application := (a.ask.document, a.ask.application)

end Application

end Errata.Docs
