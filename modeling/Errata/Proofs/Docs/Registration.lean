import Errata.Class.Source
import Mathlib

/-!
# Registrations over whole runs

Every registration puts one more way of asking before those that an application has. As long as no document
is kept, asking goes through all of them and changes the document of the routes, the first registration
first; from then on the document that is kept comes back from the outermost of them. A run therefore has two
parts: until it is asked the application gathers components (`Awaits`), and afterwards it keeps one document
at one place (`Keeps`). `run_gives_one_document` puts them together, whatever the order of the calls.
-/

namespace Errata

namespace Docs

/-- A section of the components of a document. -/
inductive Section where
  | schemas
  | responses
  deriving DecidableEq

/-- What components have in a section. -/
def Components.entries (c : Components) : Section → OrderedMap String Json
  | .schemas => c.schemas
  | .responses => c.responses

/-- A section, if it is there. -/
def Sections.get? (s : Sections) : Section → Option (OrderedMap String Json)
  | .schemas => s.schemas
  | .responses => s.responses

namespace Document

/-- A section of a document, if it is there. -/
def section? (d : Document) (kind : Section) : Option (OrderedMap String Json) :=
  d.components.bind fun s => s.get? kind

/-- What a document has in a section under a name. -/
def lookup? (d : Document) (kind : Section) (name : String) : Option Json :=
  (d.section? kind).bind fun entries => entries.get? name

/-- The sections of components that no registration is about. -/
def otherSections (d : Document) : List (String × Json) := (d.components.getD .none).others

/-- Components are set in a section where they have entries for it. -/
lemma section?_register (d : Document) (c : Components) (kind : Section) :
    (d.register c).section? kind = Sections.updateSection (d.section? kind) (c.entries kind) := by
  obtain ⟨components, others⟩ := d
  cases components <;> cases kind <;> rfl

/-- An entry of the components hides what the document had under its name, and no other. -/
lemma lookup?_register (d : Document) (c : Components) (kind : Section) (name : String) :
    (d.register c).lookup? kind name = ((c.entries kind).get? name).or (d.lookup? kind name) := by
  unfold lookup?
  rw [section?_register, Sections.updateSection]
  split_ifs with nothing
  · have absent : (c.entries kind).get? name = none := by
      rw [OrderedMap.get?, List.isEmpty_iff.1 nothing]
      rfl
    rw [absent, Option.none_or]
  · rw [Option.bind_some, OrderedMap.get?_update]
    cases d.section? kind <;> rfl

/-- No section is made where nothing is put in. -/
lemma section?_register_eq_none_iff {d : Document} {c : Components} {kind : Section} :
    (d.register c).section? kind = none ↔ d.section? kind = none ∧ (c.entries kind).entries = [] := by
  rw [section?_register, Sections.updateSection]
  split_ifs with nothing
  · simp [List.isEmpty_iff.1 nothing]
  · simp [mt List.isEmpty_iff.2 nothing]

/-- Registrations change neither the other members of a document nor the other sections of its components. -/
lemma others_foldl_register (cs : List Components) (d : Document) :
    (cs.foldl register d).others = d.others ∧ (cs.foldl register d).otherSections = d.otherSections := by
  induction cs generalizing d with
  | nil => exact ⟨rfl, rfl⟩
  | cons c cs ih => exact ih (d.register c)

/-- Of several registrations the last that has a name decides, and the document where none has it. -/
lemma lookup?_foldl_register (cs : List Components) (d : Document) (kind : Section) (name : String) :
    (cs.foldl register d).lookup? kind name =
      (cs.filterMap fun c => (c.entries kind).get? name).getLast?.or (d.lookup? kind name) := by
  induction cs generalizing d with
  | nil => rfl
  | cons c cs ih =>
    rw [List.foldl_cons, ih, lookup?_register]
    cases found : (c.entries kind).get? name with
    | none => rw [List.filterMap_cons, found, Option.none_or]
    | some j =>
      rw [List.filterMap_cons, found, List.getLast?_cons]
      cases (cs.filterMap fun c => (c.entries kind).get? name).getLast? <;> rfl

/-- After several registrations a section is missing where it was, and none of them had entries for it. -/
lemma section?_foldl_register_eq_none_iff {cs : List Components} {d : Document} {kind : Section} :
    (cs.foldl register d).section? kind = none ↔
      d.section? kind = none ∧ ∀ c ∈ cs, (c.entries kind).entries = [] := by
  induction cs generalizing d with
  | nil => simp
  | cons c cs ih =>
    rw [List.foldl_cons, ih, section?_register_eq_none_iff, List.forall_mem_cons, and_assoc]

end Document

namespace Inquiry

/-- The components that are registered on the way, the innermost first. -/
def components : Inquiry → List Components
  | routes => []
  | registration c before => before.components ++ [c]

/-- Every way gives the document that is kept, and changes nothing. -/
lemma ask_of_kept {a : Application} {place : Nat} (kept : a.kept = some place) (i : Inquiry) :
    i.ask a = ⟨a, place, a.kept_lt place kept⟩ := by
  cases i <;>
  · unfold ask
    split
    · rename_i place' kept'
      cases kept.symm.trans kept'
      rfl
    · rename_i unkept
      cases kept.symm.trans unkept

/-- Components that are set in the document that was added last could have been set before it was added. -/
lemma register_keep (a : Application) (d : Document) (c : Components)
    (there : a.documents.length < (a.keep d).documents.length) :
    Located.register ⟨a.keep d, a.documents.length, there⟩ c =
      ⟨a.keep (d.register c), a.documents.length, by simp [Application.keep]⟩ := by
  simp [Located.register, Application.keep, List.modify_eq_take_drop]

/-- Where no document is kept, one is built, and all that is registered on the way is set in it, in order. -/
lemma ask_of_unkept {a : Application} (unkept : a.kept = none) (i : Inquiry) :
    i.ask a = ⟨a.keep (i.components.foldl Document.register a.routes), a.documents.length,
      by simp [Application.keep]⟩ := by
  induction i with
  | routes =>
    unfold ask
    split
    · rename_i kept
      cases unkept.symm.trans kept
    · rfl
  | registration c before ih =>
    unfold ask
    split
    · rename_i kept
      cases unkept.symm.trans kept
    · rw [ih, register_keep]
      simp only [components, List.foldl_append, List.foldl_cons, List.foldl_nil]

end Inquiry

end Docs

/-! ## Runs -/

open Docs

/-- A call on an application: sources are registered, with the classes that there are at the time, or the
document is asked for. -/
inductive Call where
  | register (t : ClassTable) (sources : List Subject)
  | ask

namespace Call

/-- What a call comes back with. A document is at a place, and has a content at the time. -/
inductive Outcome where
  | registered
  | refused (e : SourceFault)
  | document (place : Nat) (content : Document)

/-- Makes a call. An application stays as it is where sources document nothing. -/
def make (a : Application) : Call → Outcome × Application
  | register t sources =>
    match Subject.register t a sources with
    | .ok a => (.registered, a)
    | .error e => (.refused e, a)
  | ask => (.document a.ask.place a.ask.document, a.ask.application)

/-- Makes some calls, one after the other. -/
def run (a : Application) : List Call → List Outcome × Application
  | [] => ([], a)
  | c :: cs =>
    let (outcome, a) := c.make a
    let (outcomes, a) := run a cs
    (outcome :: outcomes, a)

/-- The call asks for the document. -/
def isAsk : Call → Bool
  | register .. => false
  | ask => true

/-- The components that a call registers. -/
def components? : Call → Option Components
  | register t sources => (Subject.collect t sources).toOption
  | ask => none

/-- The components that are registered before the document is asked for, in order. -/
def registered (cs : List Call) : List Components :=
  (cs.takeWhile fun c => !c.isAsk).filterMap components?

/-- What a call comes back with, where one document at one place is all that is ever given. -/
def outcome (place : Nat) (d : Document) : Call → Outcome
  | register t sources =>
    match Subject.collect t sources with
    | .ok _ => .registered
    | .error e => .refused e
  | ask => .document place d

end Call

namespace Docs.Application

/-- The application was not asked yet, and has gathered components. -/
structure Awaits (a : Application) (routes : Document) (gathered : List Components) : Prop where
  unkept : a.kept = none
  routes : a.routes = routes
  gathered : a.inquiry.components = gathered

/-- The application keeps a document at a place. -/
structure Keeps (a : Application) (place : Nat) (d : Document) : Prop where
  kept : a.kept = some place
  document : a.documents[place]? = some d

lemma awaits_ofRoutes (routes : Document) : (ofRoutes routes).Awaits routes [] := ⟨rfl, rfl, rfl⟩

section

variable {a : Application} {routes : Document} {gathered : List Components}

/-- What is registered is gathered, as long as the application was not asked. -/
lemma Awaits.make (awaits : a.Awaits routes gathered) {c : Call} (silent : c.isAsk = false) :
    (∀ place d, (c.make a).1 = c.outcome place d) ∧
      (c.make a).2.Awaits routes (gathered ++ c.components?.toList) := by
  cases c with
  | ask => cases silent
  | register t sources =>
    simp only [Call.make, Call.outcome, Call.components?, Subject.register]
    cases Subject.collect t sources with
    | error e =>
      refine ⟨fun _ _ => rfl, ?_⟩
      rw [Except.toOption, Option.toList_none, List.append_nil]
      exact awaits
    | ok components =>
      exact ⟨fun _ _ => rfl, awaits.unkept, awaits.routes, congrArg (· ++ [components]) awaits.gathered⟩

/-- When it is asked, it builds the document of its routes with all that was gathered, and keeps it. -/
lemma Awaits.ask (awaits : a.Awaits routes gathered) :
    let d := gathered.foldl Document.register routes
    (Call.ask.make a).1 = .document a.documents.length d ∧ (Call.ask.make a).2.Keeps a.documents.length d := by
  obtain ⟨unkept, rfl, rfl⟩ := awaits
  have asked := Inquiry.ask_of_unkept unkept a.inquiry
  simp only [Call.make, Application.ask, asked]
  exact ⟨by simp [Located.document, keep], rfl, by simp [keep]⟩

/-- A document that is kept is what every call comes back with, and it stays as it is. -/
lemma Keeps.make {place : Nat} {d : Document} (keeps : a.Keeps place d) (c : Call) :
    (c.make a).1 = c.outcome place d ∧ (c.make a).2.Keeps place d := by
  cases c with
  | ask =>
    have asked := Inquiry.ask_of_kept keeps.kept a.inquiry
    simp only [Call.make, Application.ask, asked]
    obtain ⟨_, found⟩ := List.getElem?_eq_some_iff.1 keeps.document
    exact ⟨congrArg (Call.Outcome.document place) found, keeps⟩
  | register t sources =>
    simp only [Call.make, Call.outcome, Subject.register]
    cases Subject.collect t sources with
    | error e => exact ⟨rfl, keeps⟩
    | ok components => exact ⟨rfl, keeps.kept, keeps.document⟩

/-- A document that is kept is kept through a whole run. -/
lemma Keeps.run {place : Nat} {d : Document} (keeps : a.Keeps place d) (calls : List Call) :
    (Call.run a calls).1 = calls.map (Call.outcome place d) ∧ (Call.run a calls).2.Keeps place d := by
  induction calls generalizing a with
  | nil => exact ⟨rfl, keeps⟩
  | cons c calls ih =>
    obtain ⟨outcome, still⟩ := keeps.make c
    obtain ⟨outcomes, last⟩ := ih still
    refine ⟨?_, last⟩
    rw [List.map_cons, ← outcome, ← outcomes]
    rfl

/-- A run gathers what is registered until the application is asked, and keeps one document from then on. -/
lemma Awaits.run (awaits : a.Awaits routes gathered) (calls : List Call) :
    let d := (gathered ++ Call.registered calls).foldl Document.register routes
    ∃ place, (Call.run a calls).1 = calls.map (Call.outcome place d) ∧
      (calls.any Call.isAsk = true → (Call.run a calls).2.Keeps place d) := by
  induction calls generalizing a gathered with
  | nil => exact ⟨0, rfl, nofun⟩
  | cons c calls ih =>
    cases kind : c.isAsk with
    | true =>
      -- The components are complete; whatever comes behind does not change the document.
      cases c with
      | register => cases kind
      | ask =>
        obtain ⟨outcome, keeps⟩ := awaits.ask
        obtain ⟨outcomes, last⟩ := keeps.run calls
        have complete : gathered ++ Call.registered (.ask :: calls) = gathered := List.append_nil _
        rw [complete]
        refine ⟨a.documents.length, ?_, fun _ => last⟩
        rw [List.map_cons, Call.outcome, ← outcome, ← outcomes]
        rfl
    | false =>
      obtain ⟨outcome, awaits⟩ := awaits.make kind
      obtain ⟨place, outcomes, last⟩ := ih awaits
      have more : gathered ++ Call.registered (c :: calls) =
          gathered ++ c.components?.toList ++ Call.registered calls := by
        rw [List.append_assoc, Call.registered, List.takeWhile_cons_of_pos (by simpa using kind),
          List.filterMap_cons]
        cases c.components? <;> rfl
      rw [more]
      refine ⟨place, ?_, fun asked => last ?_⟩
      · rw [List.map_cons, ← outcome, ← outcomes]
        rfl
      · rwa [List.any_cons, kind, Bool.false_or] at asked

end

/-- Whatever is registered and asked for in a run, one document at one place is all that is ever given: that
of the routes, with the components that were registered before it was asked for first. In it a later
registration hides an earlier one under the same name, what the routes have under other names is still
there, and a section is made only where something was registered for it; everything else in it is that of the
routes. What is registered later never gets in: the document is the same to the end. -/
theorem run_gives_one_document (routes : Document) (calls : List Call) :
    let ran := Call.run (ofRoutes routes) calls
    let d := (Call.registered calls).foldl Document.register routes
    (∃ place, ran.1 = calls.map (Call.outcome place d) ∧
      (calls.any Call.isAsk = true → ran.2.Keeps place d)) ∧
    (d.others = routes.others ∧ d.otherSections = routes.otherSections) ∧
    ∀ kind,
      (∀ name, d.lookup? kind name =
        ((Call.registered calls).filterMap fun c => (c.entries kind).get? name).getLast?.or
          (routes.lookup? kind name)) ∧
      (d.section? kind = none ↔
        routes.section? kind = none ∧ ∀ c ∈ Call.registered calls, (c.entries kind).entries = []) := by
  refine ⟨(awaits_ofRoutes routes).run calls, Document.others_foldl_register _ routes,
    fun kind => ⟨fun name => ?_, ?_⟩⟩
  · exact Document.lookup?_foldl_register _ routes kind name
  · exact Document.section?_foldl_register_eq_none_iff

end Docs.Application

end Errata
