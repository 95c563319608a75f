import Errata.Class.Subject
import Errata.Docs.Document

/-!
# Sources of documentation

What can be registered: a taxonomy, a catalogue, or an artifact. The components of several sources are
joined in order.
-/

namespace Errata

/-- An expression for a source of documentation. -/
inductive Source where
  | cls (path : List String)
  | catalogue (path : List String)
  | artifact (path : List String) (name : String)
  | combined (first second : Source)
  | error (name : String)
  | value (v : Value)

instance : Inhabited Source := ⟨.value .null⟩

/-- Why nothing can be documented. -/
inductive SourceFault where
  | lookup (e : LookupFault)
  | violation (e : Docs.Violation)
  | differentStatus (first firstStatus second secondStatus : String)
  | sum (e : Script.EvaluationFault)
  | notDocumented (shown : String)
  | notSubscriptable (type : String)
  deriving DecidableEq, Repr

/-- What went wrong, in words. -/
def SourceFault.message : SourceFault → String
  | lookup e => e.message
  | violation e => e.message
  | differentStatus first firstStatus second secondStatus =>
    Docs.differentStatusMessage first firstStatus second secondStatus
  | sum e => e.message
  | notDocumented shown =>
    s!"Cannot document {shown}: expected a JsonErrorEnum subclass or doc artifacts"
  | notSubscriptable type => s!"'{type}' object is not subscriptable"

/-- The type of the fault. -/
def SourceFault.type : SourceFault → String
  | lookup e => e.type
  | violation _ => "ContractViolation"
  | differentStatus _ _ _ _ => "ContractViolation"
  | _ => "TypeError"

namespace Subject

/-- The attribute by which artifacts are compared before they are combined. -/
def statusAttribute : String := "status"

/-- The attribute that holds the name of an artifact. -/
def nameAttribute : String := "schema_name"

/-- The attribute that holds the single artifacts of an artifact. -/
def leavesAttribute : String := "leaves"

/-- The attribute of a subject that is needed of a source. -/
def need (t : ClassTable) (name : String) (s : Subject) : Except SourceFault Subject :=
  (s.getAttribute t name).mapError .lookup

/-- Two statuses are equal. -/
def same : Subject → Subject → Bool
  | cls c, cls d => c = d
  | value v, value w => v.sameKey w
  | artifact a, artifact b => a.same b
  | _, _ => false

/-- A subject as it stands in prose. -/
def print (t : ClassTable) : Subject → String
  | value v => v.print
  | s => s.inspect t

/-- Documents two subjects together. What is no artifact lacks something on the way. -/
def combine (t : ClassTable) (a b : Subject) : Except SourceFault Subject := do
  match a, b with
  | artifact x, artifact y => (x.combine y).map artifact |>.mapError .violation
  | a, b =>
    let status ← a.need t statusAttribute
    let other ← b.need t statusAttribute
    if status.same other then
      let leaves ← a.need t leavesAttribute
      let others ← b.need t leavesAttribute
      match (Script.Thing.value (leaves.typeName t)).operate "+" (.value (others.typeName t)) with
      | .ok _ => return a
      | .error e => throw (.sum e)
    else
      let name ← a.need t nameAttribute
      let second ← b.need t nameAttribute
      throw (.differentStatus (name.print t) (status.print t) (second.print t) (other.print t))

/-- The entry of a subject under a name. -/
def entry (t : ClassTable) (name : String) : Subject → Except SourceFault Subject
  | catalogue c => (c.entry name).map artifact |>.mapError fun e => .lookup (.catalogue e)
  | s => .error (.notSubscriptable (s.typeName t))

/-- The components that a subject documents. -/
def components (t : ClassTable) : Subject → Except SourceFault Docs.Components
  | artifact a => .ok a.components
  | catalogue c => .ok c.components
  | cls c =>
    if t.isTaxonomyClass c then
      match t.compiled? c with
      | some compiled => .ok compiled.catalogue.components
      | none => .error (.lookup (.classAttribute (t.name c) catalogueAttribute))
    else .error (.notDocumented ((cls c).inspect t))
  | s => .error (.notDocumented (s.inspect t))

/-- The components of several subjects, joined in order. -/
def collect (t : ClassTable) (ss : List Subject) : Except SourceFault Docs.Components :=
  (ss.mapM (components t)).map Docs.Components.join

/-- Registers the components of several subjects in an application, if all of them document something. -/
def register (t : ClassTable) (a : Docs.Application) (ss : List Subject) :
    Except SourceFault Docs.Application :=
  (collect t ss).map a.register

end Subject

/-- What the expression of a source stands for. -/
def Source.resolve (t : ClassTable) (scope : Scope) (errors : OrderedMap String Instance) :
    Source → Except SourceFault Subject
  | cls path => (scope.resolve t path).mapError .lookup
  | catalogue path => do
    let s ← (scope.resolve t path).mapError .lookup
    (s.getAttribute t catalogueAttribute).mapError .lookup
  | artifact path name => do
    let s ← (scope.resolve t path).mapError .lookup
    let c ← (s.getAttribute t catalogueAttribute).mapError .lookup
    c.entry t name
  | combined first second => do
    let a ← first.resolve t scope errors
    let b ← second.resolve t scope errors
    a.combine t b
  | error name =>
    match errors.get? name with
    | some i => .ok (.error i)
    | none => .error (.lookup (.noError name))
  | value v => .ok (.value v)

end Errata
