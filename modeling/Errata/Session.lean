import Errata.Class.Call
import Errata.Class.Source

/-!
# Sessions

Taxonomies that are declared and used one after the other: the classes by their names, the errors that
were kept, the environment as it is now, and one application with its registrations.
-/

namespace Errata

/-- What a session has come to. -/
structure Session where
  env : Environment
  classes : ClassTable
  scope : Scope
  errors : OrderedMap String Instance
  application : Docs.Application

/-- A class statement. The bases are expressions. -/
structure ClassStatement where
  name : String
  bases : List (List String)
  hints : OrderedMap String Hint
  config : OrderedMap String Value

/-- Why a step of a session fails. -/
inductive SessionFault where
  | lookup (e : LookupFault)
  | declaration (e : ClassDecl.Fault)
  | call (e : CallFault)
  | conversion (e : ResponseTable.Fault)
  | source (e : SourceFault)
  | notACase
  | conflict
  | notAClass (position : String)
  deriving DecidableEq, Repr

/-- What went wrong, in words. -/
def SessionFault.message : SessionFault → String
  | lookup e => e.message
  | declaration e => e.message
  | call e => e.message
  | conversion e => e.message
  | source e => e.message
  | notACase => "catching classes that do not inherit from BaseException is not allowed"
  | conflict =>
    "metaclass conflict: the metaclass of a derived class must be a (non-strict) subclass of the " ++
      "metaclasses of all its bases"
  | notAClass position => s!"issubclass() arg {position}"

/-- The type of the fault. -/
def SessionFault.type : SessionFault → String
  | lookup e => e.type
  | declaration e => e.type
  | call e => e.type
  | conversion e => e.type
  | source e => e.type
  | _ => "TypeError"

namespace Session

/-- A session that has declared nothing. -/
def start (env : Environment) : Session := ⟨env, .empty, .empty, .empty, .bare⟩

/-- What a path stands for. -/
def resolve (s : Session) (path : List String) : Except SessionFault Subject :=
  (s.scope.resolve s.classes path).mapError .lookup

/-- The keyword that names the class of the new class. -/
def metaclassKeyword : String := "metaclass"

/-- The classes among subjects, when there is nothing else. -/
def classes? (ss : List Subject) : Option (List ClassId) :=
  ss.mapM fun s =>
    match s with
    | .cls c => some c
    | _ => none

/-- Makes what a class statement makes whose first base is no class: a value of the type of that base. All
its bases have to be of one type. -/
def declareValue (s : Session) (bases : List Subject) (config : OrderedMap String Value) :
    Except SessionFault Subject :=
  match (bases.map (Subject.typeName s.classes)).eraseDups with
  | [type] => (Subject.callType type config.keys).mapError .call
  | _ => .error .conflict

/-- Declares a class and binds its name. The hints are written before anything else is looked at. -/
def declare (s : Session) (c : ClassStatement) : Attempt SessionFault (Session × Subject) := do
  let bases ← Attempt.lift (c.bases.mapM s.resolve)
  Attempt.lift ((ClassDecl.checkHints c.hints).mapError fun f => .declaration (.hint f))
  match c.config.get? metaclassKeyword with
  | some v => Attempt.lift (.error (.call (.notCallable v.typeName)))
  | none =>
    match classes? bases with
    | none => return (s, ← Attempt.lift (s.declareValue bases c.config))
    | some bases => do
      let (classes, id) ← (s.classes.declare s.env ⟨c.name, bases, c.hints, c.config⟩).mapError .declaration
      return ({ s with classes, scope := s.scope.insert c.name id }, .cls id)

/-- Makes an error and keeps it. -/
def construct (s : Session) (name : String) (path : List String) (args : List Value) :
    Except SessionFault (Session × Instance) := do
  let subject ← s.resolve path
  let i ← (subject.call s.classes args).mapError .call
  return ({ s with errors := s.errors.insert name i }, i)

/-- An error that was kept. -/
def error (s : Session) (name : String) : Except SessionFault Instance :=
  match s.errors.get? name with
  | some i => .ok i
  | none => .error (.lookup (.noError name))

/-- What is said about an error. -/
def convert (s : Session) (name : String) : Attempt SessionFault ErrorBody := do
  let i ← Attempt.lift (s.error name)
  (i.convert s.classes).mapError fun e => .conversion (.noRule e)

/-- The reply to an error. -/
def respond (s : Session) (name : String) : Attempt SessionFault Reply := do
  let i ← Attempt.lift (s.error name)
  (i.respond s.classes).mapError .conversion

/-- The reply to an error that is raised while a request is handled. -/
def handle (s : Session) (name : String) : Attempt SessionFault Reply := do
  let i ← Attempt.lift (s.error name)
  (i.handle s.classes).mapError .conversion

/-- The classes that an error is caught by: a class, or a row of classes. -/
def catching? (t : ClassTable) (subject : Subject) : Option (List ClassId) :=
  let parts := match subject with
    | .row parts => parts
    | s => [s]
  (classes? parts).filter fun cs => cs.all fun c => t.derives c .baseException

/-- An error belongs to the class of a path. -/
def caughtBy (s : Session) (name : String) (path : List String) : Except SessionFault Bool := do
  let i ← s.error name
  match catching? s.classes (← s.resolve path) with
  | some cs => return cs.any fun c => i.isA s.classes c
  | none => throw .notACase

/-- What is said where no class is asked about. -/
def firstPosition : String := "1 must be a class"

/-- What is said where classes are asked for that are none. -/
def secondPosition : String := "2 must be a class, a tuple of classes, or a union"

/-- A subject derives from one of some subjects. They are tried in order. -/
def derivesFromAny (t : ClassTable) (c : Subject) : List Subject → Except SessionFault Bool
  | [] => .ok false
  | d :: ds =>
    match c, d with
    | .cls c', .cls d' => if t.derives c' d' then .ok true else derivesFromAny t c ds
    | .cls _, _ => .error (.notAClass secondPosition)
    | _, _ => .error (.notAClass firstPosition)

/-- The class of one path derives from that of another, or from one of a row. -/
def isSubclass (s : Session) (path other : List String) : Except SessionFault Bool := do
  let c ← s.resolve path
  let d ← s.resolve other
  derivesFromAny s.classes c (match d with
    | .row parts => parts
    | d => [d])

/-- What sources stand for. All of them are looked up before any is documented. -/
def subjects (s : Session) (sources : List Source) : Except SessionFault (List Subject) :=
  (sources.mapM (Source.resolve s.classes s.scope s.errors)).mapError .source

/-- The components of sources. -/
def collect (s : Session) (sources : List Source) : Except SessionFault Docs.Components := do
  let subjects ← s.subjects sources
  (Subject.collect s.classes subjects).mapError .source

/-- Registers the components of sources in the application. -/
def register (s : Session) (sources : List Source) : Except SessionFault Session := do
  let subjects ← s.subjects sources
  let application ← (Subject.register s.classes s.application subjects).mapError .source
  return { s with application }

/-- The document of the application. -/
def document (s : Session) : Docs.Document × Session :=
  let (d, application) := s.application.document
  (d, { s with application })

/-- Sets or removes variables of the environment. -/
def setVariables (s : Session) (changes : List (String × Option String)) : Session :=
  { s with env := changes.foldl change s.env }
where
  change (env : Environment) : String × Option String → Environment
    | (name, some v) => env.insert name v
    | (name, none) => .ofList (env.entries.filter fun e => e.1 ≠ name)

end Session

end Errata
