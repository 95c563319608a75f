import Errata.Class.Basic
import Errata.Value.Inspect

/-!
# Errors

An error is made of a class and the arguments it was given. Only a class with a case can be
instantiated, with no argument when the case is naive and with its payload otherwise. The error is
converted by the table of the unit that its class answers with.
-/

namespace Errata

/-- An error that was made. -/
structure Instance where
  cls : ClassId
  args : List Value

namespace Instance

/-- Why a class makes no error of some arguments. -/
inductive Fault where
  | notACase (name : String)
  | noPayload (name : String)
  | onePayload (name : String)
  deriving DecidableEq, Repr

/-- What went wrong, in words. -/
def Fault.message : Fault → String
  | notACase name => s!"{name} is an error taxonomy; raise one of its cases instead"
  | noPayload name => s!"{name} carries no payload"
  | onePayload name => s!"{name} takes exactly one payload value"

/-- Makes an error. -/
def construct (t : ClassTable) (c : ClassId) (args : List Value) : Except Fault Instance :=
  match t.case? c with
  | none => .error (.notACase (t.qualifiedName c))
  | some e =>
    if e.naive && !args.isEmpty then .error (.noPayload (t.qualifiedName c))
    else if !e.naive && args.length != 1 then .error (.onePayload (t.qualifiedName c))
    else .ok ⟨c, args⟩

/-- What the error carries. -/
def content (i : Instance) : Value := i.args.head?.getD .null

/-- The name of the case it is reported as. -/
def caseName (i : Instance) (t : ClassTable) : String := ((t.case? i.cls).map ErrorCase.name).getD ""

/-- The part of a name behind its last dot. -/
def lastPart (name : String) : String :=
  String.ofList (name.toList.reverse.takeWhile (· ≠ '.')).reverse

/-- The error as it would be written. -/
def inspect (i : Instance) (t : ClassTable) : String :=
  bracketed (lastPart (t.name i.cls) ++ "(") ")" (Value.inspectAll i.args)

/-- The response table of the unit that its class answers with. -/
def table (i : Instance) (t : ClassTable) : ResponseTable :=
  ((t.compiled? i.cls).map Compiled.table).getD ⟨"", []⟩

/-- The error in prose: its unit, its case, and what it carries, as that stands inside a text. -/
def print (i : Instance) (t : ClassTable) : Except InspectFault String :=
  let text := s!"{(i.table t).typeName}::{i.caseName t}"
  if ((t.case? i.cls).map ErrorCase.naive).getD true then .ok text
  else i.content.format?.map fun carried => s!"{text} {carried}"

/-- What is said about the error. -/
def convert (i : Instance) (t : ClassTable) : Attempt ResponseTable.NoRule ErrorBody :=
  (i.table t).convert (i.caseName t) i.content

/-- The reply to the error. -/
def respond (i : Instance) (t : ClassTable) : Attempt ResponseTable.Fault Reply :=
  (i.table t).respond (i.caseName t) i.content

/-- The reply to the error where it is raised while a request is handled. -/
def handle (i : Instance) (t : ClassTable) : Attempt ResponseTable.Fault Reply := do
  let reply ← i.respond t
  Attempt.log [.plain .handling s!"{t.qualifiedName i.cls} converted to a {reply.status} response"]
  return reply

/-- The error belongs to a class. -/
def isA (i : Instance) (t : ClassTable) (c : ClassId) : Bool := t.derives i.cls c

end Instance

end Errata
