import Errata.Value.Inspect

/-!
# Diagnostics

A fault of a declaration is recorded together with the place it is about, so that one run reports
every fault of a unit. The context that collects them is checked once: the check consumes it and fails
when anything was recorded. After the check nothing more can be recorded and nothing is left to see.
Whatever is validated before the check goes through the one context, step by step. A step that has to name a
value fails at once where the value cannot be shown.
-/

namespace Errata

/-- The name under which all internal cases are documented together. -/
def internalErrorName : String := "InternalError"

/-- What is wrong with a declaration. -/
inductive Problem where
  | badDisposition
  | onlyAssignments
  | unknownAttribute
  | badStatus
  | badCode
  | badHint
  | badDescription
  | bothRequired
  | missingAttribute
  | nameClash
  | reservedName
  | unresolvedName (name : String)
  | other (message : String)
  deriving DecidableEq, Repr

/-- A problem in words. -/
def Problem.message : Problem → String
  | badDisposition => "The first attribute is required and should be either `request` or `internal`"
  | onlyAssignments => "Only assignments are allowed to be used in error attributes."
  | unknownAttribute => "Unknown attribute defined"
  | badStatus => "status should be either a number or a status constant (HTTPStatus.NOT_FOUND)"
  | badCode => "code should be a non-empty str"
  | badHint => "hint should be a str"
  | badDescription => "description should be a str"
  | bothRequired => "Both `status` and `code` should be defined."
  | missingAttribute => "All variants should have a `json_error` attribute"
  | nameClash => "case name clashes with an attribute of the error taxonomy or of its documentation"
  | reservedName => s!"`{internalErrorName}` is reserved for the shared internal error documentation"
  | unresolvedName name => s!"cannot resolve case annotations: name '{name}' is not defined"
  | other message => message

/-- A problem and the place it is about. -/
structure Diagnostic where
  span : String
  problem : Problem
  deriving DecidableEq, Repr

namespace Diagnostic

/-- The problem in words. -/
def message (d : Diagnostic) : String := d.problem.message

/-- A diagnostic on one line. -/
def line (d : Diagnostic) : String := s!"{d.span}: {d.message}"

/-- The report of all diagnostics of a unit. -/
def report (ds : List Diagnostic) : String :=
  s!"{ds.length} error(s) in json_error declarations:\n" ++
    "\n".intercalate (ds.map fun d => "  " ++ d.line)

end Diagnostic

/-- The diagnostics recorded so far, until they are checked. -/
inductive Context where
  | recording (ds : List Diagnostic)
  | checked
  deriving DecidableEq, Repr

namespace Context

/-- Why a context refuses, or a step of validation does before the context is asked. -/
inductive Fault where
  | rejected (ds : List Diagnostic)
  | consumed
  | unshown (f : InspectFault)
  deriving DecidableEq, Repr

/-- What went wrong, in words. -/
def Fault.message : Fault → String
  | rejected ds => Diagnostic.report ds
  | consumed => "diagnostic context has already been checked"
  | unshown f => f.message

/-- The type of the fault. -/
def Fault.type : Fault → String
  | rejected _ => "CompileError"
  | consumed => "RuntimeError"
  | unshown f => f.type

/-- A context without diagnostics. -/
def fresh : Context := recording []

/-- Adds a diagnostic. -/
def record (d : Diagnostic) : Context → Except Fault Context
  | recording ds => .ok (recording (ds ++ [d]))
  | checked => .error .consumed

/-- The diagnostics that can be seen. -/
def diagnostics : Context → List Diagnostic
  | recording ds => ds
  | checked => []

/-- Some diagnostic can be seen. -/
def hasErrors (c : Context) : Bool := !c.diagnostics.isEmpty

/-- Consumes the context and says whether it was clean. -/
def check : Context → Except Fault Unit × Context
  | recording [] => (.ok (), checked)
  | recording ds => (.error (.rejected ds), checked)
  | checked => (.error .consumed, checked)

end Context

/-- A step of validation. It records in the context that it is given, and hands it on. -/
abbrev Validation := StateT Context (Except Context.Fault)

namespace Validation

/-- Records what is wrong at a place. -/
def report (span : String) (p : Problem) : Validation Unit := fun c =>
  (c.record ⟨span, p⟩).map fun c => ((), c)

/-- The text of a value that has to be shown. -/
def shown (v : Value) : Validation String := fun c =>
  (v.inspect?.mapError Context.Fault.unshown).map fun text => (text, c)

/-- Hands on what could be read, and reports it when nothing could. -/
def require (span : String) (p : Problem) (read : Option α) : Validation (Option α) := do
  if read.isNone then report span p
  return read

/-- The result of a step in a context of its own, and what is recorded there. -/
def alone (v : Validation α) : Except Context.Fault (α × List Diagnostic) :=
  (v.run Context.fresh).map fun (a, c) => (a, c.diagnostics)

end Validation

end Errata
