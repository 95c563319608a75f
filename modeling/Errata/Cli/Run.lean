import Errata.Cli.Invocation
import Errata.Cli.Output
import Errata.Console.Table
import Errata.LogLevel
import Errata.Target.Resolve

/-!
# Running the command line

A run prints to the two outputs, may write a file or serve the demo, and ends with an exit code: zero
when all went well, one when a declaration is at fault, two when the command line is.
-/

namespace Errata.Cli

/-- What a run has done. -/
structure Execution where
  exitCode : Nat
  output : String
  errors : String
  level : Nat
  served : Option (String × Int)
  written : Option (List String × String)
  deriving DecidableEq, Repr

/-- How a run ends. -/
inductive Ending where
  | usage (exitCode : Nat)
  | done (e : Execution)
  deriving DecidableEq, Repr

/-- Why a run breaks off. -/
inductive Fault where
  | markup (e : Console.MarkupFault)
  | level (e : LogLevel.Fault)
  | target (e : TargetFault)
  | write (e : WriteFault)
  | indentation
  deriving DecidableEq, Repr

/-- What went wrong, in words. -/
def Fault.message : Fault → String
  | markup e => e.message
  | level e => e.message
  | target e => e.message
  | write e => e.message
  | indentation => "cannot fit 'int' into an index-sized integer"

/-- The exit code of a run that went well. -/
def successCode : Nat := 0

/-- The exit code of a fault in a declaration. -/
def declarationCode : Nat := 1

/-- The exit code of a fault in the command line. -/
def usageCode : Nat := 2

/-- A run that has only printed. -/
def printing (level exitCode : Nat) (output errors : String) : Execution :=
  ⟨exitCode, output, errors, level, none, none⟩

/-- A text that is printed in a style. -/
def styled (style text : String) : String := s!"[{style}]{text}[/{style}]"

/-- Prints a text in a style. -/
def printStyled (style text : String) : Except Fault String :=
  (Console.printed (styled style text)).mapError .markup

/-- Prints what is wrong with the command line. -/
def refuse (level exitCode : Nat) (message : String) : Except Fault Execution := do
  return printing level exitCode "" (← printStyled "red" message)

/-- Prints a table. -/
def printTable (t : Console.Table) : Except Fault String := t.printed.mapError .markup

/-- The table of the diagnostics of a unit. -/
def diagnosticTable (ds : List Diagnostic) : Console.Table where
  title := s!"{ds.length} error(s)"
  head := ["span", "message"]
  rows := ds.map fun d => [d.span, d.message]

/-- The row of a case. -/
def caseRow (t : Taxonomy) (c : ErrorCase) : List String :=
  let payload := if c.naive then "no" else "yes"
  match c.attributes with
  | .request r =>
    [c.name, "request", toString r.status.value, r.code.text, payload,
      (r.hint.map Wording.text).getD ""]
  | .internal =>
    [c.name, "internal", toString Status.internalServerError.value, t.internalCode.text, payload, ""]

/-- The table of the cases of a taxonomy. -/
def caseTable (t : Taxonomy) : Console.Table where
  title := s!"{t.typeName} (internal code: {t.internalCode.shown})"
  head := ["case", "kind", "status", "code", "payload", "hint"]
  rows := t.cases.map (caseRow t)

/-- The JSON of a map. -/
def mapJson (m : OrderedMap String Json) : Json := .obj m.entries

/-- The JSON of components. -/
def componentsJson (c : Docs.Components) : Json :=
  .obj [("schemas", mapJson c.schemas), ("responses", mapJson c.responses)]

/-- The first number that is too large for the length of a text. -/
def maxIndex : Nat := Nat.pow 2 63

/-- A text can be repeated that often. -/
def isIndex (n : Int) : Bool := -maxIndex ≤ n && n < maxIndex

/-- A document as a command prints it. Without a positive indentation, lines are not indented. -/
def document (indent : Int) (j : Json) : Except Fault String :=
  if isIndex indent then .ok (j.indented indent.toNat ++ "\n") else .error .indentation

/-- Lists the cases of a taxonomy. -/
def check (level : Nat) (r : Resolved) : Except Fault Execution := do
  let t := r.compiled.taxonomy
  let table ← printTable (caseTable t)
  let count ← (Console.printed s!"({t.cases.length} cases)").mapError .markup
  return printing level successCode (table ++ count) ""

/-- Prints or writes the components of a taxonomy. -/
def openapi (level : Nat) (files : Files) (indent : Int) (path? : Option String) (r : Resolved) :
    Except Fault Execution := do
  let catalogue := r.compiled.catalogue
  let text ← document indent (componentsJson catalogue.components)
  match path? with
  | none => return printing level successCode text ""
  | some path =>
    let place ← (writable files path).mapError .write
    let message := s!"Wrote {catalogue.names.length} artifact(s) to {Files.shownPath path}"
    let shown ← printStyled "green" message
    return { printing level successCode shown "" with written := some (place, text) }

/-- The message of a name that is not documented. -/
def undocumented (r : Resolved) (name : String) : String :=
  Docs.Catalogue.Missing.message (.undocumented (r.classes.name r.taxonomy) name)

/-- Prints two documented errors as one. -/
def combine (level : Nat) (first second : String) (indent : Int) (r : Resolved) :
    Except Fault Execution :=
  let catalogue := r.compiled.catalogue
  match catalogue.get? first, catalogue.get? second with
  | none, _ => refuse level usageCode (undocumented r first)
  | _, none => refuse level usageCode (undocumented r second)
  | some a, some b =>
    match a.combine b with
    | .error e => refuse level declarationCode e.message
    | .ok c => do
      let text ← document indent (.obj [
        ("responses", mapJson c.responses), ("components", componentsJson c.components)])
      return printing level successCode text ""

/-- Serves the demo. -/
def demo (level : Nat) (host : String) (port : Int) : Except Fault Execution := do
  let shown ← printStyled "green" s!"Starting demo server on {host}:{port} (docs at /docs)"
  return { printing level successCode shown "" with served := some (host, port) }

/-- Resolves a target and goes on with it. What is wrong with the target or with a declaration is
printed. -/
def withTarget (s : Surroundings) (level : Nat) (target : String)
    (use : Resolved → Except Fault Execution) : Attempt Fault Execution :=
  let resolved := s.resolve target
  Attempt.of resolved.records <|
    match resolved.outcome with
    | .ok r => use r
    | .error (.definition (.declaration (.unit (.rejected ds)))) => do
      return printing level declarationCode (← printTable (diagnosticTable ds)) ""
    | .error e => if e.isTold then refuse level usageCode e.message else .error (.target e)

/-- Runs a subcommand. -/
def Action.run (s : Surroundings) (level : Nat) : Action → Attempt Fault Execution
  | .check target => withTarget s level target (Cli.check level)
  | .openapi target indent output =>
    withTarget s level target (Cli.openapi level s.files indent output)
  | .combine target first second indent =>
    withTarget s level target (Cli.combine level first second indent)
  | .demo host port => Attempt.lift (Cli.demo level host port)

/-- The log before it is configured. -/
def bareSink : LogSink := ⟨LogLevel.fallback, []⟩

/-- Configures the log. The environment is read only where no level is given. -/
def configure (env : Environment) (level? : Option String) : Attempt Fault Nat := do
  let name ← match level?.filter (· ≠ "") with
    | some name => pure name
    | none => do
      let settings := Settings.ofEnvironment env
      Attempt.log settings.records
      pure settings.result.logLevel
  let sink ← Attempt.lift ((bareSink.configure name).mapError .level)
  return sink.level

/-- Completion needs a shell, and the one that runs the program is not known. -/
def completion : Execution :=
  printing LogLevel.fallback declarationCode "" "Shell  not supported.\n"

/-- Runs a command line. The log is configured before the words of the subcommand are read. -/
def run (s : Surroundings) (words : List String) : Attempt Fault Ending :=
  match Invocation.read words with
  | .error _ => return .usage usageCode
  | .ok .help => return .usage successCode
  | .ok .completion => return .done completion
  | .ok (.run invocation) => do
    let level ← configure s.env invocation.logLevel
    match invocation.command.read invocation.words with
    | .error _ => return .usage usageCode
    | .ok .help => return .usage successCode
    | .ok .completion => return .done completion
    | .ok (.run action) => return .done (← action.run s level)

end Errata.Cli
