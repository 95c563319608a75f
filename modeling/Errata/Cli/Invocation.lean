import Errata.Cli.Options

/-!
# Invocations

What a command line asks for. A word that cannot be used ends the program with a message, a request for
help with the help text.
-/

namespace Errata.Cli

/-- What a subcommand is to do. -/
inductive Action where
  | check (target : String)
  | openapi (target : String) (indent : Int) (output : Option String)
  | combine (target first second : String) (indent : Int)
  | demo (host : String) (port : Int)
  deriving DecidableEq, Repr

/-- What a part of a command line asks for. -/
inductive Request (α : Type) where
  | help
  | completion
  | run (a : α)
  deriving DecidableEq, Repr

/-- A subcommand: its options, whether it has enough arguments, and what it does. -/
structure Subcommand where
  name : String
  specs : List OptionSpec
  action : Parsed → Except UsageFault Action

/-- The flag that asks for help. -/
def helpKey : String := "help"

/-- The option that asks for help. -/
def helpSpec : OptionSpec := ⟨helpKey, ["--help", "-h"], false⟩

/-- The flag that asks for the completion of command lines. -/
def completionKey : String := "completion"

/-- The options that ask for the completion of command lines. -/
def completionSpec : OptionSpec := ⟨completionKey, ["--install-completion", "--show-completion"], false⟩

/-- The option for the level of the log. -/
def logLevelSpec : OptionSpec := ⟨"log-level", ["--log-level"], true⟩

/-- The option for the indentation of the output. -/
def indentSpec : OptionSpec := ⟨"indent", ["--indent"], true⟩

/-- The option for the file that is written. -/
def outputSpec : OptionSpec := ⟨"output", ["--output", "-o"], true⟩

/-- The option for the host that is served. -/
def hostSpec : OptionSpec := ⟨"host", ["--host"], true⟩

/-- The option for the port that is served. -/
def portSpec : OptionSpec := ⟨"port", ["--port"], true⟩

/-- The indentation where none is given. -/
def defaultIndent : Int := 2

/-- The host where none is given. -/
def defaultHost : String := "127.0.0.1"

/-- The port where none is given. -/
def defaultPort : Int := 8000

/-- Exactly one argument. -/
def one (p : Parsed) : Except UsageFault String :=
  match p.arguments with
  | [a] => .ok a
  | _ :: b :: _ => .error (.superfluousArgument b)
  | [] => .error .missingArgument

/-- Exactly three arguments. -/
def three (p : Parsed) : Except UsageFault (String × String × String) :=
  match p.arguments with
  | [a, b, c] => .ok (a, b, c)
  | _ :: _ :: _ :: d :: _ => .error (.superfluousArgument d)
  | _ => .error .missingArgument

/-- No argument. -/
def zero (p : Parsed) : Except UsageFault Unit :=
  match p.arguments with
  | [] => .ok ()
  | a :: _ => .error (.superfluousArgument a)

/-- The subcommands. -/
def subcommands : List Subcommand := [
  ⟨"check", [helpSpec], fun p => do return .check (← one p)⟩,
  ⟨"openapi", [indentSpec, outputSpec, helpSpec], fun p => do
    let indent ← p.integer indentSpec.key defaultIndent
    return .openapi (← one p) indent (p.value? outputSpec.key)⟩,
  ⟨"combine", [indentSpec, helpSpec], fun p => do
    let indent ← p.integer indentSpec.key defaultIndent
    let (target, first, second) ← three p
    return .combine target first second indent⟩,
  ⟨"demo", [hostSpec, portSpec, helpSpec], fun p => do
    let port ← p.integer portSpec.key defaultPort
    zero p
    return .demo ((p.value? hostSpec.key).getD defaultHost) port⟩]

/-- What the words of a subcommand ask for. -/
def Subcommand.read (c : Subcommand) (words : List String) : Except UsageFault (Request Action) := do
  let p ← parse c.specs true .empty none words
  if p.flags.contains helpKey then return .help
  return .run (← c.action p)

/-- What the words before a subcommand ask for: a level of the log, and a subcommand with its words. -/
structure Invocation where
  logLevel : Option String
  command : Subcommand
  words : List String

/-- Sorts the words before a subcommand. -/
def readGroup (words : List String) : Except UsageFault Parsed :=
  parse [logLevelSpec, completionSpec, helpSpec] false .empty none words

/-- A word that has the look of an option where a subcommand is due asks for help as an option would. -/
def asksForHelp (words : List String) : Bool :=
  match readGroup words with
  | .ok p => p.flags.contains helpKey
  | .error _ => false

/-- What a command line asks for. -/
def Invocation.read (words : List String) : Except UsageFault (Request Invocation) := do
  let p ← readGroup words
  if p.flags.contains helpKey then return .help
  if p.flags.contains completionKey then return .completion
  match p.arguments with
  | [] => .error .missingCommand
  | name :: rest =>
    match subcommands.find? fun c => c.name = name with
    | some command => return .run ⟨p.value? logLevelSpec.key, command, rest⟩
    | none => if asksForHelp p.arguments then return .help else .error (.unknownCommand name)

end Errata.Cli
