import Errata.Cli.Run
import Errata.Target.Standard

/-!
# The program

Runs the command line on the installed package.
-/

open Errata

/-- The variables of the environment that the program reads. -/
def environmentVariables : List String := [
  Settings.logInternalVariable, Settings.suppressRedundantVariable, Settings.logLevelVariable]

/-- Reads the environment. -/
def readEnvironment : IO Environment :=
  environmentVariables.foldlM (fun env name => do
    match ← IO.getEnv name with
    | some v => return env.insert name v
    | none => return env) .empty

/-- Runs the command line, prints what it prints, and ends with its exit code. -/
def main (args : List String) : IO UInt32 := do
  let outcome := (Cli.run ⟨.standard, .ofList [], ← readEnvironment⟩ args).outcome
  match outcome with
  | .ok (.usage code) =>
    IO.println "json-resp: check error taxonomies and export their OpenAPI documentation"
    return code.toUInt32
  | .ok (.done e) =>
    IO.print e.output
    IO.eprint e.errors
    if let some (place, text) := e.written then
      IO.FS.writeFile ("/".intercalate place) text
    return e.exitCode.toUInt32
  | .error e =>
    IO.eprintln e.message
    return Cli.declarationCode.toUInt32
