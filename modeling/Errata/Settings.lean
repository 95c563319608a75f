import Errata.Log
import Errata.OrderedMap
import Errata.Text.Blank
import Errata.Text.Lower
import Errata.Text.Quoted
import Errata.Text.Upper
import Errata.Value.Inspect

/-!
# Settings

What the environment decides, and what the annotation of a unit decides. Neither ever fails: whatever
cannot be read is reported and the default holds.
-/

namespace Errata

/-- The variables of the environment. -/
abbrev Environment := OrderedMap String String

/-- What the environment decides. -/
structure Settings where
  logInternalErrors : Bool
  suppressRedundant : Bool
  logLevel : String
  deriving DecidableEq, Repr

namespace Settings

/-- The level where none is given. -/
def defaultLevel : String := "WARNING"

/-- The settings of an empty environment. -/
def default : Settings := ⟨true, true, defaultLevel⟩

instance : Inhabited Settings := ⟨default⟩

/-- The words for yes. -/
def truthy : List String := ["1", "true", "yes", "on"]

/-- The words for no. -/
def falsy : List String := ["0", "false", "no", "off"]

/-- The flag that a text writes; blanks around it and the case of its letters do not matter. -/
def flag? (raw : String) : Option Bool :=
  let word := String.ofList (Text.lower (Text.trimBy Text.isBlank raw.toList))
  if truthy.contains word then some true
  else if falsy.contains word then some false
  else none

/-- The value of a flag in the environment. -/
def readFlag (env : Environment) (name : String) (default : Bool) : Logged Bool :=
  match env.get? name with
  | none => .quiet default
  | some raw =>
    match flag? raw with
    | some b => .quiet b
    | none =>
      ⟨[.plain .configuration
        s!"Ignoring {name}={Text.quoted raw}: expected one of 1/0, true/false, yes/no, on/off"],
        default⟩

/-- The variable that switches the log of internal errors. -/
def logInternalVariable : String := "JSON_RESP_LOG_INTERNAL_ERRORS"

/-- The variable that switches the suppression of redundant diagnostics. -/
def suppressRedundantVariable : String := "JSON_RESP_SUPPRESS_REDUNDANT_DIAGNOSTICS"

/-- The variable that names the log level. -/
def logLevelVariable : String := "JSON_RESP_LOG_LEVEL"

/-- Reads the settings from the environment. -/
def ofEnvironment (env : Environment) : Logged Settings := do
  let log ← readFlag env logInternalVariable true
  let suppress ← readFlag env suppressRedundantVariable true
  return ⟨log, suppress, Text.upper ((env.get? logLevelVariable).getD defaultLevel)⟩

end Settings

/-- The code of internal errors where a unit gives none. -/
def defaultInternalCode : Wording := .literal "internal-error"

/-- The keyword of the only setting of a unit. -/
def internalCodeKeyword : String := "internal_code"

namespace Annotation

/-- The record of a unit annotation that was not accepted. -/
def configurationWarning (unitName complaint : String) (shown? : Except InspectFault String) : Log.Record :=
  ⟨.configuration, shown?.map fun shown =>
    s!"{unitName}: {complaint}, got {shown}; using {Text.quoted defaultInternalCode.text}"⟩

/-- The code that a unit annotation gives to internal errors. -/
def internalCode (unitName : String) (a : Annotation) : Logged Wording :=
  if a.isEmpty then .quiet defaultInternalCode
  else
    match a.args, a.keywords.entries with
    | [], [(key, v)] =>
      if key = internalCodeKeyword then
        match v.wording? with
        | some w =>
          if w.text = "" then ⟨[complaint v], defaultInternalCode⟩ else .quiet w
        | none => ⟨[complaint v], defaultInternalCode⟩
      else ⟨[shape], defaultInternalCode⟩
    | _, _ => ⟨[shape], defaultInternalCode⟩
where
  complaint (v : Value) : Log.Record :=
    configurationWarning unitName "internal_code should be a non-empty str" v.inspect?
  shape : Log.Record :=
    configurationWarning unitName
      "unit configuration should be exactly `internal_code=\"...\"`" a.toValue.inspect?

end Annotation

end Errata
