import Errata.Text.Integer

/-!
# Options of a command line

Reads the words of a command line. An option has a short name of one letter or a long name; its value is
the next word, or follows a long name after an equals sign, or follows a short name at once. After two
dashes every word is an argument. Where options and arguments are not mixed, the first argument ends
the options.
-/

namespace Errata.Cli

/-- An option: its names, and whether it takes a value. -/
structure OptionSpec where
  key : String
  names : List String
  takesValue : Bool

/-- The words of a command line, sorted. -/
structure Parsed where
  options : List (String × String)
  flags : List String
  arguments : List String
  deriving DecidableEq, Repr

/-- A command line cannot be used: an unknown option, a missing or superfluous word, or a value of the
wrong kind. -/
inductive UsageFault where
  | unknownOption (name : String)
  | missingValue (name : String)
  | superfluousValue (name : String)
  | missingArgument
  | superfluousArgument (word : String)
  | notInteger (word : String)
  | unknownCommand (name : String)
  | missingCommand
  deriving DecidableEq, Repr

namespace Parsed

/-- No word. -/
def empty : Parsed := ⟨[], [], []⟩

/-- The last value of an option. -/
def value? (p : Parsed) (key : String) : Option String :=
  p.options.reverse.lookup key

end Parsed

namespace OptionSpec

/-- The option of a name. -/
def find? (specs : List OptionSpec) (name : String) : Option OptionSpec :=
  specs.find? fun s => s.names.contains name

end OptionSpec

/-- A name that consists of a dash and one letter. -/
def isShortName (name : List Char) : Bool := name.length = 2

/-- Reads the letters of a word of short options. Gives the option that still lacks its value, if the
word ends with it. -/
def readShort (specs : List OptionSpec) (p : Parsed) :
    List Char → Except UsageFault (Parsed × Option OptionSpec)
  | [] => .ok (p, none)
  | c :: cs =>
    match OptionSpec.find? specs (String.ofList ['-', c]) with
    | none => .error (.unknownOption (String.ofList ['-', c]))
    | some s =>
      if s.takesValue then
        if cs.isEmpty then .ok (p, some s)
        else .ok ({ p with options := p.options ++ [(s.key, String.ofList cs)] }, none)
      else readShort specs { p with flags := p.flags ++ [s.key] } cs

/-- Reads a word that begins with a dash. Gives the option that still lacks its value, if any. -/
def readOption (specs : List OptionSpec) (p : Parsed) (word : List Char) :
    Except UsageFault (Parsed × Option OptionSpec) :=
  let name := word.takeWhile (· ≠ '=')
  let value? := match word.drop name.length with
    | '=' :: cs => some (String.ofList cs)
    | _ => none
  let long := if isShortName name then none else OptionSpec.find? specs (String.ofList name)
  match long with
  | some s =>
    match value? with
    | some v =>
      if s.takesValue then .ok ({ p with options := p.options ++ [(s.key, v)] }, none)
      else .error (.superfluousValue (String.ofList name))
    | none =>
      if s.takesValue then .ok (p, some s)
      else .ok ({ p with flags := p.flags ++ [s.key] }, none)
  | none =>
    if ['-', '-'].isPrefixOf word then .error (.unknownOption (String.ofList name))
    else readShort specs p word.tail

/-- Sorts the words of a command line. With `mixed`, options may follow arguments. `open?` is the option
that the next word is the value of. -/
def parse (specs : List OptionSpec) (mixed : Bool) (p : Parsed) (open? : Option OptionSpec) :
    List String → Except UsageFault Parsed
  | [] =>
    match open? with
    | some s => .error (.missingValue s.key)
    | none => .ok p
  | word :: rest =>
    match open? with
    | some s => parse specs mixed { p with options := p.options ++ [(s.key, word)] } none rest
    | none =>
      if word = "--" then .ok { p with arguments := p.arguments ++ rest }
      else if word.toList.head? == some '-' && word ≠ "-" then
        match readOption specs p word.toList with
        | .ok (p, open?) => parse specs mixed p open? rest
        | .error e => .error e
      else if mixed then parse specs mixed { p with arguments := p.arguments ++ [word] } none rest
      else .ok { p with arguments := p.arguments ++ word :: rest }

/-- The whole number of an option, or its default. -/
def Parsed.integer (p : Parsed) (key : String) (default : Int) : Except UsageFault Int :=
  match p.value? key with
  | none => .ok default
  | some word => (Text.integer word).mapError fun _ => .notInteger word

end Errata.Cli
