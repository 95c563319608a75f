import Errata.Target.Import

/-!
# Targets

A target names a module or a file, and after the last colon a taxonomy in it. Resolving a target loads
the module, which compiles the taxonomies that it declares.
-/

namespace Errata

/-- A hint is a text that is no expression. -/
def HintFault.isSyntax : HintFault → Bool
  | noExpression _ => true
  | script _ => true
  | _ => false

/-- A definition fails because a hint is a text that is no expression. -/
def SessionFault.isSyntax : SessionFault → Bool
  | declaration (.hint f) => f.isSyntax
  | _ => false

/-- Why a target cannot be resolved. -/
inductive TargetFault where
  | malformed (target : String)
  | fileNotFound (ref : String)
  | moduleNotFound (ref : String)
  | cannotImport (ref : String) (e : ImportFault)
  | noAttribute (ref name : String)
  | notTaxonomy (target : String)
  | relative (ref : String)
  | tooLong (ref : String)
  | raised (type text : String)
  | definition (e : SessionFault)
  deriving DecidableEq, Repr

/-- What went wrong, in words. -/
def TargetFault.message : TargetFault → String
  | malformed target => s!"Expected `module:Class` or `file.py:Class`, got {Text.quoted target}"
  | fileNotFound ref => s!"File not found: {ref}"
  | moduleNotFound ref => s!"Module not found: {ref}"
  | cannotImport ref e => s!"Cannot import {ref}: {e.message}"
  | noAttribute ref name => s!"{ref} has no attribute {Text.quoted name}"
  | notTaxonomy target => s!"{target} is not a JsonErrorEnum subclass"
  | relative ref =>
    s!"the 'package' argument is required to perform a relative import for {Text.quoted ref}"
  | tooLong ref => Files.tooLong ref
  | raised _ text => text
  | definition e => e.message

/-- A fault of the target itself, or of what it names. The others come from the files on the way. -/
def TargetFault.isTold : TargetFault → Bool
  | relative _ => false
  | tooLong _ => false
  | raised _ _ => false
  | definition _ => false
  | _ => true

/-- A taxonomy that a target names, and the classes that were declared on the way to it. -/
structure Resolved where
  classes : ClassTable
  taxonomy : ClassId
  compiled : Compiled

namespace Target

/-- The parts of a target before and after its last colon; neither is empty. -/
def split? (target : String) : Option (String × String) :=
  let cs := target.toList
  if !cs.contains ':' then none
  else
    let last := (cs.reverse.takeWhile (· ≠ ':')).reverse
    let first := cs.take (cs.length - last.length - 1)
    if first.isEmpty || last.isEmpty then none else some (String.ofList first, String.ofList last)

/-- The ending of a reference to a file. -/
def fileEnding : String := ".py"

/-- A reference names a file. -/
def isFileRef (ref : String) : Bool := fileEnding.toList.isSuffixOf ref.toList

/-- A missing module is the one that is asked for, or a package around it. -/
def isAround (missing ref : String) : Bool :=
  missing = ref || (missing.toList ++ ['.']).isPrefixOf ref.toList

/-- How the failure of an import is told. A text that is no expression is at fault as a file is that cannot be
read. -/
def importFault (ref : String) (e : ImportFault) : TargetFault :=
  match e with
  | .definition e => if e.isSyntax then .cannotImport ref (.definition e) else .definition e
  | .raised (.other type text) => .raised type text
  | e =>
    if !isFileRef ref && (e.missing?.map fun m => isAround m ref) == some true then .moduleNotFound ref
    else .cannotImport ref e

/-- The name of a file without its ending, unless it is nothing else. -/
def stem (path : String) : String :=
  let name := (Files.steps path).getLastD ""
  if name = fileEnding then name else String.ofList (name.toList.take (name.length - fileEnding.length))

/-- The name under which a file is run by itself. -/
def fileModule (path : String) : String := "_json_resp_target_" ++ stem path

/-- The taxonomy that a module binds to a name. -/
def taxonomy (target ref name : String) (l : Loader) (m : Module) : Except TargetFault Resolved :=
  match m.bindings.get? name with
  | some (.subject (.value .null)) => .error (.noAttribute ref name)
  | some (.subject (.cls c)) =>
    match if l.classes.isTaxonomyClass c && c ≠ .root then l.classes.compiled? c else none with
    | some compiled => .ok ⟨l.classes, c, compiled⟩
    | none => .error (.notTaxonomy target)
  | some _ => .error (.notTaxonomy target)
  | none =>
    .error (if m.isOpen || m.attributes.contains name then .notTaxonomy target else .noAttribute ref name)

end Target

namespace Surroundings

open Target

variable (s : Surroundings)

/-- Loads the module of a reference. -/
def loadModule (ref : String) : Attempt TargetFault (Loader × Module) :=
  if isFileRef ref then
    if s.files.isTooLong ref then Attempt.lift (.error (.tooLong ref))
    else
      match s.files.find? ref with
      | none => Attempt.lift (.error (.fileNotFound ref))
      | some (place, body) => (s.runFile (fileModule ref) place body).mapError (importFault ref)
  else if ref.toList.head? == some '.' then Attempt.lift (.error (.relative ref))
  else (s.importModule ref).mapError (importFault ref)

/-- Resolves a target. -/
def resolve (target : String) : Attempt TargetFault Resolved :=
  match split? target with
  | none => Attempt.lift (.error (.malformed target))
  | some (ref, name) => do
    let (l, m) ← s.loadModule ref
    Attempt.lift (taxonomy target ref name l m)

end Surroundings

end Errata
