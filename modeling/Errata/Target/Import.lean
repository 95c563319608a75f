import Errata.Target.World

/-!
# Imports

A module is loaded once. The packages around it are loaded before it, and while its code runs it counts as loaded, so
that modules may import each other. Where its code fails it does not count any longer, while the modules that it has
loaded do. A module that is loaded is bound in the package around it.
-/

namespace Errata

/-- What a run leaves: what it has told the log, what is loaded then, and the fault that has ended it, if one has. -/
structure Run where
  records : List Log.Record
  loader : Loader
  fault? : Option ImportFault

namespace Run

/-- Nothing has happened. -/
def done (l : Loader) : Run := ⟨[], l, none⟩

/-- A fault at once. -/
def fail (l : Loader) (e : ImportFault) : Run := ⟨[], l, some e⟩

/-- A run after which something else is run, if no fault has ended it. -/
def andThen (r : Run) (next : Loader → Run) : Run :=
  match r.fault? with
  | some _ => r
  | none => let r' := next r.loader; { r' with records := r.records ++ r'.records }

/-- A run after which something else is run, which depends on the fault that has ended it, if one has. -/
def orElse (r : Run) (caught : ImportFault → Loader → Run) (next : Loader → Run) : Run :=
  match r.fault? with
  | none => r.andThen next
  | some e => let r' := caught e r.loader; { r' with records := r.records ++ r'.records }

/-- A run as an attempt, which a fault makes fail. -/
def attempt (r : Run) : Attempt ImportFault Loader :=
  .of r.records (match r.fault? with
    | none => .ok r.loader
    | some e => .error e)

end Run

namespace Module

/-- The attributes that every module has, whatever it holds. -/
def commonAttributes : List String := [
  "__annotations__", "__class__", "__delattr__", "__dict__", "__dir__", "__eq__", "__format__",
  "__ge__", "__getattribute__", "__getstate__", "__gt__", "__hash__", "__init__",
  "__init_subclass__", "__le__", "__loader__", "__lt__", "__name__", "__ne__", "__new__",
  "__package__", "__reduce__", "__reduce_ex__", "__repr__", "__setattr__", "__sizeof__", "__spec__",
  "__str__", "__subclasshook__"]

/-- The attributes of a module that was made of a file. -/
def fileAttributes : List String := ["__builtins__", "__cached__", "__file__"]

/-- The attribute of a package. -/
def packageAttributes : List String := ["__path__"]

/-- A module without bindings. -/
def blank (package : Option Portions) (ofFile : Bool) : Module where
  package
  bindings := .empty
  attributes := commonAttributes ++ (if ofFile then fileAttributes else []) ++
    if package.isSome then packageAttributes else []
  isOpen := false

/-- A module as it is before its code runs. -/
def ofFound : Found → Module
  | .directory portions => blank (some portions) false
  | found => blank found.package true

/-- Binds a name. -/
def bind (m : Module) (name : String) (b : Binding) : Module :=
  { m with bindings := m.bindings.insert name b }

/-- Binds a name no longer. -/
def unbind (m : Module) (name : String) : Module := { m with bindings := m.bindings.erase name }

/-- A module with attributes that are not known. -/
def unclose (m : Module) : Module := { m with isOpen := true }

end Module

namespace Loader

/-- A module is loaded. -/
def has (l : Loader) (name : String) : Bool := l.modules.contains name

/-- Changes a loaded module. -/
def modify (l : Loader) (name : String) (f : Module → Module) : Loader :=
  match l.modules.get? name with
  | some m => { l with modules := l.modules.insert name (f m) }
  | none => l

/-- Makes a change. -/
def apply (l : Loader) : Change → Loader
  | .bind module name b => l.modify module (·.bind name b)
  | .unbind module name => l.modify module (·.unbind name)
  | .unclose module => l.modify module Module.unclose
  | .bindInClass c name b => { l with bodies := ((c, name), b) :: l.bodies }

/-- Binds a loaded module in the package around it. -/
def bindInParent (l : Loader) (name : String) : Loader :=
  let (parent, part) := splitLast name
  if name.toList.contains '.' then l.apply (.bind parent part (.module name)) else l

/-- A module counts as loaded. -/
def enter (l : Loader) (name : String) (m : Module) : Loader := { l with modules := l.modules.insert name m }

/-- A module counts as loaded no longer. -/
def leave (l : Loader) (name : String) : Loader := { l with modules := l.modules.erase name }

/-- Makes a module, unless it is loaded. -/
def ensure (make : Loader → String → Run) (name : String) (l : Loader) : Run :=
  if l.has name then .done l else make l name

/-- Loads a module after the packages around it, innermost first in the list. Where a module is loaded already, the
packages around it are left as they are. -/
def loadBy (make : Loader → String → Run) (l : Loader) : List String → Run
  | [] => .done l
  | name :: around => if l.has name then .done l else (loadBy make l around).andThen (ensure make name)

end Loader

/-- Runs a program, with modules loaded as `load` does, while some faults are being handled, the innermost first. -/
def Program.run (env : Environment) (load : Loader → String → Run) : Program → List ImportFault → Loader → Run
  | .done, _, l => .done l
  | .look next, es, l => (next l).run env load es l
  | .log record next, es, l => Run.andThen ⟨[record], l, none⟩ (next.run env load es)
  | .change c next, es, l => next.run env load es (l.apply c)
  | .load name caught next, es, l =>
    (load l name).orElse (fun e l => (caught e).run env load (e :: es) l) (next.run env load es)
  | .declare statement scope caught next, es, l =>
    let made := Session.declare { Session.start env with classes := l.classes, scope } statement
    match made.outcome with
    | .ok (session, subject) =>
      Run.andThen ⟨made.records, { l with classes := session.classes }, none⟩
        ((next session.scope subject).run env load es)
    | .error e =>
      Run.andThen ⟨made.records, l, none⟩ ((caught (.definition e)).run env load (.definition e :: es))
  | .raise r caught, es, l => caught.run env load (.raised r :: es) l
  | .settle next, es, l => next.run env load es.tail l
  | .fail, es, l =>
    match es with
    | [] => .done l
    | e :: _ => .fail l e

namespace Surroundings

variable (s : Surroundings)

/-- Runs the code of a module that counts as loaded. -/
def runCode (load : Loader → String → Run) (l : Loader) (name : String) (found : Found) : Run :=
  match s.code name found with
  | .ok program => program.run s.env load [] l
  | .error e => .fail l e

/-- Makes a module, with fuel for every module that is made on the way. The package around it is loaded. -/
def make : Nat → Loader → String → Run
  | 0, l, name => .fail l (.notFound name)
  | fuel + 1, l, name =>
    match s.locate l name with
    | .error e => .fail l e
    | .ok found =>
      let load l name := Loader.loadBy (make fuel) l (Loader.ancestry name).reverse
      let r := s.runCode load (l.enter name (.ofFound found)) name found
      { r with loader := if r.fault?.isSome then r.loader.leave name else r.loader.bindInParent name }

/-- Fuel for all modules that can be made. -/
def fuel : Nat := s.files.weight + s.world.early.size + s.world.late.size + 1

/-- Loads a module and the packages around it. -/
def load (l : Loader) (name : String) : Run := Loader.loadBy (s.make s.fuel) l (Loader.ancestry name).reverse

/-- What is loaded from the start. -/
def start : Loader := ⟨s.world.classes, [], s.world.loaded⟩

/-- A module that is loaded. -/
def loadedModule (l : Loader) (name : String) : Module := (l.modules.get? name).getD default

/-- Imports a module by its name. -/
def importModule (name : String) : Attempt ImportFault (Loader × Module) := do
  let l ← (s.load s.start name).attempt
  return (l, loadedModule l name)

/-- Runs a file by itself under a name, whether its module is loaded or not. -/
def runFile (name : String) (place : List String) (body : FileBody) : Attempt ImportFault (Loader × Module) := do
  let l ← (s.runCode s.load (s.start.enter name (.blank none true)) name (.file place body false)).attempt
  return (l, loadedModule l name)

end Surroundings

end Errata
