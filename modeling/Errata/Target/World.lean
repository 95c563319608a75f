import Errata.Target.Program

/-!
# What can be imported

Modules are made of the files, and of what surrounds these: some modules are loaded from the start, some are looked
for before the files, and some after them. A name is looked for part by part, each in the package before it. A
directory is a package where nothing else is found, and where directories are found both among the files and behind
them, they are one package.
-/

namespace Errata

/-- A module that can be made of something else than the files, or a directory of such modules. -/
inductive Outside where
  | code (isPackage : Bool) (program : Program)
  | directory

/-- What surrounds the files: how their texts are read, the classes and the modules that are there from the start, and
the modules that can be made before the files are looked at and after. -/
structure World where
  read : String → List Char → Except Script.Fault Program
  classes : ClassTable
  loaded : OrderedMap String Module
  early : OrderedMap String Outside
  late : OrderedMap String Outside

/-- Files in a world, and the environment in which their code is run. -/
structure Surroundings where
  world : World
  files : Files
  env : Environment

/-- What is found for the name of a module. -/
inductive Found where
  | file (place : List String) (body : FileBody) (isPackage : Bool)
  | outside (isPackage : Bool) (program : Program)
  | directory (portions : Portions)

/-- Where the parts of what is found are looked for, if it may have any. -/
def Found.package : Found → Option Portions
  | file _ _ isPackage => if isPackage then some ⟨true, false⟩ else none
  | outside isPackage _ => if isPackage then some ⟨false, true⟩ else none
  | directory portions => some portions

/-- Where a name is looked for that stands in no package. -/
def Portions.top : Portions := ⟨true, true⟩

namespace Loader

/-- The part of a dotted name before its last dot, and the part after it. -/
def splitLast (name : String) : String × String :=
  let last := (name.toList.reverse.takeWhile (· ≠ '.')).reverse
  (String.ofList (name.toList.take (name.length - last.length - 1)), String.ofList last)

/-- The names of the packages around a module, outermost first, and its own. -/
def ancestry (name : String) : List String :=
  let cs := name.toList
  ((List.range cs.length).filter fun i => cs[i]? == some '.').map (fun i => String.ofList (cs.take i)) ++
    [name]

/-- The parts of a dotted name. -/
def parts (name : String) : List String := (ancestry name).map fun a => (splitLast a).2

end Loader

/-- Looks for the file of a part of a package that is at a place, or for its directory. -/
def Files.search (f : Files) (place : List String) (part : String) : Option Found :=
  let inside := place ++ [part]
  let init := inside ++ ["__init__.py"]
  let file := place ++ [part ++ ".py"]
  if part.toList.contains '/' then none
  else
    match f.body? init with
    | some body => some (.file init body true)
    | none =>
      match f.body? file with
      | some body => some (.file file body false)
      | none => if f.isDirectory inside then some (.directory ⟨true, false⟩) else none

/-- The module that is made of something outside the files. -/
def Outside.found : Outside → Found
  | code isPackage program => .outside isPackage program
  | directory => .directory ⟨false, true⟩

/-- Of what is found in two portions, a module goes before a directory. Two directories are one package. -/
def Found.either : Option Found → Option Found → Option Found
  | some (.directory p), some (.directory q) => some (.directory ⟨p.files || q.files, p.late || q.late⟩)
  | some (.directory _), some found => some found
  | some found, _ => some found
  | none, found => found

namespace Surroundings

variable (s : Surroundings)

/-- Looks for a module in the portions of the package around it. -/
def search (portions : Portions) (name : String) : Option Found :=
  match s.world.early.get? name with
  | some o => some o.found
  | none =>
    let path := Loader.parts name
    Found.either (if portions.files then s.files.search path.dropLast (path.getLastD "") else none)
      (if portions.late then (s.world.late.get? name).map Outside.found else none)

/-- Looks for a module in the package around it, if that may have any parts. -/
def find (name : String) : Option Portions → Except ImportFault Found
  | none => .error (.notPackage name (Loader.splitLast name).1)
  | some portions =>
    match s.search portions name with
    | some found => .ok found
    | none => .error (.notFound name)

/-- Looks for a module that is not loaded; the package around it is. -/
def locate (l : Loader) (name : String) : Except ImportFault Found :=
  s.find name <|
    if name.toList.contains '.' then (l.modules.get? (Loader.splitLast name).1).bind Module.package
    else some .top

/-- The code that makes a module of what is found. -/
def code (name : String) : Found → Except ImportFault Program
  | .file _ (.definitions ds) _ => .ok (.ofDefinitions name .empty ds)
  | .file place (.source text) _ =>
    (s.world.read name text.toList).mapError (.script (place.getLastD ""))
  | .outside _ program => .ok program
  | .directory _ => .ok .done

end Surroundings

end Errata
