import Errata.Session
import Errata.Target.Files

/-!
# What the code of a module does

Whatever the code of a module is written in, what an import can tell of it is little: it imports other modules, it
declares classes, it binds names, it logs, and it may raise a fault of its own. A program is a tree of such steps, and
how it goes on may depend on everything that is loaded by then.
-/

namespace Errata

/-- The things that a hint or an annotation is written with. -/
inductive Form where
  | annotated
  | classVariable
  | choice
  | mark
  | statuses
  deriving DecidableEq, Repr

/-- A fault that the code of a module raises itself: one of an import, which may say what is missing, one of a text
that cannot be read, or another, with its type. -/
inductive Raised where
  | importError (text : String) (missing? : Option String)
  | syntaxError (text : String)
  | other (type text : String)
  deriving DecidableEq, Repr

/-- What is said of it. -/
def Raised.text : Raised → String
  | importError text _ => text
  | syntaxError text => text
  | other _ text => text

/-- The type of it. -/
def Raised.type : Raised → String
  | importError _ missing? => if missing?.isSome then "ModuleNotFoundError" else "ImportError"
  | syntaxError _ => "SyntaxError"
  | other type _ => type

/-- The missing module that it is about. -/
def Raised.missing? : Raised → Option String
  | importError _ missing? => missing?
  | _ => none

/-- What a name of a module stands for. Of a function it is known what it gives, where that depends on nothing, and of
a method which error it belongs to. What is foreign has a name elsewhere, and no declaration gives it a meaning of its
own. Of what is unknown, nothing is known but that it is no taxonomy. -/
inductive Binding where
  | subject (s : Subject)
  | row (type : String) (parts : List Binding)
  | module (name : String)
  | form (f : Form)
  | hint (h : Hint)
  | generic (type : String)
  | function (result? : Option Value)
  | method (owner : Instance) (name : String)
  | fault (r : Raised)
  | foreign (name : String)
  | unknown

instance : Inhabited Binding := ⟨.unknown⟩

/-- Where the parts of a package are looked for: in the directory of its name among the files, and among what comes
after the files. -/
structure Portions where
  files : Bool
  late : Bool
  deriving DecidableEq, Repr

/-- A module. A package has portions in which its parts are looked for. A module has attributes beside what it binds,
and it may have others that are not known. -/
structure Module where
  package : Option Portions
  bindings : OrderedMap String Binding
  attributes : List String
  isOpen : Bool

instance : Inhabited Module := ⟨⟨none, .empty, [], false⟩⟩

/-- Why a module cannot be loaded. -/
inductive ImportFault where
  | notFound (name : String)
  | notPackage (name parent : String)
  | script (file : String) (f : Script.Fault)
  | raised (r : Raised)
  | definition (e : SessionFault)
  deriving DecidableEq, Repr

/-- What went wrong, in words. -/
def ImportFault.message : ImportFault → String
  | notFound name => s!"No module named {Text.quoted name}"
  | notPackage name parent => s!"No module named {Text.quoted name}; {Text.quoted parent} is not a package"
  | script file f => f.message file
  | raised r => r.text
  | definition e => e.message

/-- The type of the fault. -/
def ImportFault.type : ImportFault → String
  | notFound _ => "ModuleNotFoundError"
  | notPackage _ _ => "ModuleNotFoundError"
  | script _ f => f.type
  | raised r => r.type
  | definition e => e.type

/-- The missing module that a fault is about. -/
def ImportFault.missing? : ImportFault → Option String
  | notFound name => some name
  | notPackage name _ => some name
  | raised r => r.missing?
  | _ => none

/-- What is loaded: the classes that have been made, what the body of a class binds beside its cases, and the modules
by their whole names. -/
structure Loader where
  classes : ClassTable
  bodies : List ((ClassId × String) × Binding)
  modules : OrderedMap String Module

/-- A change of what is loaded. A name is bound in a module or in a class, or it is bound no longer, or a module gets
attributes that are not known. -/
inductive Change where
  | bind (module name : String) (b : Binding)
  | unbind (module name : String)
  | unclose (module : String)
  | bindInClass (c : ClassId) (name : String) (b : Binding)

/-- A program. A class statement is run with the classes that its bases can be named by, and gives these with the new
class among them. A fault that is met is handled by a program of its own, until that settles it, or fails with it. -/
inductive Program where
  | done
  | look (next : Loader → Program)
  | log (record : Log.Record) (next : Program)
  | change (c : Change) (next : Program)
  | load (name : String) (caught : ImportFault → Program) (next : Program)
  | declare (statement : ClassStatement) (scope : Scope) (caught : ImportFault → Program)
    (next : Scope → Subject → Program)
  | raise (r : Raised) (caught : Program)
  | settle (next : Program)
  | fail

instance : Inhabited Program := ⟨.done⟩

namespace Program

/-- Binds a name. -/
def bind (module name : String) (b : Binding) (next : Program) : Program := change (.bind module name b) next

/-- Declares a class, and settles no fault. -/
def declaring (statement : ClassStatement) (scope : Scope) (next : Scope → Subject → Program) : Program :=
  declare statement scope (fun _ => fail) next

/-- Runs definitions in order. A class is declared under its name, and an alias of a class can be named, too. -/
def ofDefinitions (module : String) (scope : Scope) : List Definition → Program
  | [] => done
  | .cls statement :: rest =>
    declaring statement scope fun scope subject =>
      bind module statement.name (.subject subject) (ofDefinitions module scope rest)
  | .bind name v :: rest => bind module name (.subject (.value v)) (ofDefinitions module scope rest)
  | .alias name path :: rest => look fun l =>
    match scope.resolve l.classes path with
    | .ok (.cls c) => bind module name (.subject (.cls c)) (ofDefinitions module (scope.insert name c) rest)
    | .ok subject => bind module name (.subject subject) (ofDefinitions module scope rest)
    | .error e => raise (.other e.type e.message) fail

end Program

end Errata
