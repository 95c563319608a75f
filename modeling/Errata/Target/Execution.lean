import Errata.Script.Statement
import Errata.Target.Evaluation
import Errata.Target.World

/-!
# Scripts as programs

What the statements of a script do when its module is made, one after the other. Where a fault is met, the handlers
around the statement are looked through, the innermost first, each with what is done always behind it. A loop is not
run: what is known of the names that it binds is nothing any longer.
-/

namespace Errata

open Script (Expression Statement)

/-! ## Names and faults of imports -/

namespace Loader

variable (l : Loader)

/-- A module is a package. -/
def isPackage (module : String) : Bool := ((l.modules.get? module).bind Module.package).isSome

/-- The package around a module: itself, if it is one. -/
def packageOf? (module : String) : Option String :=
  if l.isPackage module then some module
  else
    let parent := (splitLast module).1
    if parent = "" then none else some parent

/-- The package that is some packages above another. -/
def above (package : String) : Nat → Except Raised String
  | 0 => .ok package
  | n + 1 =>
    if package.toList.contains '.' then above (splitLast package).1 n
    else .error (.importError "attempted relative import beyond top-level package" none)

/-- The whole name of a module that a statement imports from. -/
def wholeName (module : String) (leave : Nat) (path : List String) : Except Raised String :=
  match leave with
  | 0 => .ok (".".intercalate path)
  | n + 1 =>
    match l.packageOf? module with
    | none => .error (.importError "attempted relative import with no known parent package" none)
    | some package => (above package n).map fun package => ".".intercalate (package :: path)

/-- What is taken from a module under a name: an attribute of the module, or a module that is part of it. -/
def taken (module name : String) : Except Raised Binding :=
  match l.moduleMember module name with
  | .ok b => .ok b
  | .error _ =>
    let part := s!"{module}.{name}"
    if l.modules.contains part then .ok (.module part)
    else
      .error (.importError s!"cannot import name {Text.quoted name} from {Text.quoted module} (unknown location)" none)

/-- What a path stands for that begins with a module. -/
def follow (first : String) (rest : List String) : Except Raised Binding :=
  rest.foldlM (fun b name =>
    match b with
    | .module m => l.taken m name
    | b => l.member b name) (.module first)

/-- The types of the faults that the package itself raises, each with the types that it is a special case of beside the
general ones of the package. -/
def packageFaults : List (String × List String) := [
  ("CompileError", []), ("ContractViolation", ["AssertionError"]), ("TargetError", ["LookupError"])]

/-- The types that a fault of a type belongs to. -/
def faultLineage (type : String) : List String :=
  match l.classes.classes.findIdx? fun d => d.name = type with
  | some n => (l.classes.order (.user n)).map l.classes.name
  | none =>
    match packageFaults.lookup type with
    | some others => type :: "JsonRespError" :: (others ++ Script.lineage "Exception")
    | none => Script.lineage type

/-- A handler for a thing is for the faults of a type. -/
def handles (type : String) : Binding → Bool
  | .subject (.cls c) => (l.faultLineage type).contains (l.classes.name c)
  | .generic name => (l.faultLineage type).contains name
  | .row _ parts => parts.attach.any fun ⟨b, _⟩ => handles type b
  | _ => false

/-- The fault that an error is. -/
def faultOf (i : Instance) : Raised :=
  match i.print l.classes with
  | .ok text => .other (l.classes.name i.cls) text
  | .error f => .other f.type f.message

/-- What is raised with a thing. -/
def raisedBy (b : Binding) : Raised :=
  let foreign : Raised := .ofType "exceptions must derive from BaseException"
  match b with
  | .fault r => r
  | .subject (.value (.failure kind args)) => .made kind.name args none
  | .subject (.error i) => l.faultOf i
  | .subject (.cls c) =>
    if l.classes.isTaxonomyClass c then
      match Instance.construct l.classes c [] with
      | .ok i => l.faultOf i
      | .error e => .ofType e.message
    else if l.classes.derives c .baseException then .made (l.classes.name c) [] none
    else foreign
  | .unknown => .other "Exception" ""
  | .foreign _ => .other "Exception" ""
  | .generic name => .other name ""
  | _ => foreign

end Loader

/-! ## What statements bind -/

namespace Script.Statement

mutual

/-- The names that a statement may bind. -/
def names : Statement → List String
  | load path alias? => [alias?.getD (path.headD "")]
  | take _ _ ns => ns.map Prod.snd
  | future ns _ => ns.map Prod.snd
  | assign targets _ => boundAmong targets
  | annotate target _ (some _) => bound target
  | update target _ _ => bound target
  | define name _ _ _ => [name]
  | cls name _ _ _ => [name]
  | branch _ yes no => namesAmong yes ++ namesAmong no
  | loop _ targets body otherwise => boundAmong targets ++ (namesAmong body ++ namesAmong otherwise)
  | resource parts body => boundAmong (parts.filterMap Prod.snd) ++ namesAmong body
  | select _ cases => namesAmong cases
  | case ns _ body => ns ++ namesAmong body
  | attempt body handlers otherwise always =>
    namesAmong body ++ (namesAmong handlers ++ (namesAmong otherwise ++ namesAmong always))
  | handler _ name? body => name?.toList ++ namesAmong body
  | _ => []

/-- The names that some statements may bind. -/
def namesAmong : List Statement → List String
  | [] => []
  | s :: ss => names s ++ namesAmong ss

end

/-- What a function gives whose body does nothing else. -/
def constant? : List Statement → Option Value
  | [result (some (.literal v))] => some v
  | [result none] => some .null
  | [other] => some .null
  | [evaluate (.literal _)] => some .null
  | evaluate (.literal (.text _)) :: rest => constant? rest
  | _ => none

/-- The feature that annotations are evaluated only when they are asked for. -/
def deferral : String := "annotations"

/-- The script asks for a feature. -/
def asksFor (feature : String) (ss : List Statement) : Bool :=
  ss.any fun s =>
    match s with
    | future ns _ => ns.any fun n => n.1 = feature
    | _ => false

end Script.Statement

/-! ## The body of a module or of a class -/

/-- What surrounds a statement: its module, whether it stands in a class, whether annotations are evaluated later, how
many faults are being handled and which is the innermost, and what is done about another, given how many there are
then. -/
structure Scene where
  module : String
  inClass : Bool
  deferred : Bool
  depth : Nat
  handled? : Option ImportFault
  caught : Nat → ImportFault → Program

/-- What a body has come to. The names of a class stand for something only in its body; a hint of a class may have
been evaluated. -/
structure Progress where
  own : List (String × Binding)
  hints : OrderedMap String (Binding ⊕ Expression)

namespace Scene

variable (sc : Scene)

/-- Nothing surrounds the script of a module. -/
def top (module : String) (deferred : Bool) : Scene := ⟨module, false, deferred, 0, none, fun _ _ => .fail⟩

/-- Raises a fault. -/
def raise (r : Raised) : Program := .raise r (sc.caught (sc.depth + 1) (.raised r))

/-- Goes on with what something gives, or raises its fault. -/
def attempt (x : Except Raised α) (next : α → Program) : Program :=
  match x with
  | .ok a => next a
  | .error r => sc.raise r

/-- Evaluates among what is loaded. -/
def evaluateBy (eval : Script.Domain Raised Binding → Attempt Raised α) (p : Progress) (next : α → Program) :
    Program :=
  .look fun l =>
    let made := eval ((Frame.mk sc.module p.own).domain l)
    made.records.foldr Program.log (sc.attempt made.outcome next)

/-- Evaluates an expression. Where it binds a name on the way, nothing is known of the names of the module any
longer. -/
def evaluate (e : Expression) (p : Progress) (next : Binding → Program) : Program :=
  let evaluated := sc.evaluateBy e.evaluate p next
  if e.binds then .change (.unclose sc.module) evaluated else evaluated

/-- Evaluates expressions in order. -/
def evaluateAll (es : List Expression) (p : Progress) (next : Program) : Program :=
  es.foldr (fun e next => sc.evaluate e p fun _ => next) next

/-- Imports a module. -/
def load (name : String) (next : Program) : Program := .load name (sc.caught (sc.depth + 1)) next

/-- Binds a name. -/
def bind (name : String) (b : Binding) (p : Progress) (next : Progress → Program) : Program :=
  if sc.inClass then next { p with own := (name, b) :: p.own } else Program.bind sc.module name b (next p)

/-- Binds names of which nothing is known. -/
def forget (names : List String) (p : Progress) (next : Progress → Program) : Program :=
  match names with
  | [] => next p
  | name :: names => sc.bind name .unknown p fun p => forget names p next

/-- Binds a name no longer. -/
def unbind (name : String) (p : Progress) (next : Progress → Program) : Program :=
  if sc.inClass then next { p with own := p.own.filter fun e => e.1 ≠ name }
  else .change (.unbind sc.module name) (next p)

/-- What is said where a row has another number of parts than there are targets. -/
def lengthFault (targets parts : Nat) : Raised :=
  .other "ValueError" <|
    if parts < targets then s!"not enough values to unpack (expected {targets}, got {parts})"
    else s!"too many values to unpack (expected {targets})"

/-- The parts of a thing that is assigned to some targets. -/
def unpacked (l : Loader) (targets : List Expression) (b : Binding) : Except Raised (List Binding) :=
  let unknown := targets.map fun _ => Binding.unknown
  match b.items? with
  | some parts =>
    if targets.any Statement.isUnpacked then .ok unknown
    else if parts.length = targets.length then .ok parts
    else .error (lengthFault targets.length parts.length)
  | none =>
    match (b.thing l.classes).iterate with
    | .ok () => .ok unknown
    | .error _ =>
      .error (.ofType s!"cannot unpack non-iterable {(b.thing l.classes).typeName} object")

mutual

/-- Assigns something to a target. -/
def assign (target : Expression) (b : Binding) (p : Progress) (next : Progress → Program) : Program :=
  match target with
  | .name n => sc.bind n b p next
  | .row _ targets => .look fun l => sc.attempt (unpacked l targets b) fun bs => assignAll targets bs p next
  | .operation _ es => assignAll es [] p next
  | .member e n => sc.evaluate e p fun owner =>
    match owner with
    | .module m => Program.bind m n b (next p)
    | .subject (.cls c) => .change (.bindInClass c n b) (next p)
    | _ => next p
  | .item e i => sc.evaluateAll [e, i] p (next p)
  | _ => next p

/-- Assigns things to targets, as far as there are any. -/
def assignAll (targets : List Expression) (bs : List Binding) (p : Progress) (next : Progress → Program) : Program :=
  match targets with
  | [] => next p
  | t :: ts => assign t (bs.headD .unknown) p fun p => assignAll ts bs.tail p next

end

/-- Assigns something to each of some targets. -/
def assignEach (targets : List Expression) (b : Binding) (p : Progress) (next : Progress → Program) : Program :=
  match targets with
  | [] => next p
  | t :: ts => sc.assign t b p fun p => assignEach ts b p next

/-- Deletes a target. -/
def delete (target : Expression) (p : Progress) (next : Progress → Program) : Program :=
  match target with
  | .name n => .look fun l =>
    let isBound := if sc.inClass then (p.own.lookup n).isSome else (l.bound? sc.module n).isSome || l.isOpen sc.module
    if isBound then sc.unbind n p next else sc.raise (.ofEvaluation (.unbound n))
  | .row _ targets => sc.forget (Statement.boundAmong targets) p fun p =>
    (Statement.boundAmong targets).foldr (fun n next p => sc.unbind n p next) next p
  | target => sc.evaluate target p fun _ => next p

/-! ### Imports -/

/-- Imports the parts of a package that are no attributes of it. One that is not there is not missed yet. -/
def loadParts (module : String) (names : List String) (next : Program) : Program :=
  match names with
  | [] => next
  | name :: names => .look fun l =>
    let rest := loadParts module names next
    let part := s!"{module}.{name}"
    if !l.isPackage module || (l.moduleMember module name).isOk then rest
    else
      .load part (fun e => if e.missing? = some part then .settle rest else sc.caught (sc.depth + 1) e) rest

/-- Binds what is taken from a module. -/
def takeAll (take : Loader → String → Except Raised Binding) (names : List (String × String)) (p : Progress)
    (next : Progress → Program) : Program :=
  match names with
  | [] => next p
  | (name, called) :: names => .look fun l =>
    sc.attempt (take l name) fun b => sc.bind called b p fun p => takeAll take names p next

/-- Takes names from a module. -/
def takeFrom (leave : Nat) (path : List String) (names : List (String × String)) (p : Progress)
    (next : Progress → Program) : Program :=
  .look fun l => sc.attempt (l.wholeName sc.module leave path) fun module =>
    sc.load module <| sc.loadParts module (names.map Prod.fst) <|
      sc.takeAll (fun l => l.taken module) names p next

/-- The name under which a module says which names are taken from it where none is given. -/
def exportName : String := "__all__"

/-- A name that is bound for a module alone. -/
def isPrivate (name : String) : Bool := name.toList.head? == some '_'

/-- The names in a row of texts. -/
def exported? : Binding → Option (List String)
  | .subject (.value (.list vs)) => (vs.mapM Value.wording?).map fun ws => ws.map Wording.text
  | .subject (.value (.tuple vs)) => (vs.mapM Value.wording?).map fun ws => ws.map Wording.text
  | _ => none

/-- Takes the names from a module that it says, or else all that are not its own. -/
def takeExported (leave : Nat) (path : List String) (p : Progress) (next : Progress → Program) : Program :=
  .look fun l => sc.attempt (l.wholeName sc.module leave path) fun module =>
    sc.load module <| .look fun l =>
      let m := (l.modules.get? module).getD default
      let offered := (m.bindings.entries.filter fun e => !isPrivate e.1).map fun e => (e.1, e.1)
      match (m.bindings.get? exportName).map exported? with
      | some (some names) =>
        sc.loadParts module names <|
          sc.takeAll (fun l => l.moduleMember module) (names.map fun n => (n, n)) p next
      | some none =>
        sc.attempt ((((m.bindings.get? exportName).getD .unknown).thing l.classes).iterate.mapError .ofEvaluation)
          fun () => .change (.unclose sc.module) (sc.takeAll (fun l => l.moduleMember module) offered p next)
      | none =>
        let taken := sc.takeAll (fun l => l.moduleMember module) offered p next
        if m.isOpen then .change (.unclose sc.module) taken else taken

/-! ### Classes -/

/-- A text at the top of a hint is evaluated when its class is made. What is evaluated then is no text any longer. -/
inductive Pending where
  | done (h : Hint)
  | evaluate (e : Expression)
  | unreadable (f : Script.Fault)
  | unknown

/-- What is still to be done about a hint. -/
def pending (t : ClassTable) : Binding ⊕ Expression → Pending
  | .inr e => .evaluate e
  | .inl b =>
    match (b.hint? t : Option Hint) with
    | none => .unknown
    | some (.raw v) =>
      match v.wording? with
      | some w =>
        match Expression.read (w.text.toList.dropWhile Hint.isLeadingBlank) with
        | .ok e => .evaluate e
        | .error f => .unreadable f
      | none => .done (.raw v)
    | some h => .done h

/-- The type of the fault of a name that is bound nowhere. -/
def unboundType : String := "NameError"

/-- Evaluates the hints of a class. One that names what is bound nowhere is left to be told with the class; nothing
is given where one is not known. -/
def evaluateHints (hints : List (String × (Binding ⊕ Expression))) (p : Progress)
    (next : Option (List (String × Hint)) → Program) : Program :=
  match hints with
  | [] => next (some [])
  | (name, h) :: rest => .look fun l =>
    let goOn (h : Hint) : Program := evaluateHints rest p fun hs? => next (hs?.map fun hs => (name, h) :: hs)
    match pending l.classes h with
    | .done h => goOn h
    | .unknown => evaluateHints rest p fun _ => next none
    | .unreadable f => sc.raise (.syntaxError (f.message textScript))
    | .evaluate e =>
      let made := e.evaluate ((Frame.mk sc.module p.own).domain l)
      made.records.foldr Program.log <|
        match made.outcome with
        | .ok b =>
          match b.hint? l.classes with
          | some h => goOn (.quoted h)
          | none => evaluateHints rest p fun _ => next none
        | .error (.other type text) =>
          let unbound := (text.toList.drop 6).takeWhile (· ≠ '\'')
          if type = unboundType then goOn (.raw (.text (String.ofList unbound))) else sc.raise (.other type text)
        | .error r => sc.raise r

/-- The names by which the body of a class changes how classes are made. -/
def making : List String := [
  caseAttribute, "__annotations__", "__init_subclass__", "__mro_entries__", "__new__", "__set_name__", "__slots__"]

/-- The bases of a class, when all of them are followed. -/
def bases? (arguments : List (Script.Argument Binding)) : Option (List Subject) :=
  (arguments.filterMap fun a => match a with
    | .plain b => some (some b)
    | .unpacked _ => some none
    | .keyword _ _ => none).mapM fun b? =>
      match b? with
      | some (.subject s) => some s
      | _ => none

/-- The keywords of a class, when their values are known. -/
def config? (arguments : List (Script.Argument Binding)) : Option (OrderedMap String Value) :=
  ((Binding.values? (arguments.filter fun a => match a with
    | .keyword _ _ => true
    | _ => false)).map Prod.snd).map OrderedMap.ofList

/-- The class statement of a class with some bases, and the names that they get in it. -/
def statementOf (name : String) (bases : List ClassId) (hints : List (String × Hint)) (config : OrderedMap String Value) :
    ClassStatement × Scope :=
  let named := bases.zipIdx.map fun e => (toString e.2, e.1)
  (⟨name, named.map fun e => [e.1], .ofList hints, config⟩, .ofList named)

/-- Binds the names of the body of a class in the class. -/
def bindBody (c : ClassId) (own : List (String × Binding)) (next : Program) : Program :=
  own.reverse.foldl (fun next e => .change (.bindInClass c e.1 e.2) next) next

/-- Makes a class of its bases, its keywords and its body. One with what is not followed is not known. -/
def declare (name : String) (arguments : List (Script.Argument Binding)) (body : Progress)
    (next : Binding → Program) : Program :=
  .look fun l =>
    match bases? arguments, config? arguments with
    | some subjects, some config =>
      match Session.classes? subjects with
      | none =>
        let made := { Session.start .empty with classes := l.classes }.declareValue subjects config
        sc.attempt (made.mapError fun e => Raised.other e.type e.message) fun s => next (.subject s)
      | some bases =>
        let changes := bases.any (fun c => making.any fun n => (l.inBody? c n).isSome) ||
          making.any fun n => (body.own.lookup n).isSome
        let isTaxonomy := bases.any l.classes.isTaxonomyClass
        if changes then next .unknown
        else
          sc.evaluateHints (if isTaxonomy then body.hints.entries else []) body fun hints? =>
            match hints? with
            | none => next .unknown
            | some hints =>
              let (statement, scope) := statementOf name bases hints config
              .declare statement scope (sc.caught (sc.depth + 1)) fun _ subject =>
                match subject with
                | .cls c => bindBody c body.own (next (.subject subject))
                | subject => next (.subject subject)
    | _, _ => next .unknown

end Scene

/-! ## Statements -/

namespace Scene

/-- Settles some faults. -/
def settleAll : Nat → Program → Program
  | 0, next => next
  | n + 1, next => .settle (settleAll n next)

/-- The scene of a handler that has got a fault, while some are being handled. -/
def handling (sc : Scene) (depth : Nat) (e : ImportFault) : Scene := { sc with depth, handled? := some e }

/-- The fault as a handler can name it. -/
def named : ImportFault → Binding
  | .raised r => .fault r
  | _ => .unknown

mutual

/-- Executes a statement. -/
def execute (sc : Scene) (s : Statement) (p : Progress) (next : Progress → Program) : Program :=
  match s with
  | .load path alias? =>
    let first := path.headD ""
    sc.load (".".intercalate path) <|
      match alias? with
      | none => sc.bind first (.module first) p next
      | some called => .look fun l => sc.attempt (l.follow first path.tail) fun b => sc.bind called b p next
  | .take leave path names => sc.takeFrom leave path names p next
  | .takeAll leave path => sc.takeExported leave path p next
  | .future names _ => sc.forget (names.map Prod.snd) p next
  | .evaluate e => sc.evaluate e p fun _ => next p
  | .assign targets e => sc.evaluate e p fun b => sc.assignEach targets b p next
  | .annotate target type e? =>
    let noted (p : Progress) : Program :=
      match target with
      | .name n =>
        if sc.inClass && sc.deferred then next { p with hints := p.hints.insert n (.inr type) }
        else if sc.deferred then next p
        else sc.evaluate type p fun b => next { p with hints := p.hints.insert n (.inl b) }
      | _ => if sc.deferred then next p else sc.evaluate type p fun _ => next p
    match e? with
    | some e => sc.evaluate e p fun b => sc.assign target b p noted
    | none => noted p
  | .update target symbol e =>
    sc.evaluate target p fun a => sc.evaluate e p fun b => .look fun l =>
      sc.attempt (l.operateAs "=" symbol a b) fun b => sc.assign target b p next
  | .delete target => sc.delete target p next
  | .raise e? cause? =>
    match e?, sc.handled? with
    | some e, _ =>
      sc.evaluate e p fun b => sc.evaluateAll cause?.toList p <| .look fun l => sc.raise (l.raisedBy b)
    | none, some e => sc.caught sc.depth e
    | none, none => sc.raise (.other "RuntimeError" "No active exception to reraise")
  | .check test message? =>
    sc.evaluate test p fun b =>
      if b.truth? = some false then
        match message? with
        | some e => sc.evaluate e p fun b =>
          sc.raise (.made "AssertionError" [b.value?.getD (.text "")] none)
        | none => sc.raise (.made "AssertionError" [] none)
      else next p
  | .define name decorators written body =>
    sc.evaluateAll (decorators ++ if sc.deferred then [] else written) p <|
      sc.bind name (if decorators.isEmpty then .function (Statement.constant? body) else .unknown) p next
  | .cls name decorators arguments body =>
    sc.evaluateAll decorators p <|
      sc.evaluateBy (fun d => Expression.evaluateArguments d arguments) p fun arguments =>
        let own := [("__qualname__", name), ("__module__", sc.module)].map fun e =>
          (e.1, Binding.subject (.value (.text e.2)))
        executeAll { sc with inClass := true } body ⟨own, .empty⟩ fun inner =>
          sc.declare name arguments inner fun b =>
            sc.bind name (if decorators.isEmpty then b else .unknown) p next
  | .branch test yes no =>
    sc.evaluate test p fun b =>
      if b.truth? = some false then executeAll sc no p next else executeAll sc yes p next
  | .loop source targets body otherwise =>
    sc.evaluate source p fun b => .look fun l =>
      let gone := if targets.isEmpty then .ok () else ((b.thing l.classes).iterate).mapError Raised.ofEvaluation
      sc.attempt gone fun () =>
        sc.forget (Statement.boundAmong targets ++ (Statement.namesAmong body ++ Statement.namesAmong otherwise)) p next
  | .resource parts body =>
    sc.evaluateAll (parts.map Prod.fst) p <|
      sc.forget (Statement.boundAmong (parts.filterMap Prod.snd)) p fun p => executeAll sc body p next
  | .select subject cases =>
    sc.evaluate subject p fun _ => sc.forget (Statement.namesAmong cases) p next
  | .attempt body handlers otherwise always =>
    -- What is done always is done before a fault that no handler is for goes on to the handlers around.
    let outer : Scene := { sc with
      caught := fun depth e => executeAll (sc.handling depth e) always p fun _ => sc.caught depth e }
    let after (p : Progress) : Program := executeAll sc always p next
    let inner : Scene := { sc with caught := fun depth e => handle outer handlers depth e p after }
    executeAll inner body p fun p => executeAll outer otherwise p after
  | _ => next p

/-- Executes statements in order. -/
def executeAll (sc : Scene) (ss : List Statement) (p : Progress) (next : Progress → Program) : Program :=
  match ss with
  | [] => next p
  | s :: ss => execute sc s p fun p => executeAll sc ss p next

/-- Looks through handlers for one that is for a fault. The name that it gives the fault is bound no longer behind
it, and the faults that have come up since are settled. -/
def handle (sc : Scene) (hs : List Statement) (depth : Nat) (e : ImportFault) (p : Progress)
    (next : Progress → Program) : Program :=
  match hs with
  | [] => sc.caught depth e
  | .handler type? name? body :: rest =>
    let inner := sc.handling depth e
    let leave (p : Progress) : Program := settleAll (depth - sc.depth) (next p)
    let enter : Program :=
      match name? with
      | some n => inner.bind n (named e) p fun p => executeAll inner body p fun p => sc.unbind n p leave
      | none => executeAll inner body p leave
    match type? with
    | none => enter
    | some type => inner.evaluate type p fun b => .look fun l =>
      if l.handles e.type b then enter else handle sc rest depth e p next
  | _ :: rest => handle sc rest depth e p next

end

end Scene

/-- What a script does. -/
def Script.program (module : String) (ss : List Statement) : Program :=
  Scene.executeAll (.top module (Statement.asksFor Statement.deferral ss)) ss ⟨[], .empty⟩ fun _ => .done

/-- Reads a script as a program. -/
def Script.readProgram (module : String) (cs : List Char) : Except Script.Fault Program :=
  (Script.read cs).map (Script.program module)

end Errata
