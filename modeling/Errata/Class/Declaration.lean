import Errata.Class.Basic
import Errata.Class.Hint
import Errata.Class.Linearization
import Errata.Text.Utf8

/-!
# Class declarations

Makes a class from its bases, its hints and its configuration. The unit of its own hints is compiled at
once, with the settings of the environment, and every case becomes a class of its own below the new
class. A declaration that fails makes no class.
-/

namespace Errata

/-- A class statement whose bases have been looked up. -/
structure ClassDecl where
  name : String
  bases : List ClassId
  hints : OrderedMap String Hint
  config : OrderedMap String Value

/-- Why a class cannot be made. -/
inductive ClassDecl.Fault where
  | nullName
  | duplicateBase (name : String)
  | inconsistentOrder (text : String)
  | unreadableOrder (f : Text.Utf8Fault)
  | finalBase (type : String)
  | layoutConflict
  | noKeywords (qualifiedName : String)
  | repeatedReceiver
  | hint (f : HintFault)
  | unit (e : Context.Fault)
  deriving DecidableEq, Repr

/-- What went wrong, in words. -/
def ClassDecl.Fault.message : ClassDecl.Fault → String
  | nullName => "type name must not contain null characters"
  | duplicateBase name => s!"duplicate base class {name}"
  | inconsistentOrder text => text
  | unreadableOrder f => f.message f.reason
  | finalBase type => s!"type '{type}' is not an acceptable base type"
  | layoutConflict => "multiple bases have instance lay-out conflict"
  | noKeywords name => s!"{name}.__init_subclass__() takes no keyword arguments"
  | repeatedReceiver => "JsonErrorEnum.__init_subclass__() got multiple values for argument 'cls'"
  | hint f => f.message
  | unit e => e.message

/-- The type of the fault. -/
def ClassDecl.Fault.type : ClassDecl.Fault → String
  | nullName => "ValueError"
  | unreadableOrder _ => "UnicodeDecodeError"
  | hint f => f.type
  | unit e => e.type
  | _ => "TypeError"

/-- The first entry of a list that comes again. -/
def firstDuplicate? [DecidableEq α] : List α → Option α
  | [] => none
  | a :: l => if l.contains a then some a else firstDuplicate? l

namespace ClassDecl

/-- The most bytes that are told of bases without an order. -/
def maxOrderBytes : Nat := 999

/-- The fault of bases that have no order. -/
def orderFault (names : List String) : Fault :=
  let text := "Cannot create a consistent method resolution\norder (MRO) for bases " ++ ", ".intercalate names
  match Text.ofUtf8 (text.toUTF8.toList.take maxOrderBytes) with
  | .ok s => .inconsistentOrder s
  | .error f => .unreadableOrder f

/-- The classes that the new class derives from: its bases, or the first of all classes where none is
named. -/
def parents (d : ClassDecl) : List ClassId := if d.bases.isEmpty then [.object] else d.bases

/-- The ancestors of the new class, in the order in which they are searched. -/
def ancestors (d : ClassDecl) (t : ClassTable) : Except Fault (List ClassId) :=
  match firstDuplicate? d.parents with
  | some c => .error (.duplicateBase (t.name c))
  | none =>
    (Linearization.merge (d.parents.map t.order ++ [d.parents])).mapError fun heads =>
      orderFault (heads.map t.name)

/-- The types that no class can derive from. -/
def finalTypes : List String := [
  "bool", "NoneType", "function", "method", "builtin_function_or_method", "method_descriptor",
  "wrapper_descriptor", "getset_descriptor", "member_descriptor", "method-wrapper", "mappingproxy",
  "ellipsis", "NotImplementedType", "range", "slice", "generator", "types.UnionType"]

/-- The type whose inner form a class adds to that of its ancestors. Objects and exceptions add none. -/
def ownLayout? : ClassId → Option String
  | .baseException => some "BaseException"
  | .builtin name => if name = "object" ∨ name = "Exception" then none else some name
  | _ => none

/-- The type whose inner form the values of a class have, if it is not that of all objects. -/
def layout? (t : ClassTable) (c : ClassId) : Option String := (t.order c).findSome? ownLayout?

/-- The bases can be derived from together. -/
def checkBases (d : ClassDecl) (t : ClassTable) : Except Fault Unit :=
  match d.bases.find? fun c => finalTypes.contains (t.name c) && c = .builtin (t.name c) with
  | some c => .error (.finalBase (t.name c))
  | none => if 1 < (d.bases.filterMap (layout? t)).eraseDups.length then .error .layoutConflict else .ok ()

/-- A name of a class. -/
def checkName (name : String) : Except Fault Unit :=
  if name.toList.contains '\x00' then .error .nullName else .ok ()

/-- The hints of the class, as they are written. -/
def checkHints (hints : OrderedMap String Hint) : Except HintFault Unit :=
  hints.entries.forM fun e => e.2.check

/-- The hints of the class, with texts read. -/
def resolvedHints (d : ClassDecl) : Except HintFault (List (String × Hint)) :=
  d.hints.entries.mapM fun e => e.2.resolve.map fun h => (e.1, h)

/-- A name that is private to the class. -/
def isPrivate (name : String) : Bool := Docs.Catalogue.isHidden name

/-- The cases among the hints. -/
def caseDecls (hints : List (String × Hint)) : List CaseDecl :=
  (hints.filter fun e => !isPrivate e.1 && e.2.isCase).map fun e =>
    ⟨e.1, e.2.isNaive, e.2.note?⟩

/-- The unit that the class declares. -/
def unit? (d : ClassDecl) : Except Fault UnitDecl :=
  match d.resolvedHints with
  | .error (.evaluation (.unbound name)) => .error (.unit (.rejected [⟨d.name, .unresolvedName name⟩]))
  | .error f => .error (.hint f)
  | .ok hints =>
    .ok {
      name := d.name
      annotation := if d.config.entries.isEmpty then none else some ⟨[], d.config⟩
      cases := caseDecls hints
      reserved := reservedNames }

/-- The keyword that the class itself is given by. -/
def receiverKeyword : String := "cls"

/-- Compiles the unit of a class below the root, with the settings of the environment. -/
def compile (d : ClassDecl) (env : Environment) : Attempt Fault Compiled := do
  if d.config.contains receiverKeyword then Attempt.lift (.error .repeatedReceiver)
  let unit ← Attempt.lift d.unit?
  let settings := Settings.ofEnvironment env
  Attempt.log settings.records
  let compiled ← (unit.compile settings.result).mapError .unit
  Attempt.lift (compiled.taxonomy.cases.forM fun c => checkName c.name)
  return compiled

end ClassDecl

namespace ClassTable

/-- The class of a case of the class with number `owner`. -/
def caseClass (owner : Nat) (ownerName : String) (ancestors : List ClassId) (c : ErrorCase) : ClassDef where
  name := c.name
  qualifiedName := s!"{ownerName}.{c.name}"
  bases := [.user owner]
  ancestors := .user owner :: ancestors
  body := .case c

/-- Adds a class with a compiled unit, and a class for each of its cases. -/
def add (t : ClassTable) (name : String) (bases ancestors : List ClassId) (compiled : Compiled) :
    ClassTable × ClassId :=
  let owner := t.classes.length
  let cases := compiled.taxonomy.cases
  let members := cases.zipIdx.map fun p => (p.1.name, ClassId.user (owner + 1 + p.2))
  (⟨t.classes ++ ⟨name, name, bases, ancestors, .declared compiled members⟩ ::
      cases.map (caseClass owner name ancestors)⟩,
    .user owner)

/-- Adds a class that is no taxonomy. -/
def addPlain (t : ClassTable) (name : String) (bases ancestors : List ClassId) : ClassTable × ClassId :=
  (⟨t.classes ++ [⟨name, name, bases, ancestors, .plain⟩]⟩, .user t.classes.length)

/-- Makes a declared class. Only a class below the root is compiled and may be configured. -/
def declare (t : ClassTable) (env : Environment) (d : ClassDecl) :
    Attempt ClassDecl.Fault (ClassTable × ClassId) := do
  Attempt.lift (d.checkBases t)
  Attempt.lift (ClassDecl.checkName d.name)
  let ancestors ← Attempt.lift (d.ancestors t)
  if ancestors.contains .root then return t.add d.name d.parents ancestors (← d.compile env)
  else if d.config.entries.isEmpty then return t.addPlain d.name d.parents ancestors
  else Attempt.lift (.error (.noKeywords d.name))

end ClassTable

end Errata
