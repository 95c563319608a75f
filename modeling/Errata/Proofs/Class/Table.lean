import Errata.Class.Declaration
import Errata.Proofs.Compile.Lookup
import Errata.Proofs.Steps

/-!
# Class tables

What holds of every table that declarations can make. A table only grows, so that what is known of a
class stays true (`Sound.append`), and every successful declaration adds classes of which it is true
(`declare_sound`): a taxonomy answers with the table of its own cases, a case class stands directly below
the taxonomy that declares its case, and a class that is not below the root has nothing to do with cases.
The run lemma is `Reachable.sound`.
-/

namespace Errata

namespace Linearization

variable {α : Type} [DecidableEq α]

/-- Only the head that is removed is missing from a list. -/
lemma mem_dropHead {c d : α} {l : List α} (member : d ∈ l) : d = c ∨ d ∈ dropHead c l := by
  cases l with
  | nil => cases member
  | cons x l =>
    by_cases same : x = c
    · rcases List.mem_cons.1 member with rfl | member
      · exact .inl same
      · exact .inr (by simpa [dropHead, same] using member)
    · exact .inr (by simpa [dropHead, same] using member)

/-- Removing a head adds nothing to a list. -/
lemma mem_of_mem_dropHead {c d : α} {l : List α} (member : d ∈ dropHead c l) : d ∈ l := by
  cases l with
  | nil => cases member
  | cons x l =>
    by_cases same : x = c
    · exact List.mem_cons_of_mem _ (by simpa [dropHead, same] using member)
    · simpa [dropHead, same] using member

/-- A merged order is empty, or begins with the next class and goes on with the order of what is left. -/
lemma merge_eq_ok {ls : List (List α)} {order : List α} (merged : merge ls = .ok order) :
    (∃ c rest, candidate? ls = some c ∧ merge (advance c ls) = .ok rest ∧ order = c :: rest) ∨
      (order = [] ∧ ∀ l ∈ ls, l = []) := by
  rw [merge] at merged
  split at merged
  · rename_i c next
    cases left : merge (advance c ls) with
    | error heads =>
      rw [left] at merged
      cases merged
    | ok rest =>
      rw [left] at merged
      cases merged
      exact .inl ⟨c, rest, next, left, rfl⟩
  · split_ifs at merged with empty
    cases merged
    exact .inr ⟨rfl, fun l there => List.isEmpty_iff.1 (List.all_eq_true.1 empty l there)⟩

/-- The merged order has what the lists have, and nothing else. -/
lemma mem_merge {ls : List (List α)} {order : List α} (merged : merge ls = .ok order) {d : α} :
    d ∈ order ↔ ∃ l ∈ ls, d ∈ l := by
  -- Along the order: every step takes its class from the heads of the lists, and nothing else.
  induction order generalizing ls with
  | nil =>
    obtain ⟨c, rest, -, -, e⟩ | ⟨-, empty⟩ := merge_eq_ok merged
    · cases e
    · refine ⟨nofun, ?_⟩
      rintro ⟨l, there, member⟩
      rw [empty l there] at member
      cases member
  | cons c order ih =>
    obtain ⟨c', rest, next, left, e⟩ | ⟨e, -⟩ := merge_eq_ok merged
    · cases e
      rw [List.mem_cons, ih left]
      constructor
      · rintro (rfl | ⟨l', there, member⟩)
        · obtain ⟨l, head⟩ := exists_head_of_candidate? next
          exact ⟨d :: l, head, List.mem_cons_self⟩
        · obtain ⟨l, origin, rfl⟩ := List.mem_map.1 there
          exact ⟨l, origin, mem_of_mem_dropHead member⟩
      · rintro ⟨l, there, member⟩
        rcases mem_dropHead (c := c) member with same | member
        · exact .inl same
        · exact .inr ⟨_, List.mem_map_of_mem there, member⟩
    · cases e

end Linearization

namespace ClassTable

/-- The class is there: it has been made, or it is always there. -/
def Has (t : ClassTable) : ClassId → Prop
  | .user n => n < t.classes.length
  | _ => True

/-- What is known of a class that a declaration has made. -/
inductive Sound (t : ClassTable) : ClassDef → Prop where
  | declared {name qualifiedName : String} {bases ancestors : List ClassId} {compiled : Compiled}
      {members : List (String × ClassId)} {logged : Bool} :
    (∀ a ∈ ancestors, t.Has a) →
    .root ∈ ancestors →
    (compiled.taxonomy.cases.map ErrorCase.name).Nodup →
    compiled.table = .ofTaxonomy compiled.taxonomy logged →
    Sound t ⟨name, qualifiedName, bases, ancestors, .declared compiled members⟩
  | case {name qualifiedName : String} {owner : Nat} {rest : List ClassId} {compiled : Compiled}
      {e : ErrorCase} :
    (∀ a ∈ ClassId.user owner :: rest, t.Has a) →
    .root ∈ rest →
    t.ownCompiled? (.user owner) = some compiled →
    e ∈ compiled.taxonomy.cases →
    Sound t ⟨name, qualifiedName, [.user owner], .user owner :: rest, .case e⟩
  | plain {name qualifiedName : String} {bases ancestors : List ClassId} :
    (∀ a ∈ ancestors, t.Has a) →
    (∀ a ∈ ancestors, t.ownCase? a = none) →
    Sound t ⟨name, qualifiedName, bases, ancestors, .plain⟩

/-- The tables that any sequence of successful declarations makes, each in an environment of its own and
from bases that are there. -/
inductive Reachable : ClassTable → Prop where
  | empty :
    Reachable .empty
  | declare {t t' : ClassTable} {env : Environment} {d : ClassDecl} {c : ClassId} :
    Reachable t →
    (∀ b ∈ d.bases, t.Has b) →
    (t.declare env d).outcome = .ok (t', c) →
    Reachable t'

/-! ## Tables only grow -/

/-- A class that is there stays what it is when classes are added. -/
lemma find?_append {t : ClassTable} {a : ClassId} (has : t.Has a) (new : List ClassDef) :
    (⟨t.classes ++ new⟩ : ClassTable).find? a = t.find? a := by
  cases a with
  | user n => exact List.getElem?_append_left has
  | _ => rfl

/-- A class that is there stays there. -/
lemma Has.append {t : ClassTable} {a : ClassId} (has : t.Has a) (new : List ClassDef) :
    (⟨t.classes ++ new⟩ : ClassTable).Has a := by
  cases a with
  | user n =>
    show n < (t.classes ++ new).length
    rw [List.length_append]
    exact Nat.lt_add_right _ has
  | _ => trivial

/-- A class that is there keeps its case. -/
lemma ownCase?_append {t : ClassTable} {a : ClassId} (has : t.Has a) (new : List ClassDef) :
    (⟨t.classes ++ new⟩ : ClassTable).ownCase? a = t.ownCase? a := by
  unfold ownCase?
  rw [find?_append has]

/-- A class that is there keeps its unit. -/
lemma ownCompiled?_append {t : ClassTable} {a : ClassId} (has : t.Has a) (new : List ClassDef) :
    (⟨t.classes ++ new⟩ : ClassTable).ownCompiled? a = t.ownCompiled? a := by
  unfold ownCompiled?
  rw [find?_append has]

/-- What is known of a class stays true when classes are added. -/
lemma Sound.append {t : ClassTable} {d : ClassDef} (sound : t.Sound d) (new : List ClassDef) :
    (⟨t.classes ++ new⟩ : ClassTable).Sound d := by
  cases sound with
  | declared closed rooted distinct table =>
    exact .declared (fun a member => (closed a member).append new) rooted distinct table
  | case closed rooted owner member =>
    refine .case (fun a member => (closed a member).append new) rooted ?_ member
    rw [ownCompiled?_append (closed _ List.mem_cons_self)]
    exact owner
  | plain closed caseless =>
    refine .plain (fun a member => (closed a member).append new) fun a member => ?_
    rw [ownCase?_append (closed a member)]
    exact caseless a member

/-! ## Orders -/

/-- The class of a type is always there. -/
lemma has_ofType (t : ClassTable) (name : String) : t.Has (.ofType name) := by
  unfold ClassId.ofType
  split <;> trivial

/-- A class with a case is a case class of the table. -/
lemma ownCase?_eq_some {t : ClassTable} {a : ClassId} {e : ErrorCase}
    (own : t.ownCase? a = some (some e)) :
    ∃ n d, a = .user n ∧ t.classes[n]? = some d ∧ d.body = .case e := by
  unfold ownCase? at own
  split_ifs at own
  · cases own
  · split at own
    · rename_i e' body
      cases own
      obtain ⟨d, found, held⟩ := Option.map_eq_some_iff.1 body
      cases a with
      | user n => exact ⟨n, d, rfl, found, held⟩
      | _ => cases found
    · cases own

/-- The order of a class of the table begins with the class. -/
lemma order_user {t : ClassTable} {n : Nat} {d : ClassDef} (found : t.classes[n]? = some d) :
    t.order (.user n) = .user n :: d.ancestors := by
  simp [order, found]

/-- Only the root says that it has no case. -/
lemma eq_root_of_ownCase? {t : ClassTable} {a : ClassId} (own : t.ownCase? a = some none) :
    a = .root := by
  unfold ownCase? at own
  split_ifs at own with root
  · exact root
  · split at own <;> cases own

/-- Only in the order of a class of the table stand classes of the table. -/
lemma user_of_mem_order {t : ClassTable} {b : ClassId} {m : Nat} (member : .user m ∈ t.order b) :
    ∃ n, b = .user n := by
  cases b with
  | user n => exact ⟨n, rfl⟩
  | builtin name =>
    obtain ⟨name', -, same⟩ := List.mem_map.1 member
    unfold ClassId.ofType at same
    split at same <;> cases same
  | _ => simp [order] at member

/-- A case stands in no order but that of a class of the table. -/
lemma class_of_case_mem_order {t : ClassTable} {b a : ClassId} {e : ErrorCase} (member : a ∈ t.order b)
    (own : t.ownCase? a = some (some e)) : ∃ n d, b = .user n ∧ t.classes[n]? = some d := by
  obtain ⟨m, c, rfl, there, -⟩ := ownCase?_eq_some own
  obtain ⟨n, rfl⟩ := user_of_mem_order member
  cases found : t.classes[n]? with
  | some d => exact ⟨n, d, rfl, found⟩
  | none =>
    simp only [order, found, Option.map_none, Option.getD_none, List.mem_singleton] at member
    cases member
    rw [there] at found
    cases found

/-- The ancestors of a new class are its parents, and what stands in their orders. -/
lemma mem_ancestors_iff {t : ClassTable} {parents ancestors : List ClassId} {a : ClassId}
    (merged : Linearization.merge (parents.map t.order ++ [parents]) = .ok ancestors) :
    a ∈ ancestors ↔ (∃ b ∈ parents, a ∈ t.order b) ∨ a ∈ parents := by
  rw [Linearization.mem_merge merged]
  simp only [List.mem_append, List.mem_map, List.mem_singleton, or_and_right, exists_or,
    exists_exists_and_eq_and, exists_eq_left]

section

variable {t : ClassTable} (sound : ∀ d ∈ t.classes, t.Sound d)
include sound

/-- The ancestors of a class of the table are there. -/
lemma has_of_mem_ancestors {n : Nat} {d : ClassDef} (found : t.classes[n]? = some d) :
    ∀ a ∈ d.ancestors, t.Has a := by
  cases sound d (List.mem_of_getElem? found) with
  | declared closed => exact closed
  | case closed => exact closed
  | plain closed => exact closed

/-- Everything in the order of a class that is there is there. -/
lemma has_of_mem_order {b : ClassId} (has : t.Has b) : ∀ a ∈ t.order b, t.Has a := by
  cases b with
  | user n =>
    have found : t.classes[n]? = some t.classes[n] := List.getElem?_eq_getElem has
    rw [order_user found]
    exact List.forall_mem_cons.2 ⟨has, has_of_mem_ancestors sound found⟩
  | builtin name => exact List.forall_mem_map.2 fun name' _ => t.has_ofType name'
  | _ => simp [order, Has]

/-- Where a case stands in an order, the root does too. -/
lemma root_mem_order {b a : ClassId} {e : ErrorCase} (member : a ∈ t.order b)
    (own : t.ownCase? a = some (some e)) : .root ∈ t.order b := by
  obtain ⟨n, d, rfl, found⟩ := class_of_case_mem_order member own
  rw [order_user found] at member ⊢
  refine List.mem_cons_of_mem _ ?_
  cases sound d (List.mem_of_getElem? found) with
  | declared _ rooted => exact rooted
  | case _ rooted => exact List.mem_cons_of_mem _ rooted
  | plain _ caseless =>
    -- A plain class has no case, and neither has any of its ancestors.
    rcases List.mem_cons.1 member with rfl | member
    · obtain ⟨m, c, same, there, body⟩ := ownCase?_eq_some own
      cases same
      rw [there] at found
      cases found
      cases body
    · rw [caseless _ member] at own
      cases own

/-- The ancestors of a new class are there when its parents are. -/
lemma has_of_merge {parents ancestors : List ClassId} (has : ∀ b ∈ parents, t.Has b)
    (merged : Linearization.merge (parents.map t.order ++ [parents]) = .ok ancestors) :
    ∀ a ∈ ancestors, t.Has a := by
  intro a member
  obtain ⟨b, parent, member⟩ | parent := (mem_ancestors_iff merged).1 member
  · exact has_of_mem_order sound (has b parent) a member
  · exact has a parent

/-- Where the root is not among the ancestors of a new class, none of them says anything about a case. -/
lemma caseless_of_merge {parents ancestors : List ClassId}
    (merged : Linearization.merge (parents.map t.order ++ [parents]) = .ok ancestors)
    (rootless : .root ∉ ancestors) : ∀ a ∈ ancestors, t.ownCase? a = none := by
  have inherited {b : ClassId} (parent : b ∈ parents) : .root ∉ t.order b := fun member =>
    rootless ((mem_ancestors_iff merged).2 (.inl ⟨b, parent, member⟩))
  intro a member
  cases own : t.ownCase? a with
  | none => rfl
  | some case =>
    exfalso
    cases case with
    | none =>
      rw [eq_root_of_ownCase? own] at member
      exact rootless member
    | some e =>
      obtain ⟨b, parent, member⟩ | parent := (mem_ancestors_iff merged).1 member
      · exact inherited parent (root_mem_order sound member own)
      · obtain ⟨n, -, rfl, -, -⟩ := ownCase?_eq_some own
        exact inherited parent (root_mem_order sound (List.mem_cons_self : _ ∈ t.order (.user n)) own)

end

/-! ## Declarations -/

variable {t : ClassTable}

/-- The ancestors of a new class are a merged order of its parents. -/
lemma ancestors_eq_ok {d : ClassDecl} {ancestors : List ClassId}
    (success : d.ancestors t = .ok ancestors) :
    Linearization.merge (d.parents.map t.order ++ [d.parents]) = .ok ancestors := by
  unfold ClassDecl.ancestors at success
  split at success
  · cases success
  · exact Attempt.mapError_eq_ok.1 success

/-- Reading the hints of a class keeps their names. -/
lemma names_of_mapM {hints : List (String × Hint)} {read : List (String × Hint)}
    (success : (hints.mapM fun e => e.2.resolve.map fun h => (e.1, h)) = .ok read) :
    read.map Prod.fst = hints.map Prod.fst := by
  have related := mapM_eq_ok_iff.1 success
  clear success
  induction related with
  | nil => rfl
  | @cons e _ _ _ first _ ih =>
    rw [List.map_cons, List.map_cons, ih]
    cases resolved : e.2.resolve with
    | error f =>
      rw [resolved] at first
      cases first
    | ok h =>
      rw [resolved] at first
      cases first
      rfl

/-- A unit that can be read has the cases of hints that can be, and the reserved names. -/
lemma unit?_eq_ok {d : ClassDecl} {unit : UnitDecl} (read : d.unit? = .ok unit) :
    ∃ hints, d.resolvedHints = .ok hints ∧ unit.cases = ClassDecl.caseDecls hints ∧ unit.reserved = reservedNames := by
  unfold ClassDecl.unit? at read
  split at read
  · cases read
  · cases read
  · rename_i hints resolved
    cases read
    exact ⟨hints, resolved, rfl, rfl⟩

/-- No two cases of the unit of a class have one name. -/
lemma nodup_names_of_unit? {d : ClassDecl} {unit : UnitDecl} (success : d.unit? = .ok unit) :
    (unit.cases.map CaseDecl.name).Nodup := by
  obtain ⟨hints, resolved, cases, -⟩ := unit?_eq_ok success
  have nodup : (hints.map Prod.fst).Nodup := by
    rw [names_of_mapM resolved]
    exact d.hints.nodup
  rw [cases, ClassDecl.caseDecls, List.map_map]
  exact nodup.sublist (List.filter_sublist.map _)

/-- A class is compiled when it does not give itself twice, its unit can be read, the unit is accepted,
and its cases have names that classes can have. -/
lemma compile_eq_ok_iff {env : Environment} {d : ClassDecl} {compiled : Compiled} :
    (d.compile env).outcome = .ok compiled ↔
      d.config.contains ClassDecl.receiverKeyword = false ∧ ∃ unit, d.unit? = .ok unit ∧
        (unit.compile (Settings.ofEnvironment env).result).outcome = .ok compiled ∧
        (compiled.taxonomy.cases.forM fun c => ClassDecl.checkName c.name) = .ok () := by
  unfold ClassDecl.compile
  cases given : d.config.contains ClassDecl.receiverKeyword with
  | true => simp [-Attempt.outcome_bind, Attempt.outcome_bind_eq_ok]
  | false =>
    simp [-Attempt.outcome_bind, Attempt.outcome_bind_eq_ok, Attempt.mapError_eq_ok, Unique.exists_iff]

/-- A class is compiled to cases that its unit declares, under their names, and none of these is reserved. -/
lemma exists_unit_of_compile {env : Environment} {d : ClassDecl} {compiled : Compiled}
    (success : (d.compile env).outcome = .ok compiled) :
    ∃ unit, d.unit? = .ok unit ∧ compiled.taxonomy.cases.map ErrorCase.name = unit.cases.map CaseDecl.name ∧
      ∀ e ∈ compiled.taxonomy.cases, e.name ∉ unit.reserved := by
  obtain ⟨-, unit, read, accepted, -⟩ := compile_eq_ok_iff.1 success
  obtain ⟨wf, rfl⟩ := UnitDecl.compile_eq_ok_iff.1 accepted
  refine ⟨unit, read, wf.names_readable, fun e member => ?_⟩
  have named : e.name ∈ unit.readable.map ErrorCase.name := List.mem_map_of_mem member
  rw [wf.names_readable] at named
  obtain ⟨c, there, same⟩ := List.mem_map.1 named
  exact same ▸ wf.unreserved c there

/-- The cases of a class have names of their own, and the class is compiled to their table. -/
lemma table_of_compile {env : Environment} {d : ClassDecl} {compiled : Compiled}
    (success : (d.compile env).outcome = .ok compiled) :
    (compiled.taxonomy.cases.map ErrorCase.name).Nodup ∧
      ∃ logged, compiled.table = .ofTaxonomy compiled.taxonomy logged := by
  obtain ⟨-, unit, read, accepted, -⟩ := compile_eq_ok_iff.1 success
  obtain ⟨wf, rfl⟩ := UnitDecl.compile_eq_ok_iff.1 accepted
  have distinct := nodup_names_of_unit? read
  rw [← wf.names_readable] at distinct
  exact ⟨distinct, _, rfl⟩

/-- A class is made when its bases, its name and its order are right, and it is below the root and its unit
is accepted, or it is not below the root and not configured. -/
lemma declare_eq_ok_iff {env : Environment} {d : ClassDecl} {t' : ClassTable} {c : ClassId} :
    (t.declare env d).outcome = .ok (t', c) ↔
      d.checkBases t = .ok () ∧ ClassDecl.checkName d.name = .ok () ∧
        ∃ ancestors, d.ancestors t = .ok ancestors ∧
          ((.root ∈ ancestors ∧ ∃ compiled, (d.compile env).outcome = .ok compiled ∧
              t.add d.name d.parents ancestors compiled = (t', c)) ∨
            .root ∉ ancestors ∧ d.config.entries = [] ∧
              t.addPlain d.name d.parents ancestors = (t', c)) := by
  unfold declare
  simp only [Attempt.outcome_bind_eq_ok, Attempt.outcome_lift]
  constructor
  · rintro ⟨⟨⟩, bases, ⟨⟩, name, ancestors, ordered, success⟩
    refine ⟨bases, name, ancestors, ordered, ?_⟩
    split_ifs at success with rooted unconfigured
    · obtain ⟨compiled, accepted, success⟩ := Attempt.outcome_bind_eq_ok.1 success
      exact .inl ⟨by simpa using rooted, compiled, accepted, by simpa using success⟩
    · exact .inr ⟨by simpa using rooted, by simpa using unconfigured, by simpa using success⟩
    · simp at success
  · rintro ⟨bases, name, ancestors, ordered, added⟩
    refine ⟨(), bases, (), name, ancestors, ordered, ?_⟩
    rcases added with ⟨rooted, compiled, accepted, added⟩ | ⟨rootless, unconfigured, added⟩
    · rw [if_pos (by simpa using rooted)]
      exact Attempt.outcome_bind_eq_ok.2 ⟨compiled, accepted, by simp [added]⟩
    · simp [rootless, unconfigured, added]

/-- A plain class is known when it is added. -/
lemma addPlain_sound (sound : ∀ d ∈ t.classes, t.Sound d) (name : String)
    {bases ancestors : List ClassId} (closed : ∀ a ∈ ancestors, t.Has a)
    (caseless : ∀ a ∈ ancestors, t.ownCase? a = none) :
    ∀ d ∈ (t.addPlain name bases ancestors).1.classes, (t.addPlain name bases ancestors).1.Sound d := by
  intro d member
  rcases List.mem_append.1 member with old | new
  · exact (sound d old).append _
  · rw [List.mem_singleton.1 new]
    refine .plain (fun a there => (closed a there).append _) fun a there => ?_
    rw [← caseless a there]
    exact ownCase?_append (closed a there) _

/-- A taxonomy and its case classes are known when they are added. -/
lemma add_sound (sound : ∀ d ∈ t.classes, t.Sound d) (name : String) {bases ancestors : List ClassId}
    {compiled : Compiled} {logged : Bool} (closed : ∀ a ∈ ancestors, t.Has a)
    (rooted : .root ∈ ancestors) (distinct : (compiled.taxonomy.cases.map ErrorCase.name).Nodup)
    (table : compiled.table = .ofTaxonomy compiled.taxonomy logged) :
    ∀ d ∈ (t.add name bases ancestors compiled).1.classes,
      (t.add name bases ancestors compiled).1.Sound d := by
  intro d member
  rcases List.mem_append.1 member with old | new
  · exact (sound d old).append _
  · rcases List.mem_cons.1 new with rfl | new
    · exact .declared (fun a there => (closed a there).append _) rooted distinct table
    · -- The taxonomy is the first of the new classes, and its case classes stand behind it.
      obtain ⟨e, there, rfl⟩ := List.mem_map.1 new
      refine .case (List.forall_mem_cons.2 ⟨?_, fun a there => (closed a there).append _⟩) rooted ?_ there
      · show t.classes.length < (t.classes ++ _).length
        simp
      · simp [ownCompiled?, find?, add]

/-- Every class of the table is known after a successful declaration, if it was before. -/
lemma declare_sound {env : Environment} {d : ClassDecl} {t' : ClassTable} {c : ClassId}
    (sound : ∀ d ∈ t.classes, t.Sound d) (has : ∀ b ∈ d.bases, t.Has b)
    (success : (t.declare env d).outcome = .ok (t', c)) : ∀ d ∈ t'.classes, t'.Sound d := by
  have there : ∀ b ∈ d.parents, t.Has b := by
    unfold ClassDecl.parents
    split_ifs
    · simp [Has]
    · exact has
  obtain ⟨-, -, ancestors, ordered, added⟩ := declare_eq_ok_iff.1 success
  have merged := ancestors_eq_ok ordered
  have closed := has_of_merge sound there merged
  rcases added with ⟨rooted, compiled, accepted, added⟩ | ⟨rootless, -, added⟩
  · obtain ⟨distinct, logged, table⟩ := table_of_compile accepted
    cases added
    exact add_sound sound d.name closed rooted distinct table
  · cases added
    exact addPlain_sound sound d.name closed (caseless_of_merge sound merged rootless)

/-- Every class of a table that declarations make is known. -/
lemma Reachable.sound (reachable : t.Reachable) : ∀ d ∈ t.classes, t.Sound d := by
  induction reachable with
  | empty =>
    intro d member
    exact absurd member List.not_mem_nil
  | declare _ has success ih => exact declare_sound ih has success

end ClassTable

end Errata
