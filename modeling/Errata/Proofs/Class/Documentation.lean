import Errata.Proofs.Class.Bodies
import Errata.Proofs.OrderedMap
import Mathlib

/-!
# The documentation of a class

A class below the root has the catalogue of the unit that it answers with for an attribute
(`Reachable.getAttribute_catalogue`): no case takes its place, because the name of the attribute is reserved
(`declare_unshadowed`). The root itself has no unit, and so no documentation.
-/

namespace Errata.ClassTable

variable {t : ClassTable}

/-- Every class of a table that declarations make says how it came about. -/
lemma Reachable.formed (reachable : t.Reachable) : ∀ d ∈ t.classes, t.Formed d := by
  induction reachable with
  | empty => exact fun d member => absurd member List.not_mem_nil
  | declare _ _ success ih => exact declare_formed ih success

/-- No case of the class takes the place of what errors or catalogues have of their own. -/
def Unshadowed (d : ClassDef) : Prop :=
  ∀ compiled members, d.body = .declared compiled members → ∀ name ∈ reservedNames, members.lookup name = none

/-- No case of a class that is compiled has a reserved name. -/
lemma unreserved_of_compile {env : Environment} {d : ClassDecl} {compiled : Compiled}
    (success : (d.compile env).outcome = .ok compiled) :
    ∀ e ∈ compiled.taxonomy.cases, e.name ∉ reservedNames := by
  obtain ⟨unit, read, -, free⟩ := exists_unit_of_compile success
  obtain ⟨-, -, -, reserved⟩ := unit?_eq_ok read
  rwa [reserved] at free

/-- A successful declaration hides nothing that is reserved, if nothing was hidden before. -/
lemma declare_unshadowed {env : Environment} {d : ClassDecl} {t' : ClassTable} {c : ClassId}
    (unshadowed : ∀ d ∈ t.classes, Unshadowed d) (success : (t.declare env d).outcome = .ok (t', c)) :
    ∀ d ∈ t'.classes, Unshadowed d := by
  obtain ⟨-, -, ancestors, -, added⟩ := declare_eq_ok_iff.1 success
  rcases added with ⟨-, compiled, accepted, added⟩ | ⟨-, -, added⟩
  · cases added
    intro d member
    rcases List.mem_append.1 member with old | new
    · exact unshadowed d old
    · rcases List.mem_cons.1 new with rfl | new
      · rintro compiled' members ⟨⟩ name reserved
        rw [OrderedMap.lookup_eq_none]
        intro held
        obtain ⟨p, named, rfl⟩ := List.mem_map.1 held
        obtain ⟨q, place, rfl⟩ := List.mem_map.1 named
        exact unreserved_of_compile accepted q.1 (List.fst_mem_of_mem_zipIdx place) reserved
      · obtain ⟨e, -, rfl⟩ := List.mem_map.1 new
        exact nofun
  · cases added
    intro d member
    rcases List.mem_append.1 member with old | new
    · exact unshadowed d old
    · rw [List.mem_singleton.1 new]
      exact nofun

/-- Nothing that is reserved is hidden in a table that declarations make. -/
lemma Reachable.unshadowed (reachable : t.Reachable) : ∀ d ∈ t.classes, Unshadowed d := by
  induction reachable with
  | empty => exact fun d member => absurd member List.not_mem_nil
  | declare _ _ success ih => exact declare_unshadowed ih success

/-- No class has a case class under a reserved name. -/
lemma ownMember?_reserved (unshadowed : ∀ d ∈ t.classes, Unshadowed d) {name : String}
    (reserved : name ∈ reservedNames) (n : Nat) : t.ownMember? (.user n) name = none := by
  unfold ownMember?
  split
  · rename_i compiled members body
    obtain ⟨d, found, held⟩ := Option.map_eq_some_iff.1 body
    exact unshadowed d (List.mem_of_getElem? found) compiled members held name reserved
  · rfl

/-- What a class itself has for its documentation is the catalogue of its own unit. -/
lemma ownAttribute?_catalogue (unshadowed : ∀ d ∈ t.classes, Unshadowed d) (n : Nat) :
    t.ownAttribute? catalogueAttribute (.user n) =
      (t.ownCompiled? (.user n)).map fun u => .catalogue u.catalogue := by
  have reserved : catalogueAttribute ∈ reservedNames := by decide
  have hidden := ownMember?_reserved unshadowed reserved n
  simp [ownAttribute?, hidden]

/-- A class below the root, other than the root itself, answers with a unit, and the first of its classes that has
documentation has the catalogue of that unit. -/
lemma findSome?_catalogue (formed : ∀ d ∈ t.classes, t.Formed d) (unshadowed : ∀ d ∈ t.classes, Unshadowed d)
    {c : ClassId} (rooted : t.isTaxonomyClass c = true) (proper : c ≠ .root) :
    ∃ u, t.compiled? c = some u ∧
      (t.order c).findSome? (t.ownAttribute? catalogueAttribute) = some (.catalogue u.catalogue) := by
  obtain ⟨n, d, rfl, found, rooted⟩ :=
    user_of_root_mem_order (by simpa [isTaxonomyClass, derives] using rooted) proper
  have self : t.find? (.user n) = some d := found
  have own (m : Nat) := ownAttribute?_catalogue unshadowed m
  cases formed d (List.mem_of_getElem? found) with
  | @declared _ _ _ _ unit members =>
    have mine : t.ownCompiled? (.user n) = some unit := by simp [ownCompiled?, self]
    refine ⟨unit, ?_, ?_⟩
    · rw [compiled?, order_user found, List.findSome?_cons, mine]
    · rw [order_user found, List.findSome?_cons, own, mine]
      rfl
  | @case _ _ owner _ unit e _ above member =>
    have none : t.ownCompiled? (.user n) = none := by simp [ownCompiled?, self]
    refine ⟨unit, ?_, ?_⟩
    · rw [compiled?, order_user found, List.findSome?_cons, none, List.findSome?_cons, above]
    · rw [order_user found, List.findSome?_cons, own, none, Option.map_none, List.findSome?_cons, own, above]
      rfl
  | plain rootless => exact absurd rooted rootless

/-- The catalogue of that unit is the documentation of the class. -/
lemma Reachable.getAttribute_catalogue (reachable : t.Reachable) {c : ClassId}
    (rooted : t.isTaxonomyClass c = true) (proper : c ≠ .root) :
    ∃ u, t.compiled? c = some u ∧ t.getAttribute c catalogueAttribute = .ok (.catalogue u.catalogue) := by
  obtain ⟨u, answers, first⟩ := findSome?_catalogue reachable.formed reachable.unshadowed rooted proper
  have unsaid : t.selfDescription? c catalogueAttribute = none := by
    simp [selfDescription?, catalogueAttribute]
  refine ⟨u, answers, ?_⟩
  rw [getAttribute, if_neg (by decide), unsaid, first]
  rfl

end Errata.ClassTable
