import Errata.Proofs.Class.Bodies

/-!
# Types among the ancestors of a class

The values of a class have one inner form, so that a class that has a type of values among its ancestors takes its
form from such a type (`Laid.formed`). A class below the root has the form of a failure. So none of its ancestors is a
type of values, in whatever order it names its bases (`declare_laid`): besides classes of the table there are only the
root and those that the root derives from.
-/

namespace Errata

namespace Linearization

variable {α : Type} [DecidableEq α]

/-- The next class stands in no tail. -/
lemma not_mem_tail_of_candidate? {ls : List (List α)} {c : α} (next : candidate? ls = some c) :
    ∀ l ∈ ls, c ∉ l.tail := by
  obtain ⟨l, -, good⟩ := List.exists_of_findSome?_eq_some next
  cases l with
  | nil => cases good
  | cons d rest =>
    rw [goodHead?] at good
    split_ifs at good with free
    cases good
    intro l there
    simpa using List.all_eq_true.1 free l there

/-- What stands before another class in one of the lists stands before it in the order. -/
lemma mem_of_merge_eq_append {ls : List (List α)} {before after front back : List α} {c d : α}
    (merged : merge ls = .ok (before ++ d :: after)) (listed : front ++ c :: back ∈ ls) (behind : d ∈ back) :
    c ∈ before := by
  -- Along the order: as long as `c` has not been taken, `d` stands in a tail and cannot be taken.
  induction before generalizing ls front with
  | nil =>
    obtain ⟨x, rest, next, -, same⟩ | ⟨same, -⟩ := merge_eq_ok merged
    · cases same
      refine absurd ?_ (not_mem_tail_of_candidate? next _ listed)
      cases front with
      | nil => exact behind
      | cons y front => exact List.mem_append_right _ (List.mem_cons_of_mem _ behind)
    · cases same
  | cons x before ih =>
    obtain ⟨x', rest, next, left, same⟩ | ⟨same, -⟩ := merge_eq_ok merged
    · cases same
      by_cases taken : c = x
      · rw [taken]
        exact List.mem_cons_self
      · have still : ∃ front', dropHead x (front ++ c :: back) = front' ++ c :: back := by
          cases front with
          | nil => exact ⟨[], by simp [dropHead, taken]⟩
          | cons y front =>
            by_cases head : y = x
            · exact ⟨front, by simp [dropHead, head]⟩
            · exact ⟨y :: front, by simp [dropHead, head]⟩
        obtain ⟨front', still⟩ := still
        have listed' : front' ++ c :: back ∈ advance x ls := still ▸ List.mem_map_of_mem listed
        exact List.mem_cons_of_mem _ (ih left listed')
    · cases same

end Linearization

open ClassDecl

/-- A type of values: one that is not among the root and its ancestors. -/
def ClassId.IsForeign (c : ClassId) : Prop := ∃ name, c = .builtin name ∧ ClassId.ofType name = c

namespace ClassTable

/-- What is known of the order of a class: a type of values gives the class its inner form, and the root comes with the
class of all failures and with no type of values. -/
structure Laid (order : List ClassId) : Prop where
  formed : (∃ a ∈ order, a.IsForeign) → ∃ name, order.findSome? ownLayout? = some name ∧ (ClassId.builtin name).IsForeign
  failing : .root ∈ order → .baseException ∈ order
  pure : .root ∈ order → ∀ a ∈ order, ¬a.IsForeign

/-- The class of a type is a type of values, or one of three that the root derives from. -/
lemma ofType_cases (name : String) :
    (ClassId.ofType name = .builtin name ∧ ownLayout? (.builtin name) = some name) ∨
      name = "object" ∨ name = "BaseException" ∨ name = "Exception" := by
  unfold ClassId.ofType
  split
  · exact .inr (.inl rfl)
  · exact .inr (.inr (.inl rfl))
  · exact .inr (.inr (.inr rfl))
  · rename_i object _ exception
    exact .inl ⟨rfl, if_neg fun taken => taken.elim object exception⟩

/-- The orders of the three. -/
lemma order_of_type (t : ClassTable) :
    t.order (.builtin "object") = [.object] ∧ t.order (.builtin "BaseException") = [.baseException, .object] ∧
      t.order (.builtin "Exception") = [.exception, .baseException, .object] := by
  have object : Script.lineage "object" = ["object"] := by decide +kernel
  have failure : Script.lineage "BaseException" = ["BaseException", "object"] := by decide +kernel
  have exception : Script.lineage "Exception" = ["Exception", "BaseException", "object"] := by decide +kernel
  simp only [order, object, failure, exception]
  exact ⟨rfl, rfl, rfl⟩

variable {t : ClassTable}

/-- A type of values is the first in its own order. -/
lemma foreign_mem_order {a : ClassId} (foreign : a.IsForeign) : a ∈ t.order a := by
  obtain ⟨name, rfl, same⟩ := foreign
  show _ ∈ ClassId.ofType name :: _
  rw [same]
  exact List.mem_cons_self

/-- A type of values adds its inner form. -/
lemma ownLayout?_of_foreign {a : ClassId} (foreign : a.IsForeign) : ∃ name, ownLayout? a = some name := by
  obtain ⟨name, rfl, same⟩ := foreign
  obtain ⟨-, own⟩ | rfl | rfl | rfl := ofType_cases name
  · exact ⟨name, own⟩
  all_goals exact absurd same (by decide)

/-- A class that adds an inner form has that form. -/
lemma layout?_of_ownLayout? {a : ClassId} {form : String} (own : ownLayout? a = some form) :
    layout? t a = some form := by
  cases a with
  | baseException => exact own
  | builtin name =>
    obtain ⟨same, -⟩ | rfl | rfl | rfl := ofType_cases name
    · show (ClassId.ofType name :: _).findSome? ownLayout? = _
      rw [same, List.findSome?_cons, own]
    · cases own
    · rw [layout?, t.order_of_type.2.1]
      exact own
    · cases own
  | _ => cases own

/-- What adds the form of a type of values is that type. -/
lemma eq_builtin_of_ownLayout? {a : ClassId} {name : String} (own : ownLayout? a = some name)
    (foreign : (ClassId.builtin name).IsForeign) : a = .builtin name := by
  cases a with
  | baseException =>
    cases own
    obtain ⟨name, ⟨⟩, same⟩ := foreign
    exact absurd same (by decide)
  | builtin name' =>
    rw [ownLayout?] at own
    split_ifs at own
    exact congrArg ClassId.builtin (Option.some.inj own)
  | _ => cases own

/-! ## Orders -/

/-- No type of values stands beside no type at all. -/
lemma laid_of_pure {order : List ClassId} (failing : .root ∈ order → .baseException ∈ order)
    (pure : ∀ a ∈ order, ¬a.IsForeign) : Laid order where
  formed := fun ⟨a, member, foreign⟩ => absurd foreign (pure a member)
  failing := failing
  pure _ := pure

/-- A class of the table is no type of values. -/
lemma Laid.cons_user {order : List ClassId} (laid : Laid order) (n : Nat) : Laid (.user n :: order) where
  formed := by
    rintro ⟨a, member, foreign⟩
    rcases List.mem_cons.1 member with rfl | member
    · obtain ⟨name, same, -⟩ := foreign
      cases same
    · exact laid.formed ⟨a, member, foreign⟩
  failing rooted := List.mem_cons_of_mem _ (laid.failing ((List.mem_cons.1 rooted).resolve_left nofun))
  pure rooted := by
    refine List.forall_mem_cons.2 ⟨?_, laid.pure ((List.mem_cons.1 rooted).resolve_left nofun)⟩
    rintro ⟨name, same, -⟩
    cases same

/-- Where the ancestors of all classes are laid, so is every order. -/
lemma laid_order (laid : ∀ d ∈ t.classes, Laid d.ancestors) (c : ClassId) : Laid (t.order c) := by
  have three {order : List ClassId} (failing : .root ∈ order → .baseException ∈ order)
      (known : ∀ a ∈ order, a = .root ∨ a = .exception ∨ a = .baseException ∨ a = .object) : Laid order := by
    refine laid_of_pure failing fun a member foreign => ?_
    obtain ⟨name, rfl, -⟩ := foreign
    simpa using known _ member
  cases c with
  | user n =>
    cases found : t.classes[n]? with
    | some d =>
      rw [order_user found]
      exact (laid d (List.mem_of_getElem? found)).cons_user n
    | none =>
      have alone : t.order (.user n) = [.user n] := by simp [order, found]
      have bare : Laid [] := three (by simp) (by simp)
      rw [alone]
      exact bare.cons_user n
  | builtin name =>
    obtain ⟨same, form⟩ | rfl | rfl | rfl := ofType_cases name
    · have rootless : .root ∉ t.order (.builtin name) := by
        intro rooted
        obtain ⟨name', -, same⟩ := List.mem_map.1 rooted
        unfold ClassId.ofType at same
        split at same <;> cases same
      exact ⟨fun _ => ⟨name, layout?_of_ownLayout? form, name, rfl, same⟩, fun rooted => absurd rooted rootless,
        fun rooted => absurd rooted rootless⟩
    · rw [t.order_of_type.1]
      exact three (by simp) (by simp)
    · rw [t.order_of_type.2.1]
      exact three (by simp) (by simp)
    · rw [t.order_of_type.2.2]
      exact three (by simp) (by simp)
  | _ => exact three (by simp [order]) (by simp [order])

/-- Where something in the order of a class adds a form, the class has one. -/
lemma exists_layout? {a c : ClassId} {form : String} (member : a ∈ t.order c) (own : ownLayout? a = some form) :
    ∃ name, layout? t c = some name :=
  Option.isSome_iff_exists.1 (List.findSome?_isSome_iff.2 ⟨a, member, by rw [own]; rfl⟩)

section Merge

variable {parents ancestors : List ClassId}
  (merged : Linearization.merge (parents.map t.order ++ [parents]) = .ok ancestors)
  (agree : ∀ b ∈ parents, ∀ b' ∈ parents, ∀ x y, layout? t b = some x → layout? t b' = some y → x = y)
include merged

/-- What stands among the ancestors of a new class, and in its own order, stands in the order of a parent. -/
lemma exists_parent {a : ClassId} (own : a ∈ t.order a) (member : a ∈ ancestors) : ∃ b ∈ parents, a ∈ t.order b := by
  obtain ⟨b, parent, there⟩ | parent := (mem_ancestors_iff merged).1 member
  · exact ⟨b, parent, there⟩
  · exact ⟨a, parent, own⟩

include agree

/-- A new class has the form that its parents have. -/
lemma findSome?_of_merge {b : ClassId} (parent : b ∈ parents) {x y : String} (form : layout? t b = some x)
    (first : ancestors.findSome? ownLayout? = some y) : y = x := by
  obtain ⟨before, z, after, rfl, own, earlier⟩ := List.findSome?_eq_some_iff.1 first
  obtain ⟨b', parent', there⟩ | parent' :=
    (mem_ancestors_iff merged).1 (List.mem_append_right before List.mem_cons_self)
  · obtain ⟨x', form'⟩ := exists_layout? there own
    rw [← agree b' parent' b parent x' x form' form]
    -- The first class with a form in the order of this parent comes first in the order of the new class as well.
    obtain ⟨front, z', back, order, own', earlier'⟩ := List.findSome?_eq_some_iff.1 form'
    rw [order] at there
    rcases List.mem_append.1 there with ahead | there
    · rw [earlier' z ahead] at own
      cases own
    · rcases List.mem_cons.1 there with rfl | behind
      · exact Option.some.inj (own.symm.trans own')
      · have listed : front ++ z' :: back ∈ parents.map t.order ++ [parents] :=
          List.mem_append_left _ (order ▸ List.mem_map_of_mem parent')
        rw [earlier z' (Linearization.mem_of_merge_eq_append merged listed behind)] at own'
        cases own'
  · exact agree z parent' b parent y x (layout?_of_ownLayout? own) form

/-- The order of a new class is laid where those of its parents are. -/
lemma laid_merge (laid : ∀ b ∈ parents, Laid (t.order b)) : Laid ancestors := by
  have foreignForm : (∃ a ∈ ancestors, a.IsForeign) → ∃ b ∈ parents, ∃ name, layout? t b = some name ∧
      (ClassId.builtin name).IsForeign := by
    rintro ⟨a, member, foreign⟩
    obtain ⟨b, parent, there⟩ := exists_parent merged (foreign_mem_order foreign) member
    exact ⟨b, parent, (laid b parent).formed ⟨a, there, foreign⟩⟩
  have rootedParent : .root ∈ ancestors → ∃ b ∈ parents, .root ∈ t.order b :=
    exists_parent merged (a := .root) List.mem_cons_self
  constructor
  · rintro ⟨a, member, foreign⟩
    obtain ⟨b, parent, name, form, type⟩ := foreignForm ⟨a, member, foreign⟩
    obtain ⟨own, added⟩ := ownLayout?_of_foreign foreign
    obtain ⟨y, first⟩ : ∃ y, ancestors.findSome? ownLayout? = some y :=
      Option.isSome_iff_exists.1 (List.findSome?_isSome_iff.2 ⟨a, member, by rw [added]; rfl⟩)
    exact ⟨y, first, findSome?_of_merge merged agree parent form first ▸ type⟩
  · intro rooted
    obtain ⟨b, parent, there⟩ := rootedParent rooted
    exact (mem_ancestors_iff merged).2 (.inl ⟨b, parent, (laid b parent).failing there⟩)
  · intro rooted a member foreign
    obtain ⟨b, parent, there⟩ := rootedParent rooted
    obtain ⟨b', parent', name, form, type⟩ := foreignForm ⟨a, member, foreign⟩
    -- The parent below the root has the form of a failure, or of a type of values that is not in its order.
    obtain ⟨name', form'⟩ := exists_layout? ((laid b parent).failing there) rfl
    cases agree b parent b' parent' name' name form' form
    obtain ⟨z, inOrder, own⟩ := List.exists_of_findSome?_eq_some form'
    cases eq_builtin_of_ownLayout? own type
    exact (laid b parent).pure there _ inOrder type

end Merge

/-! ## Declarations -/

/-- The bases of a class that is made have one form. -/
lemma agree_of_checkBases {d : ClassDecl} (right : d.checkBases t = .ok ()) :
    ∀ b ∈ d.parents, ∀ b' ∈ d.parents, ∀ x y, layout? t b = some x → layout? t b' = some y → x = y := by
  intro b parent b' parent' x y form form'
  rw [parents] at parent parent'
  split_ifs at parent parent' with free
  · cases List.mem_singleton.1 parent
    cases form
  · rw [checkBases] at right
    split at right
    · cases right
    · split_ifs at right with several
      have place : x ∈ (d.bases.filterMap (layout? t)).eraseDups :=
        List.mem_eraseDups.2 (List.mem_filterMap.2 ⟨b, parent, form⟩)
      have place' : y ∈ (d.bases.filterMap (layout? t)).eraseDups :=
        List.mem_eraseDups.2 (List.mem_filterMap.2 ⟨b', parent', form'⟩)
      have alone : (d.bases.filterMap (layout? t)).eraseDups.length = 1 :=
        Nat.le_antisymm (Nat.le_of_not_lt several) (List.length_pos_of_mem place)
      obtain ⟨z, forms⟩ := List.length_eq_one_iff.1 alone
      rw [forms] at place place'
      exact (List.mem_singleton.1 place).trans (List.mem_singleton.1 place').symm

/-- The ancestors of every class are laid after a successful declaration, if they were before. -/
lemma declare_laid {env : Environment} {d : ClassDecl} {t' : ClassTable} {c : ClassId}
    (laid : ∀ d ∈ t.classes, Laid d.ancestors) (success : (t.declare env d).outcome = .ok (t', c)) :
    ∀ d ∈ t'.classes, Laid d.ancestors := by
  obtain ⟨right, -, ancestors, ordered, added⟩ := declare_eq_ok_iff.1 success
  have new : Laid ancestors :=
    laid_merge (ancestors_eq_ok ordered) (agree_of_checkBases right) fun b _ => laid_order laid b
  rcases added with ⟨-, compiled, -, added⟩ | ⟨-, -, added⟩
  · cases added
    intro d' member
    rcases List.mem_append.1 member with old | member
    · exact laid d' old
    · rcases List.mem_cons.1 member with rfl | member
      · exact new
      · obtain ⟨e, -, rfl⟩ := List.mem_map.1 member
        exact new.cons_user _
  · cases added
    intro d' member
    rcases List.mem_append.1 member with old | member
    · exact laid d' old
    · cases List.mem_singleton.1 member
      exact new

end ClassTable

end Errata
