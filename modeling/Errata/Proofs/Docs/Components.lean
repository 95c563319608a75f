import Errata.Docs.Catalogue
import Errata.Proofs.OrderedMap
import Mathlib

/-!
# Components set over each other

Components are set over others section by section. That is associative and idempotent, and the empty components
change nothing, so that a row of components is joined from any two parts of it (`join_append`).
-/

namespace Errata.Docs.Components

lemma update_assoc (b c d : Components) : (b.update c).update d = b.update (c.update d) := by
  simp only [update, OrderedMap.update_assoc]

lemma update_self (c : Components) : c.update c = c := by
  simp only [update, OrderedMap.update_self]

lemma empty_update (c : Components) : empty.update c = c := by
  simp only [update, empty, OrderedMap.empty_update]

/-- Components are joined to those that are there as they are joined by themselves. -/
lemma foldl_update (c : Components) (cs : List Components) : cs.foldl update c = c.update (join cs) := by
  induction cs generalizing c with
  | nil => rfl
  | cons d cs ih => rw [join, List.foldl_cons, List.foldl_cons, empty_update, ih, ih d, update_assoc]

/-- Components that are joined are set over the first of them. -/
lemma join_cons (c : Components) (cs : List Components) : join (c :: cs) = c.update (join cs) := by
  rw [join, List.foldl_cons, empty_update, foldl_update]

/-- Rows of components that are joined one behind the other are set over each other. -/
lemma join_append (cs ds : List Components) : join (cs ++ ds) = (join cs).update (join ds) := by
  rw [join, List.foldl_append, foldl_update]
  rfl

lemma join_singleton (c : Components) : join [c] = c := empty_update c

end Errata.Docs.Components
