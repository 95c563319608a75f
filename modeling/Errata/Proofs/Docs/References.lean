import Errata.Docs.Catalogue
import Errata.Proofs.OrderedMap
import Mathlib

/-!
# References

What the documentation of an error refers to. A response refers to the schema of its own artifact. The
schema of a single error refers to nothing, and that of combined errors to the schemas of its leaves, as
its alternatives and as what their codes stand for (`Artifact.exists_leaf_of_mem_targets`). So what an
artifact refers to is always the schema of an artifact that it writes itself.
-/

namespace Errata

namespace Json

mutual

/-- A document and everything inside it. -/
def nodes : Json → List Json
  | arr items => arr items :: nodesOfItems items
  | obj members => obj members :: nodesOfMembers members
  | j => [j]

/-- Everything inside a list of items. -/
def nodesOfItems : List Json → List Json
  | [] => []
  | j :: js => j.nodes ++ nodesOfItems js

/-- Everything inside a list of members. -/
def nodesOfMembers : List (String × Json) → List Json
  | [] => []
  | (_, j) :: ms => j.nodes ++ nodesOfMembers ms

end

/-- What the discriminator of an object maps to. -/
def mapped (j : Json) : List Json :=
  match (j.member? "discriminator").bind (member? "mapping") with
  | some (obj members) => members.map Prod.snd
  | _ => []

/-- What an object points to: with a reference, or with a discriminator. -/
def pointed (j : Json) : List Json := (j.member? "$ref").toList ++ j.mapped

/-- Everything that a document refers to, at any depth. -/
def targets (j : Json) : List Json := j.nodes.flatMap pointed

lemma nodesOfItems_eq (js : List Json) : nodesOfItems js = js.flatMap nodes := by
  induction js with
  | nil => rfl
  | cons j js ih => rw [nodesOfItems, ih, List.flatMap_cons]

lemma nodesOfMembers_eq (ms : List (String × Json)) :
    nodesOfMembers ms = ms.flatMap fun m => m.2.nodes := by
  induction ms with
  | nil => rfl
  | cons m ms ih => rw [nodesOfMembers, ih, List.flatMap_cons]

lemma targets_arr (items : List Json) : (arr items).targets = items.flatMap targets := by
  unfold targets
  rw [nodes, nodesOfItems_eq, List.flatMap_cons, List.flatMap_assoc]
  rfl

lemma targets_obj (members : List (String × Json)) :
    (obj members).targets = (obj members).pointed ++ members.flatMap fun m => m.2.targets := by
  unfold targets
  rw [nodes, nodesOfMembers_eq, List.flatMap_cons, List.flatMap_assoc]

/-- What is found under a key is the value of a member. -/
lemma mem_of_member? {key : String} {members : List (String × Json)} {j : Json}
    (found : (obj members).member? key = some j) : j ∈ members.map Prod.snd :=
  List.mem_map_of_mem (OrderedMap.mem_of_lookup found)

/-- An object all of whose members are texts refers to nothing but them. -/
lemma mem_of_mem_targets {members : List (String × Json)} {r : Json}
    (texts : ∀ j ∈ members.map Prod.snd, ∃ s, j = str s) (member : r ∈ (obj members).targets) :
    r ∈ members.map Prod.snd := by
  have inside : members.flatMap (fun m => m.2.targets) = [] := by
    refine List.flatMap_eq_nil_iff.2 fun m there => ?_
    obtain ⟨s, text⟩ := texts _ (List.mem_map_of_mem there)
    rw [text]
    rfl
  have unmapped : (obj members).mapped = [] := by
    unfold mapped
    cases found : (obj members).member? "discriminator" with
    | none => rfl
    | some j =>
      obtain ⟨s, rfl⟩ := texts j (mem_of_member? found)
      rfl
  rw [targets_obj, inside, List.append_nil, pointed, unmapped, List.append_nil,
    Option.mem_toList] at member
  exact mem_of_member? member

end Json

namespace Docs

/-- What refers to the schema of a name. -/
def schemaTarget (name : String) : Json := .str (schemaPath ++ name)

lemma schemaTarget_injective : Function.Injective schemaTarget := by
  intro n m same
  exact (String.append_right_inj schemaPath).1 (Json.str.inj same)

/-- The schema of a single error refers to nothing. -/
lemma Leaf.targets_schema (l : Leaf) : l.schema.targets = [] := by
  unfold schema properties
  cases l.hint <;> cases l.carriesContent <;> rfl

namespace Artifact

/-- A response refers to the schema of its artifact, and to nothing else. -/
lemma targets_response (a : Artifact) : a.response.targets = [schemaTarget a.name] := rfl

/-- Combined errors refer to the schemas of the leaves. -/
lemma exists_leaf_of_mem_alternatives {a : Artifact} {r : Json} (member : r ∈ a.alternatives.targets) :
    ∃ l ∈ a.leaves, r = schemaTarget l.name := by
  suffices there : r ∈ a.leaves.map fun l => schemaTarget l.name by
    obtain ⟨l, leaf, rfl⟩ := List.mem_map.1 there
    exact ⟨l, leaf, rfl⟩
  have offered : (Json.arr (a.leaves.map fun l => schemaRef l.name)).targets =
      a.leaves.map fun l => schemaTarget l.name := by
    rw [Json.targets_arr, List.flatMap_map]
    exact List.flatMap_pure_eq_map _ _
  unfold alternatives at member
  rw [Json.targets_obj, List.flatMap_cons, offered] at member
  split_ifs at member
  · -- With a discriminator the codes lead to the leaves too, seen from the schema and from within.
    have values : (a.leaves.map fun l => (l.code.text, schemaTarget l.name)).map Prod.snd =
        a.leaves.map fun l => schemaTarget l.name := by
      rw [List.map_map]
      rfl
    have mapped : a.discriminator.targets =
        (Json.obj (a.leaves.map fun l => (l.code.text, schemaTarget l.name))).targets := by
      rw [discriminator, Json.targets_obj]
      exact List.append_nil _
    rw [List.flatMap_singleton, mapped] at member
    rcases List.mem_append.1 member with seen | inside
    · exact values ▸ seen
    rcases List.mem_append.1 inside with there | inside
    · exact there
    · rw [← values]
      refine Json.mem_of_mem_targets ?_ inside
      rw [values]
      simp [schemaTarget]
  · rw [List.flatMap_nil, List.append_nil] at member
    exact member

/-- What the schema of an artifact refers to is the schema of one of its leaves. -/
lemma exists_leaf_of_mem_targets {a : Artifact} {r : Json} (member : r ∈ a.schema.targets) :
    ∃ l ∈ a.leaves, r = schemaTarget l.name := by
  unfold schema at member
  split_ifs at member
  · exact exists_leaf_of_mem_alternatives member
  · rw [Leaf.targets_schema] at member
    cases member

end Artifact

end Docs

end Errata
