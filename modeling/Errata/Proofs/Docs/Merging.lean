import Errata.Docs.Schema
import Mathlib

/-!
# Merging responses

The responses of artifacts are merged one after the other, each under the text of its status. What is merged
already has one entry for every artifact that was added, in their order (`Merges`). The next artifact is added
when its status is new (`Merges.add`), and refused otherwise, in the name of the one that has the status
(`Merges.refuse`). So a row of artifacts is merged just when no status comes twice (`mergeResponses_eq_ok_iff`),
and it is the first status to come again that stops it (`mergeResponses_eq_error`).
-/

namespace Errata.Docs

/-- In a row in which a value comes twice, there is a first place where one comes again. -/
lemma exists_first_repeated {α β : Type*} {f : α → β} {as : List α} (repeated : ¬(as.map f).Nodup) :
    ∃ before owner between a after, as = before ++ owner :: (between ++ a :: after) ∧
      ((before ++ owner :: between).map f).Nodup ∧ f owner = f a := by
  induction as using List.reverseRecOn with
  | nil => simp at repeated
  | append_singleton as a ih =>
    by_cases distinct : (as.map f).Nodup
    · have there : f a ∈ as.map f := by
        by_contra fresh
        refine repeated ?_
        rw [List.map_append, List.map_singleton]
        exact distinct.append (List.nodup_singleton _) (List.disjoint_singleton.2 fresh)
      obtain ⟨owner, member, same⟩ := List.mem_map.1 there
      obtain ⟨before, between, rfl⟩ := List.append_of_mem member
      exact ⟨before, owner, between, a, [], by simp, distinct, same⟩
    · obtain ⟨before, owner, between, b, after, rfl, rest⟩ := ih distinct
      exact ⟨before, owner, between, b, after ++ [a], by simp, rest⟩

namespace Artifact

/-- The text of a status tells which one it is. -/
lemma statusKey_eq_iff {a b : Artifact} : a.statusKey = b.statusKey ↔ a.status = b.status :=
  ⟨fun same => Int.repr_injective same, fun same => congrArg toString same⟩

/-- The entry of an artifact in a merge. -/
def owned (a : Artifact) : String × OwnedResponse := (a.statusKey, ⟨a.name, a.response⟩)

end Artifact

/-- An artifact has one response to add, under its status. -/
lemma addResponses_eq (merged : OrderedMap String OwnedResponse) (a : Artifact) :
    addResponses merged a = addResponse a.name merged (a.statusKey, a.response) := by
  have one : a.responses.entries = [(a.statusKey, a.response)] := rfl
  rw [addResponses, one, List.foldlM_cons]
  exact bind_pure _

/-- What was merged are the responses of a row of artifacts, in their order. -/
def Merges (merged : OrderedMap String OwnedResponse) (row : List Artifact) : Prop :=
  merged.entries = row.map Artifact.owned

namespace Merges

variable {merged : OrderedMap String OwnedResponse} {row : List Artifact} {a : Artifact}

lemma empty : Merges .empty [] := rfl

/-- The next artifact is added when its status is new. -/
lemma add (merges : Merges merged row) (fresh : a.status ∉ row.map Artifact.status) :
    ∃ merged', addResponses merged a = .ok merged' ∧ Merges merged' (row ++ [a]) := by
  have unknown : a.statusKey ∉ merged.entries.map Prod.fst := by
    rw [merges, List.map_map]
    intro there
    obtain ⟨owner, member, same⟩ := List.mem_map.1 there
    exact fresh (List.mem_map.2 ⟨owner, member, Artifact.statusKey_eq_iff.1 same⟩)
  have free : merged.get? a.statusKey = none := by
    rw [Option.eq_none_iff_forall_ne_some]
    intro owned there
    exact unknown (List.mem_map.2 ⟨_, OrderedMap.get?_eq_some_iff.1 there, rfl⟩)
  refine ⟨merged.insert a.statusKey ⟨a.name, a.response⟩, ?_, ?_⟩
  · rw [addResponses_eq, addResponse, free]
  · show OrderedMap.put _ _ _ = _
    rw [OrderedMap.put_of_not_mem unknown, merges, List.map_append]
    rfl

/-- It is refused in the name of the artifact that has its status already. -/
lemma refuse (merges : Merges merged row) {owner : Artifact} (member : owner ∈ row)
    (same : owner.status = a.status) :
    addResponses merged a = .error (.sharedStatus owner.name a.name a.statusKey) := by
  have taken : merged.get? a.statusKey = some ⟨owner.name, owner.response⟩ := by
    rw [OrderedMap.get?_eq_some_iff, merges, ← Artifact.statusKey_eq_iff.2 same]
    exact List.mem_map_of_mem member
  rw [addResponses_eq, addResponse, taken]

/-- Artifacts are added one after the other, as long as all statuses are different. -/
lemma run {rest : List Artifact} (merges : Merges merged row)
    (distinct : ((row ++ rest).map Artifact.status).Nodup) :
    ∃ merged', rest.foldlM addResponses merged = .ok merged' ∧ Merges merged' (row ++ rest) := by
  induction rest generalizing merged row with
  | nil => exact ⟨merged, rfl, by rwa [List.append_nil]⟩
  | cons a rest ih =>
    have fresh : a.status ∉ row.map Artifact.status := by
      rw [List.map_append, List.nodup_append] at distinct
      exact fun there => distinct.2.2 _ there a.status (by simp) rfl
    obtain ⟨next, added, merges⟩ := merges.add fresh
    obtain ⟨merged', others, merges⟩ := ih merges (by rwa [List.append_assoc])
    refine ⟨merged', ?_, by rwa [List.append_assoc] at merges⟩
    rw [List.foldlM_cons, added]
    exact others

/-- What is returned in the end are the responses alone. -/
lemma entries_mapValues (merges : Merges merged row) :
    (merged.mapValues OwnedResponse.response).entries = row.map fun a => (toString a.status, a.response) := by
  show merged.entries.map _ = _
  rw [merges, List.map_map]
  rfl

end Merges

/-- Responses are merged as long as all statuses are different. -/
lemma exists_mergeResponses {as : List Artifact} (distinct : (as.map Artifact.status).Nodup) :
    ∃ merged, mergeResponses as = .ok merged ∧
      merged.entries = as.map fun a => (toString a.status, a.response) := by
  obtain ⟨merged, all, merges⟩ := Merges.empty.run distinct
  exact ⟨_, by rw [mergeResponses, all]; rfl, merges.entries_mapValues⟩

/-- The first artifact whose status came before stops the merge, and both are named. -/
lemma mergeResponses_eq_error {before between after : List Artifact} {owner a : Artifact}
    (distinct : ((before ++ owner :: between).map Artifact.status).Nodup) (same : owner.status = a.status) :
    mergeResponses (before ++ owner :: (between ++ a :: after)) =
      .error (.sharedStatus owner.name a.name (toString a.status)) := by
  obtain ⟨merged, first, merges⟩ : ∃ merged, (before ++ owner :: between).foldlM addResponses .empty = .ok merged ∧
      Merges merged (before ++ owner :: between) := Merges.empty.run distinct
  have row : before ++ owner :: (between ++ a :: after) = (before ++ owner :: between) ++ a :: after := by simp
  have refused := merges.refuse (List.mem_append_right before (List.mem_cons_self (a := owner))) same
  rw [mergeResponses, row, List.foldlM_append, first]
  show Except.map _ (List.foldlM _ merged (a :: after)) = _
  rw [List.foldlM_cons, refused]
  rfl

/-- Responses are merged just when no two artifacts have one status; there is then one entry for each artifact,
in their order. -/
lemma mergeResponses_eq_ok_iff {as : List Artifact} {merged : OrderedMap String Json} :
    mergeResponses as = .ok merged ↔ (as.map Artifact.status).Nodup ∧
      merged.entries = as.map fun a => (toString a.status, a.response) := by
  by_cases distinct : (as.map Artifact.status).Nodup
  · obtain ⟨made, all, entries⟩ := exists_mergeResponses distinct
    rw [all, Except.ok.injEq, ← entries]
    simp only [distinct, true_and]
    constructor
    · rintro rfl
      rfl
    · intro same
      rw [← OrderedMap.ofList_entries made, ← same, OrderedMap.ofList_entries]
  · obtain ⟨before, owner, between, a, after, rfl, apart, same⟩ := exists_first_repeated distinct
    rw [mergeResponses_eq_error apart same]
    exact iff_of_false nofun fun accepted => distinct accepted.1

end Errata.Docs
