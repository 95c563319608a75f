import Errata.Docs.Record
import Errata.Proofs.Docs.Bracketing
import Mathlib

/-!
# Records and rows of leaves

A record holds what was made when errors were documented or combined, an artifact only the row of its leaves.
The two agree: combining records is combining artifacts (`Artifact.combine_record`), so that the records that
are ever made are those of the artifacts (`Record.made_iff`), and what is read from one is what the artifact
computes (`Artifact.record_stores`).
-/

namespace Errata.Docs

/-- What is read from a record is what an artifact computes. -/
structure Record.Stores (r : Record) (a : Artifact) : Prop where
  name : r.name = a.name
  status : r.status = a.status
  codes : r.codes.map Wording.text = a.codes
  schema : r.schema = a.schema
  response : r.response.json = a.response
  responses : r.responses = a.responses
  description : r.description = a.description
  leaves : r.leaves = a.leaves.map .single
  parts : r.parts = a.parts.map .single

/-- So its components are those of the artifact. -/
lemma Record.Stores.components {r : Record} {a : Artifact} (stores : r.Stores a) : r.components = a.components := by
  have rows : (a.leaves.map Record.single).map (fun l => (l.name, l.schema)) =
      a.leaves.map fun l => (l.name, l.schema) := List.map_map
  rw [Record.components, Record.schemas, stores.leaves, stores.name, stores.schema, stores.response, rows]
  rfl

namespace Artifact

variable {a b : Artifact}

/-- An artifact that is not combined is that of its first leaf. -/
lemma eq_single (apart : a.isCombined = false) : a = single a.first := by
  obtain ⟨first, others, shared⟩ := a
  cases others with
  | nil => rfl
  | cons second others => cases apart

lemma record_of_combined (combined : a.isCombined = true) : a.record =
    .build a.name a.status (a.leaves.map Leaf.code) a.schema (.literal a.description) (a.leaves.map .single) :=
  if_pos combined

/-- What is kept of an artifact stores it. -/
theorem record_stores (a : Artifact) : a.record.Stores a := by
  cases combined : a.isCombined with
  | false =>
    rw [eq_single combined]
    exact ⟨(String.intercalate_singleton).symm, rfl, rfl, rfl, rfl, rfl, rfl, rfl, rfl⟩
  | true =>
    have response : a.response = StoredResponse.json
        ⟨.literal a.description, .single "application/json" (.single "schema" (schemaRef a.name))⟩ := by
      rw [Artifact.response, responseDescription, if_pos combined]
      rfl
    rw [record_of_combined combined]
    refine ⟨rfl, rfl, List.map_map, rfl, response.symm, ?_, rfl, rfl, ?_⟩
    · rw [responses, response]
      rfl
    · rw [parts, if_pos combined]
      rfl

/-- The records of leaves have their codes. -/
lemma codes_leaves (row : List Leaf) : (row.map Record.single).flatMap Record.codes = row.map Leaf.code := by
  simp [List.flatMap_map, Record.single, Record.build, ← List.map_eq_flatMap]

/-- The alternatives of the records of leaves are those of the artifact that has the leaves. -/
lemma alternatives_record (a : Artifact) : Record.alternatives (a.leaves.map Record.single) = a.alternatives := by
  have distinct : ((a.leaves.map Leaf.code).map Wording.text).Nodup ∧
      (a.leaves.map Leaf.code).length = (a.leaves.map Record.single).length ↔ a.hasDistinctCodes = true := by
    rw [hasDistinctCodes, decide_eq_true_iff, List.map_map, List.length_map, List.length_map]
    exact and_iff_left rfl
  have mapping : ((a.leaves.map Record.single).flatMap fun r =>
      r.codes.head?.toList.map fun code => (code.text, Json.str (schemaPath ++ r.name))) =
      a.leaves.map fun l => (l.code.text, .str (schemaPath ++ l.name)) := by
    simp [List.flatMap_map, Record.single, Record.build, ← List.map_eq_flatMap]
  rw [Record.alternatives, codes_leaves, if_congr distinct rfl rfl, mapping, List.map_map]
  rfl

/-- The record of a combined artifact is what the records of its leaves are combined to. -/
lemma record_eq_build (combined : a.isCombined = true) : a.record =
    .build ("Or".intercalate ((a.leaves.map Record.single).map Record.name)) a.status
      ((a.leaves.map Record.single).flatMap Record.codes) (Record.alternatives (a.leaves.map Record.single))
      (.literal (" | ".intercalate ((a.leaves.map Record.single).map Record.description)))
      (a.leaves.map Record.single) := by
  rw [record_of_combined combined, codes_leaves, alternatives_record, schema_of_combined combined, List.map_map,
    List.map_map]
  rfl

/-- Combining the records of two artifacts is combining the artifacts. -/
theorem combine_record (a b : Artifact) : a.record.combine b.record = (a.combine b).map record := by
  by_cases same : b.status = a.status
  · obtain ⟨c, made, status, leaves⟩ := exists_combine same
    have combined : c.isCombined = true := by
      have one : 1 ≤ a.leaves.length := Nat.le_add_left 1 _
      have one' : 1 ≤ b.leaves.length := Nat.le_add_left 1 _
      rw [isCombined_iff, leaves, List.length_append]
      omega
    have rows : a.record.leaves ++ b.record.leaves = c.leaves.map Record.single := by
      rw [(record_stores a).leaves, (record_stores b).leaves, leaves, List.map_append]
    rw [made, Record.combine, (record_stores a).status, (record_stores b).status, if_neg (not_not.2 same.symm), rows,
      ← status]
    exact congrArg Except.ok (record_eq_build combined).symm
  · rw [combine, dif_neg same, Record.combine, (record_stores a).status, (record_stores b).status,
      if_pos (Ne.symm same), (record_stores a).name, (record_stores b).name]
    rfl

end Artifact

/-- The records that are made: those of single errors, and what records that were made are combined to. -/
inductive Record.Made : Record → Prop
  | single (l : Leaf) : Made (.single l)
  | combine {r s t : Record} (first : Made r) (second : Made s) (combined : r.combine s = .ok t) : Made t

/-- The records that are made are those of the artifacts. -/
theorem Record.made_iff {r : Record} : r.Made ↔ ∃ a : Artifact, a.record = r := by
  constructor
  · intro made
    induction made with
    | single l => exact ⟨.single l, rfl⟩
    | combine _ _ combined first second =>
      obtain ⟨a, rfl⟩ := first
      obtain ⟨b, rfl⟩ := second
      rw [Artifact.combine_record] at combined
      cases made : a.combine b with
      | error v =>
        rw [made] at combined
        cases combined
      | ok c =>
        rw [made] at combined
        exact ⟨c, Except.ok.inj combined⟩
  · -- A row is what the row without its last leaf and that leaf are combined to.
    rintro ⟨⟨first, others, shared⟩, rfl⟩
    induction others using List.reverseRecOn with
    | nil => exact .single first
    | append_singleton others last ih =>
      have shared' : ∀ l ∈ others, l.status = first.status := fun l member =>
        shared l (List.mem_append_left _ member)
      have joined : Artifact.combine ⟨first, others, shared'⟩ (.single last) =
          .ok ⟨first, others ++ [last], shared⟩ :=
        Artifact.combine_eq_ok_iff.2 ⟨shared last (by simp), rfl⟩
      refine .combine (ih shared') (.single last) ?_
      rw [show Record.single last = (Artifact.single last).record from rfl, Artifact.combine_record, joined]
      rfl

end Errata.Docs
