import Errata.Proofs.Docs.Alternatives
import Mathlib

/-!
# Bracketing

Artifacts are combined two at a time, in any order of brackets. An artifact is the row of its leaves
(`Artifact.leaves_injective`), and a combination is put together just when its artifacts share a status; the
result is then the artifact of all their leaves (`Combination.result_eq_ok_iff`). So the brackets do not
matter, and everything that the result says can be read off the leaves (`Artifact.Documents`). Where two
statuses differ, every order of brackets fails at two neighbouring runs of the row
(`Combination.exists_of_result_eq_error`).
-/

namespace Errata.Docs

/-- Joining texts that are joined already is joining all of them at once. -/
lemma intercalate_flatMap {α : Type*} {separator : String} {texts : α → List String} {xs : List α}
    (inhabited : ∀ x ∈ xs, texts x ≠ []) : separator.intercalate (xs.flatMap texts) =
      separator.intercalate (xs.map fun x => separator.intercalate (texts x)) := by
  induction xs with
  | nil => rfl
  | cons x rest ih =>
    have ih := ih fun y member => inhabited y (List.mem_cons_of_mem x member)
    cases rest with
    | nil => simp
    | cons y rest =>
      have first : texts x ≠ [] := inhabited x (by simp)
      have behind : (y :: rest).flatMap texts ≠ [] := by
        simp [inhabited y (by simp)]
      rw [List.flatMap_cons, String.intercalate_append_of_ne_nil first behind, ih]
      exact String.intercalate_cons_cons.symm

namespace Artifact

variable {a b c : Artifact}

/-- An artifact is the row of its leaves. -/
lemma leaves_injective : Function.Injective leaves := by
  intro a b row
  obtain ⟨first, others, shared⟩ := a
  obtain ⟨first', others', shared'⟩ := b
  obtain ⟨rfl, rfl⟩ := List.cons.inj row
  rfl

/-- Two artifacts are combined just when they share a status, to the artifact of all their leaves. -/
lemma combine_eq_ok_iff : a.combine b = .ok c ↔ b.status = a.status ∧ c.leaves = a.leaves ++ b.leaves := by
  constructor
  · intro made
    by_cases same : b.status = a.status
    · obtain ⟨ab, made', -, leaves⟩ := exists_combine same
      rw [made'] at made
      cases made
      exact ⟨same, leaves⟩
    · rw [combine, dif_neg same] at made
      cases made
  · rintro ⟨same, leaves⟩
    obtain ⟨ab, made, -, leaves'⟩ := exists_combine same
    rw [made, leaves_injective (leaves'.trans leaves.symm)]

/-- They are not combined just when their statuses differ, and this is said of the two. -/
lemma combine_eq_error_iff {v : Violation} :
    a.combine b = .error v ↔ a.status ≠ b.status ∧ v = .differentStatus a.name a.status b.name b.status := by
  constructor
  · intro failed
    by_cases same : b.status = a.status
    · obtain ⟨ab, made, -⟩ := exists_combine same
      rw [made] at failed
      cases failed
    · rw [combine, dif_neg same] at failed
      cases failed
      exact ⟨Ne.symm same, rfl⟩
  · rintro ⟨differ, rfl⟩
    exact dif_neg differ.symm

/-- The name of an artifact joins those of all its leaves, so that a row of artifacts joins theirs. -/
lemma intercalate_names (row : List Artifact) :
    "Or".intercalate ((row.flatMap leaves).map Leaf.name) = "Or".intercalate (row.map name) := by
  rw [List.map_flatMap]
  exact intercalate_flatMap fun a _ => by simp [leaves]

/-- Everything that an artifact says is said of a row of leaves. -/
structure Documents (a : Artifact) (row : List Leaf) : Prop where
  leaves : a.leaves = row
  parts : a.parts = if 2 ≤ row.length then row else []
  apart : ∀ l ∈ row, (single l).parts = []
  shared : ∀ l ∈ row, l.status = a.status
  name : a.name = "Or".intercalate (row.map Leaf.name)
  codes : a.codes = row.map fun l => l.code.text
  description : a.description = " | ".intercalate (row.map fun l => l.description.shown)
  oneOf : 2 ≤ row.length → a.schema.member? "oneOf" = some (.arr (row.map fun l => schemaRef l.name))
  discriminator : 2 ≤ row.length → a.schema.member? "discriminator" =
    if (row.map fun l => l.code.text).Nodup then
      some (.obj [("propertyName", .str "code"),
        ("mapping", .obj (row.map fun l => (l.code.text, .str (schemaPath ++ l.name))))])
    else none
  statuses : a.responses.keys = [toString a.status]

/-- A combined artifact has a discriminator where its codes are distinct, and it maps each code to its leaf. -/
lemma member?_discriminator (combined : a.isCombined = true) : a.schema.member? "discriminator" =
    if a.codes.Nodup then some a.discriminator else none := by
  rw [schema_of_combined combined, alternatives, hasDistinctCodes]
  split_ifs with distinct <;> simp_all [Json.member?, List.lookup_cons]

/-- An artifact documents its own leaves. -/
lemma documents (a : Artifact) : a.Documents a.leaves where
  leaves := rfl
  parts := by
    rw [parts]
    exact if_congr isCombined_iff rfl rfl
  apart l _ := rfl
  shared l member := status_of_mem_leaves member
  name := rfl
  codes := rfl
  description := rfl
  oneOf several := member?_oneOf (isCombined_iff.2 several)
  discriminator several := member?_discriminator (isCombined_iff.2 several)
  statuses := rfl

end Artifact

namespace Combination

variable {a : Artifact} {c d : Combination}

/-- A combination combines something. -/
lemma artifacts_ne_nil (c : Combination) : c.artifacts ≠ [] := by
  induction c with
  | one a => simp [artifacts]
  | both c d first _ => simp [artifacts, first]

/-- A combination of two is put together from what the two are. -/
lemma result_both_eq_ok_iff : (both c d).result = .ok a ↔
    ∃ b b', c.result = .ok b ∧ d.result = .ok b' ∧ b.combine b' = .ok a := by
  rw [result]
  cases c.result with
  | error v => simp [bind, Except.bind]
  | ok b =>
    cases d.result with
    | error v => simp [bind, Except.bind]
    | ok b' => simp [bind, Except.bind]

/-- A combination gives an artifact just when its artifacts all have the status of that one, and it has the
leaves of all of them. -/
lemma result_eq_ok_iff : c.result = .ok a ↔
    (∀ b ∈ c.artifacts, b.status = a.status) ∧ a.leaves = c.artifacts.flatMap Artifact.leaves := by
  constructor
  · induction c generalizing a with
    | one b =>
      intro made
      cases made
      simp [artifacts]
    | both c d first second =>
      intro made
      obtain ⟨b, b', made, made', combined⟩ := result_both_eq_ok_iff.1 made
      obtain ⟨same, leaves⟩ := Artifact.combine_eq_ok_iff.1 combined
      obtain ⟨shared, leaves'⟩ := first made
      obtain ⟨shared', leaves''⟩ := second made'
      -- The first leaf of the result is that of the first one, and so is the status.
      have status : a.status = b.status := congrArg Leaf.status (List.cons.inj leaves).1
      constructor
      · intro x member
        rcases List.mem_append.1 member with member | member
        · exact (shared x member).trans status.symm
        · exact (shared' x member).trans (same.trans status.symm)
      · rw [leaves, leaves', leaves'', artifacts, List.flatMap_append]
  · rintro ⟨shared, leaves⟩
    obtain ⟨b, made, -, leaves'⟩ := exists_result shared
    rw [made, Artifact.leaves_injective (leaves'.trans leaves.symm)]

/-- A combination that fails has two neighbouring runs of artifacts with one status each, and the violation
names the two. -/
lemma exists_of_result_eq_error {v : Violation} (failed : c.result = .error v) :
    ∃ before first second after s t, c.artifacts = before ++ (first ++ second) ++ after ∧
      first ≠ [] ∧ second ≠ [] ∧ (∀ a ∈ first, a.status = s) ∧ (∀ b ∈ second, b.status = t) ∧ s ≠ t ∧
      v = .differentStatus ("Or".intercalate (first.map Artifact.name)) s
        ("Or".intercalate (second.map Artifact.name)) t := by
  induction c with
  | one a => cases failed
  | both c d ih ih' =>
    rw [result] at failed
    cases made : c.result with
    | error v' =>
      rw [made] at failed
      cases failed
      obtain ⟨before, first, second, after, s, t, row, rest⟩ := ih made
      refine ⟨before, first, second, after ++ d.artifacts, s, t, ?_, rest⟩
      rw [artifacts, row, List.append_assoc _ after]
    | ok b =>
      rw [made] at failed
      cases made' : d.result with
      | error v' =>
        rw [made'] at failed
        cases failed
        obtain ⟨before, first, second, after, s, t, row, rest⟩ := ih' made'
        refine ⟨c.artifacts ++ before, first, second, after, s, t, ?_, rest⟩
        rw [artifacts, row]
        simp only [List.append_assoc]
      | ok b' =>
        rw [made'] at failed
        obtain ⟨differ, rfl⟩ := Artifact.combine_eq_error_iff.1 failed
        obtain ⟨shared, leaves⟩ := result_eq_ok_iff.1 made
        obtain ⟨shared', leaves'⟩ := result_eq_ok_iff.1 made'
        refine ⟨[], c.artifacts, d.artifacts, [], b.status, b'.status, ?_, artifacts_ne_nil c, artifacts_ne_nil d,
          shared, shared', differ, ?_⟩
        · rw [artifacts, List.nil_append, List.append_nil]
        · rw [← Artifact.intercalate_names, ← Artifact.intercalate_names, ← leaves, ← leaves']
          rfl

end Combination

/-- However a row of artifacts is bracketed, it is combined just when all of them have one status. The result
documents their leaves, one after the other, has the name that joins theirs, and is the same for every other
order of brackets. Where two statuses differ, the combination is refused for two neighbouring runs of the row,
each of which has one status. -/
theorem Combination.result_flattens (c : Combination) :
    ((∃ a, c.result = .ok a) ↔ ∀ a ∈ c.artifacts, ∀ b ∈ c.artifacts, a.status = b.status) ∧
    (∀ a, c.result = .ok a → a.Documents (c.artifacts.flatMap Artifact.leaves) ∧
      a.name = "Or".intercalate (c.artifacts.map Artifact.name) ∧
      ∀ d : Combination, d.artifacts = c.artifacts → d.result = .ok a) ∧
    ((∃ a ∈ c.artifacts, ∃ b ∈ c.artifacts, a.status ≠ b.status) →
      ∃ before first second after s t, c.artifacts = before ++ (first ++ second) ++ after ∧
        first ≠ [] ∧ second ≠ [] ∧ (∀ a ∈ first, a.status = s) ∧ (∀ b ∈ second, b.status = t) ∧ s ≠ t ∧
        c.result = .error (.differentStatus ("Or".intercalate (first.map Artifact.name)) s
          ("Or".intercalate (second.map Artifact.name)) t)) := by
  have succeeds : (∃ a, c.result = .ok a) ↔ ∀ a ∈ c.artifacts, ∀ b ∈ c.artifacts, a.status = b.status := by
    constructor
    · rintro ⟨a, made⟩ b member b' member'
      obtain ⟨shared, -⟩ := result_eq_ok_iff.1 made
      exact (shared b member).trans (shared b' member').symm
    · intro shared
      obtain ⟨first, there⟩ := List.exists_mem_of_ne_nil _ (artifacts_ne_nil c)
      obtain ⟨a, made, -⟩ := exists_result fun b member => shared b member first there
      exact ⟨a, made⟩
  refine ⟨succeeds, ?_, ?_⟩
  · intro a made
    obtain ⟨shared, leaves⟩ := result_eq_ok_iff.1 made
    refine ⟨leaves ▸ a.documents, ?_, ?_⟩
    · rw [← Artifact.intercalate_names, ← leaves]
      rfl
    · intro d same
      rw [result_eq_ok_iff, same]
      exact ⟨shared, leaves⟩
  · rintro ⟨a, member, b, member', differ⟩
    cases made : c.result with
    | ok x => exact absurd (succeeds.1 ⟨x, made⟩ a member b member') differ
    | error v =>
      obtain ⟨before, first, second, after, s, t, row, some, some', one, one', apart, rfl⟩ :=
        exists_of_result_eq_error made
      exact ⟨before, first, second, after, s, t, row, some, some', one, one', apart, rfl⟩

end Errata.Docs
