import Errata.Proofs.Docs.Conformance
import Mathlib

/-!
# Alternatives

Errors that share a status are documented together: the combined schema offers the schemas of the single
errors as alternatives, and a document has to fit exactly one of them. However artifacts are put together,
the leaves of the result are theirs, in order (`Combination.exists_result`). The reply to a case without a
payload fits the leaf of the case, so that it is valid unless it fits another leaf as well. That depends on
the leaves alone: the other one carries no content, has the same code, and has no hint or the same
(`combined_validates_iff`). Leaves whose codes all differ never get into each other's way.
-/

namespace Errata

namespace Docs

/-- A document refers to a schema that admits another. -/
def RefAdmits (schemas : OrderedMap String Json) (ref doc : Json) : Prop :=
  ∃ name schema, ref = schemaRef name ∧ schemas.get? name = some schema ∧ schema.Admits doc

/-- Exactly one of the alternatives of a schema admits a document. -/
def OneAdmits (schemas : OrderedMap String Json) (schema doc : Json) : Prop :=
  ∃ before ref after, schema.member? "oneOf" = some (.arr (before ++ ref :: after)) ∧
    RefAdmits schemas ref doc ∧ ∀ other ∈ before ++ after, ¬RefAdmits schemas other doc

/-- A document is valid for a combined artifact: the schema of the artifact admits it, and so does exactly
one of the alternatives, as they are found among the schemas that the artifact needs. -/
def Artifact.Validates (a : Artifact) (doc : Json) : Prop :=
  a.schema.Admits doc ∧ OneAdmits a.schemas a.schema doc

/-- A leaf covers another: it carries no content, and it has the code of the other, and its hint if it has
one itself. -/
def Leaf.Covers (l m : Leaf) : Prop :=
  l.carriesContent = false ∧ l.code.text = m.code.text ∧ ∀ h ∈ l.hint, m.hint.map Wording.text = some h.text

instance (l m : Leaf) : Decidable (l.Covers m) :=
  inferInstanceAs (Decidable (_ = _ ∧ _ = _ ∧ ∀ h ∈ l.hint, _ = _))

/-! ## Putting artifacts together -/

/-- Two artifacts with one status are combined to one with the leaves of both. -/
lemma Artifact.exists_combine {a b : Artifact} (same : b.status = a.status) :
    ∃ c, a.combine b = .ok c ∧ c.status = a.status ∧ c.leaves = a.leaves ++ b.leaves :=
  ⟨_, dif_pos same, rfl, rfl⟩

/-- A way to combine artifacts. -/
inductive Combination where
  | one (a : Artifact)
  | both (c d : Combination)

namespace Combination

/-- The artifacts that are combined, in order. -/
def artifacts : Combination → List Artifact
  | one a => [a]
  | both c d => c.artifacts ++ d.artifacts

/-- What they are combined to. -/
def result : Combination → Except Violation Artifact
  | one a => .ok a
  | both c d => do (← c.result).combine (← d.result)

/-- Artifacts that share a status can be combined in every way, and the leaves of the result are theirs. -/
lemma exists_result {c : Combination} {status : Int} (shared : ∀ a ∈ c.artifacts, a.status = status) :
    ∃ a, c.result = .ok a ∧ a.status = status ∧ a.leaves = c.artifacts.flatMap Artifact.leaves := by
  induction c with
  | one a => exact ⟨a, rfl, shared a (List.mem_singleton_self a), by simp [artifacts]⟩
  | both c d first second =>
    obtain ⟨a, made, status, leaves⟩ := first fun a member => shared a (List.mem_append_left _ member)
    obtain ⟨b, made', status', leaves'⟩ := second fun b member => shared b (List.mem_append_right _ member)
    obtain ⟨ab, combined, kept, joined⟩ := Artifact.exists_combine (status'.trans status.symm)
    refine ⟨ab, ?_, kept.trans status, ?_⟩
    · rw [result, made, made']
      exact combined
    · rw [joined, leaves, leaves', artifacts, List.flatMap_append]

end Combination

/-! ## The alternatives of an artifact -/

/-- Joining names makes no name longer than the whole. -/
lemma length_le_length_joined {name : String} {names : List String} (member : name ∈ names) :
    name.length ≤ ("Or".intercalate names).length := by
  induction names with
  | nil => cases member
  | cons first names ih =>
    cases names with
    | nil => simp_all
    | cons second names =>
      rw [String.intercalate_cons_cons, String.length_append, String.length_append]
      rcases List.mem_cons.1 member with rfl | member
      · omega
      · have := ih member
        omega

/-- References to schemas of different names differ. -/
lemma schemaRef_injective : Function.Injective schemaRef := by
  intro name name' same
  simpa [schemaRef, Json.single] using same

namespace Artifact

variable {a : Artifact} {l own : Leaf} {doc : Json}

/-- A combined artifact has several leaves. -/
lemma isCombined_iff : a.isCombined = true ↔ 2 ≤ a.leaves.length := by
  obtain ⟨first, others, shared⟩ := a
  cases others <;> simp [isCombined, leaves]

/-- The schema of a combined artifact is one of alternatives. -/
lemma schema_of_combined (combined : a.isCombined = true) : a.schema = a.alternatives := if_pos combined

/-- A combined artifact has another name than each of its leaves. -/
lemma name_ne_of_mem_leaves (combined : a.isCombined = true) (member : l ∈ a.leaves) : l.name ≠ a.name := by
  obtain ⟨first, others, shared⟩ := a
  cases others with
  | nil => cases combined
  | cons second others =>
    have whole : (⟨first, second :: others, shared⟩ : Artifact).name =
        first.name ++ "Or" ++ "Or".intercalate ((second :: others).map Leaf.name) :=
      String.intercalate_cons_cons
    -- Two letters at least stand beside each of the names.
    have two : "Or".length = 2 := rfl
    intro same
    have length := congrArg String.length (same.trans whole)
    rw [String.length_append, String.length_append, two] at length
    rcases List.mem_cons.1 member with rfl | behind
    · omega
    · have : l.name.length ≤ ("Or".intercalate ((second :: others).map Leaf.name)).length :=
        length_le_length_joined (List.mem_map_of_mem behind)
      omega

/-- A combined artifact has the schema of every leaf, where no two leaves have one name. -/
lemma get?_schemas (combined : a.isCombined = true) (names : (a.leaves.map Leaf.name).Nodup)
    (member : l ∈ a.leaves) : a.schemas.get? l.name = some l.schema := by
  have keys : ((a.leaves.map fun l => (l.name, l.schema)).map Prod.fst).Nodup := by
    rw [List.map_map]
    exact names
  rw [schemas, OrderedMap.get?_insert, if_neg (name_ne_of_mem_leaves combined member),
    OrderedMap.get?_eq_some_iff, OrderedMap.entries_ofList keys]
  exact List.mem_map_of_mem (f := fun l => (l.name, l.schema)) member

/-- The reference to a leaf admits what the schema of the leaf does. -/
lemma refAdmits_iff (combined : a.isCombined = true) (names : (a.leaves.map Leaf.name).Nodup)
    (member : l ∈ a.leaves) : RefAdmits a.schemas (schemaRef l.name) doc ↔ l.schema.Admits doc := by
  have found := get?_schemas combined names member
  constructor
  · rintro ⟨name, schema, ref, got, admits⟩
    rw [← schemaRef_injective ref, found] at got
    cases got
    exact admits
  · exact fun admits => ⟨l.name, l.schema, rfl, found, admits⟩

/-- The alternatives of a combined artifact are those of its leaves, in their order. -/
lemma member?_oneOf (combined : a.isCombined = true) :
    a.schema.member? "oneOf" = some (.arr (a.leaves.map fun l => schemaRef l.name)) := by
  rw [schema_of_combined combined]
  rfl

/-- Beside its alternatives, the schema of a combined artifact asks for nothing. -/
lemma schema_admits (combined : a.isCombined = true) (doc : Json) : a.schema.Admits doc := by
  rw [schema_of_combined combined, alternatives]
  split_ifs <;> simp [Json.Admits, Json.KeywordsAdmit, Json.KeywordAdmits, discriminator]

/-- Where exactly one alternative admits a document, the leaves that admit it are one. -/
lemma eq_of_oneAdmits (combined : a.isCombined = true) (names : (a.leaves.map Leaf.name).Nodup)
    (one : OneAdmits a.schemas a.schema doc) {l m : Leaf} (member : l ∈ a.leaves) (admits : l.schema.Admits doc)
    (member' : m ∈ a.leaves) (admits' : m.schema.Admits doc) : l = m := by
  obtain ⟨before, ref, after, row, -, others⟩ := one
  rw [member?_oneOf combined, Option.some.injEq, Json.arr.injEq] at row
  obtain ⟨front, rest, leaves, rfl, behind⟩ := List.map_eq_append_iff.1 row
  obtain ⟨middle, back, rfl, rfl, rfl⟩ := List.map_eq_cons_iff.1 behind
  rw [← List.map_append] at others
  -- The others do not admit it, so that it is the leaf at the place of the one that does.
  have itself {l : Leaf} (member : l ∈ a.leaves) (admits : l.schema.Admits doc) : l = middle := by
    have aside : l ∉ front ++ back := fun beside =>
      others _ (List.mem_map_of_mem beside) ((refAdmits_iff combined names member).2 admits)
    rw [leaves, List.mem_append, List.mem_cons] at member
    rw [List.mem_append, not_or] at aside
    exact (member.resolve_left aside.1).resolve_right aside.2
  exact (itself member admits).trans (itself member' admits').symm

/-- Exactly one alternative admits what one leaf admits and no other does. -/
lemma oneAdmits_of_alone (combined : a.isCombined = true) (names : (a.leaves.map Leaf.name).Nodup)
    (member : own ∈ a.leaves) (admits : own.schema.Admits doc)
    (others : ∀ l ∈ a.leaves, l ≠ own → ¬l.schema.Admits doc) : OneAdmits a.schemas a.schema doc := by
  obtain ⟨front, back, leaves⟩ := List.append_of_mem member
  have distinct : (front ++ own :: back).Nodup := leaves ▸ names.of_map _
  refine ⟨front.map fun l => schemaRef l.name, _, back.map fun l => schemaRef l.name, ?_,
    (refAdmits_iff combined names member).2 admits, ?_⟩
  · rw [member?_oneOf combined, leaves, List.map_append, List.map_cons]
  · intro ref listed
    rw [← List.map_append] at listed
    obtain ⟨l, beside, rfl⟩ := List.mem_map.1 listed
    have there : l ∈ a.leaves := leaves ▸ List.perm_middle.mem_iff.2 (List.mem_cons_of_mem _ beside)
    rw [refAdmits_iff combined names there]
    refine others l there ?_
    rintro rfl
    exact (List.nodup_cons.1 (List.nodup_middle.1 distinct)).1 beside

/-- What a leaf of a combined artifact admits is valid just when no other leaf admits it. -/
lemma validates_iff (combined : a.isCombined = true) (names : (a.leaves.map Leaf.name).Nodup)
    (member : own ∈ a.leaves) (admits : own.schema.Admits doc) :
    a.Validates doc ↔ ∀ l ∈ a.leaves, l ≠ own → ¬l.schema.Admits doc := by
  constructor
  · rintro ⟨-, one⟩ l there other admitted
    exact other (eq_of_oneAdmits combined names one there admitted member admits)
  · intro others
    exact ⟨schema_admits combined doc, oneAdmits_of_alone combined names member admits others⟩

/-- The schema of a combined artifact tells its leaves apart by their codes where these differ. -/
lemma discriminator_isSome_iff (combined : a.isCombined = true) :
    (a.schema.member? "discriminator").isSome = true ↔ a.codes.Nodup := by
  rw [schema_of_combined combined, alternatives, hasDistinctCodes]
  split_ifs with distinct <;> simpa [Json.member?, List.lookup_cons] using distinct

end Artifact

/-! ## Bodies without a payload -/

namespace Leaf

variable {l own : Leaf}

/-- The body for a case without a payload is the same for everything that the case may carry. -/
lemma document_of_bare (bare : own.carriesContent = false) (p : Value) :
    (own.body p).document = .ok ((own.body p).json .null) := by
  have content : (own.body p).content = .null := if_neg (by simp [bare])
  rw [ErrorBody.document_eq_ok_iff, content]
  exact ⟨.null, rfl, rfl⟩

/-- Such a body is sent when bytes can hold it. -/
lemma reply_of_bare (bare : own.carriesContent = false) {p : Value} {r : Reply} :
    (own.body p).reply = .ok r ↔
      ((own.body p).json .null).Sendable ∧ r = ⟨own.status, some ((own.body p).json .null)⟩ := by
  rw [ErrorBody.reply_eq_ok_iff]
  constructor
  · rintro ⟨doc, made, sendable, rfl⟩
    cases made.symm.trans (document_of_bare bare p)
    exact ⟨sendable, rfl⟩
  · rintro ⟨sendable, rfl⟩
    exact ⟨_, document_of_bare bare p, sendable, rfl⟩

/-- A leaf with the same status admits such a body just when it covers the leaf of the case. -/
lemma admits_bare_iff (status : l.status = own.status) (p : Value) :
    l.schema.Admits ((own.body p).json .null) ↔ l.Covers own := by
  rw [admits_json_iff]
  constructor
  · rintro ⟨-, code, hint, object⟩
    refine ⟨?_, code.symm, hint⟩
    cases carried : l.carriesContent with
    | false => rfl
    | true =>
      obtain ⟨members, none⟩ := object carried
      cases none
  · rintro ⟨bare, code, hint⟩
    exact ⟨status.symm, code.symm, hint, fun carried => by simp [bare] at carried⟩

/-- A leaf without content covers itself. -/
lemma covers_self (bare : own.carriesContent = false) : own.Covers own :=
  ⟨bare, rfl, fun h given => by rw [given, Option.map_some]⟩

end Leaf

/-- A body without a payload is valid for a combined artifact with the leaf of its case just when no other
leaf covers that one. -/
lemma Artifact.validates_bare_iff {a : Artifact} (combined : a.isCombined = true)
    (names : (a.leaves.map Leaf.name).Nodup) {own : Leaf} (member : own ∈ a.leaves)
    (bare : own.carriesContent = false) (p : Value) :
    a.Validates ((own.body p).json .null) ↔ ∀ l ∈ a.leaves, l ≠ own → ¬l.Covers own := by
  have admits {l : Leaf} (there : l ∈ a.leaves) :=
    Leaf.admits_bare_iff ((status_of_mem_leaves there).trans (status_of_mem_leaves member).symm) p
  rw [validates_iff combined names member ((admits member).2 (Leaf.covers_self bare))]
  refine forall_congr' fun l => ?_
  refine imp_congr_right fun there => ?_
  rw [admits there]

/-! ## The artifacts of a unit -/

/-- All internal cases have one leaf. -/
lemma Leaf.ofCase_of_internal (t : Taxonomy) {e : ErrorCase} (internal : e.isInternal = true) :
    ofCase t e = .internal t.internalCode := by
  obtain ⟨name, naive, attributes⟩ := e
  cases attributes with
  | request r => cases internal
  | internal => rfl

namespace Catalogue

variable {t : Taxonomy}

/-- Every artifact of a catalogue is that of a case. -/
lemma exists_case_of_mem_values {a : Artifact} (member : a ∈ (ofTaxonomy t).artifacts.values) :
    ∃ e ∈ t.cases, a = .single (Leaf.ofCase t e) := by
  have member : a ∈ artifactsOf t := by
    simpa using OrderedMap.mem_of_mem_values_ofList member
  rw [artifactsOf_eq, List.mem_append] at member
  rcases member with client | shared
  · obtain ⟨e, there, rfl⟩ := List.mem_map.1 client
    exact ⟨e, (List.mem_filter.1 there).1, rfl⟩
  · split_ifs at shared with none
    · cases shared
    · rw [List.isEmpty_iff] at none
      obtain ⟨e, internal⟩ := List.exists_mem_of_ne_nil _ none
      obtain ⟨there, internal⟩ := List.mem_filter.1 internal
      refine ⟨e, there, ?_⟩
      rw [List.mem_singleton.1 shared, Leaf.ofCase_of_internal t internal]

/-- Cases of one documented name have one leaf. -/
lemma leaf_eq_of_name_eq (distinct : (t.cases.map ErrorCase.name).Nodup) (free : t.reservedFaults = [])
    {d e : ErrorCase} (member : d ∈ t.cases) (member' : e ∈ t.cases)
    (same : (Leaf.ofCase t d).name = (Leaf.ofCase t e).name) : Leaf.ofCase t d = Leaf.ofCase t e := by
  have found := get?_ofTaxonomy distinct free member
  rw [same, get?_ofTaxonomy distinct free member'] at found
  exact (congrArg Artifact.first (Option.some.inj found)).symm

/-- Distinct artifacts of a catalogue have one leaf each, and these have distinct names. -/
lemma leaves_of_nodup (distinct : (t.cases.map ErrorCase.name).Nodup) (free : t.reservedFaults = [])
    {as : List Artifact} (nodup : as.Nodup) (documented : ∀ a ∈ as, a ∈ (ofTaxonomy t).artifacts.values) :
    as.flatMap Artifact.leaves = as.map Artifact.first ∧ ((as.map Artifact.first).map Leaf.name).Nodup := by
  constructor
  · rw [List.map_eq_flatMap]
    refine List.flatMap_congr fun a member => ?_
    obtain ⟨e, -, rfl⟩ := exists_case_of_mem_values (documented a member)
    rfl
  · rw [List.map_map]
    refine nodup.map_on fun a member b member' same => ?_
    obtain ⟨d, there, rfl⟩ := exists_case_of_mem_values (documented a member)
    obtain ⟨e, there', rfl⟩ := exists_case_of_mem_values (documented b member')
    rw [leaf_eq_of_name_eq distinct free there there' same]

end Catalogue

end Docs

/-- Distinct artifacts of an accepted unit that share a status can be combined in every way, and the result
has the leaves of all of them. The body for a case without a payload that one of these leaves documents is
valid for the result just when no other leaf covers that one. So it always is where the codes of the
leaves all differ, which is where the schema has a discriminator. It is what a client reads from the reply,
which there is when bytes can hold the body. -/
theorem combined_validates_iff (u : UnitDecl) (settings : Settings) (compiled : Compiled)
    (distinct : (u.cases.map CaseDecl.name).Nodup)
    (accepted : (u.compile settings).outcome = .ok compiled) (c : Docs.Combination)
    (several : 2 ≤ c.artifacts.length) (nodup : c.artifacts.Nodup)
    (documented : ∀ a ∈ c.artifacts, a ∈ compiled.catalogue.artifacts.values)
    (shared : ∀ a ∈ c.artifacts, ∀ b ∈ c.artifacts, a.status = b.status) :
    ∃ a, c.result = .ok a ∧ a.leaves = c.artifacts.flatMap Docs.Artifact.leaves ∧
      ((a.schema.member? "discriminator").isSome = true ↔ a.codes.Nodup) ∧
      ∀ e ∈ compiled.taxonomy.cases, e.isInternal = true ∨ e.naive = true → ∀ own ∈ a.leaves,
        own.name = (if e.isInternal then internalErrorName else e.name) → ∀ p, ∃ body doc,
          (compiled.table.convert e.name p).outcome = .ok body ∧ body.document = .ok doc ∧
          (a.Validates doc ↔ ∀ l ∈ a.leaves, l ≠ own → ¬l.Covers own) ∧
          (a.codes.Nodup → a.Validates doc) ∧
          ((∃ r, (compiled.table.respond e.name p).outcome = .ok r) ↔ doc.Sendable) ∧
          ∀ r, (compiled.table.respond e.name p).outcome = .ok r → Json.read? r.text = some doc := by
  obtain ⟨wf, rfl⟩ := UnitDecl.compile_eq_ok_iff.1 accepted
  have names : ((u.taxonomy u.readable).cases.map ErrorCase.name).Nodup := wf.names_readable ▸ distinct
  obtain ⟨row, apart⟩ := Docs.Catalogue.leaves_of_nodup names wf.reservedFaults nodup documented
  obtain ⟨first, there⟩ := List.exists_mem_of_length_pos (Nat.lt_of_lt_of_le Nat.two_pos several)
  obtain ⟨a, made, -, leaves⟩ := Docs.Combination.exists_result fun b member => shared b member first there
  have combined : a.isCombined = true := by
    rw [Docs.Artifact.isCombined_iff, leaves, row, List.length_map]
    exact several
  have apart : (a.leaves.map Docs.Leaf.name).Nodup := by
    rw [leaves, row]
    exact apart
  refine ⟨a, made, leaves, Docs.Artifact.discriminator_isSome_iff combined, ?_⟩
  intro e member silent own offered named p
  -- The leaf that is named as the documentation of the case is that of the case.
  have itself : own = Docs.Leaf.ofCase (u.taxonomy u.readable) e := by
    rw [leaves, row] at offered
    obtain ⟨b, combining, rfl⟩ := List.mem_map.1 offered
    obtain ⟨d, declared, rfl⟩ := Docs.Catalogue.exists_case_of_mem_values (documented b combining)
    exact Docs.Catalogue.leaf_eq_of_name_eq names wf.reservedFaults declared member
      (named.trans (Docs.Leaf.name_ofCase _ e).symm)
  have bare : own.carriesContent = false := by
    rw [itself, Docs.Leaf.carriesContent_ofCase]
    rcases silent with internal | naive <;> simp [*]
  have rule : ((u.taxonomy u.readable).compiled settings).table.ruleFor e.name = _ :=
    ResponseTable.ruleFor_name settings.logInternalErrors names member
  have converted := ResponseTable.convert_outcome rule p
  have replied := ResponseTable.respond_outcome rule p
  rw [Docs.Leaf.body_ofCase, ← itself] at converted replied
  have document := Docs.Leaf.document_of_bare bare p
  have read := Json.read?_compact ((own.body p).json .null)
  rw [ErrorBody.merged_json] at read
  have valid := Docs.Artifact.validates_bare_iff combined apart offered bare p
  have sent {r : Reply} : (((u.taxonomy u.readable).compiled settings).table.respond e.name p).outcome = .ok r ↔
      ((own.body p).json .null).Sendable ∧ r = ⟨own.status, some ((own.body p).json .null)⟩ := by
    rw [replied, Attempt.mapError_eq_ok, Docs.Leaf.reply_of_bare bare]
  refine ⟨_, _, converted, document, valid, fun codes => valid.2 fun l there other covers => other ?_, ?_, ?_⟩
  · exact List.inj_on_of_nodup_map codes there offered covers.2.1
  · simp [sent]
  · intro r success
    obtain ⟨-, rfl⟩ := sent.1 success
    exact read

/-- A unit with three errors of one code: two that differ by their hints, and one that carries a payload. -/
def goneUnit : UnitDecl where
  name := "Gone"
  annotation := none
  cases := [
    ⟨"Lost", true, some ⟨[.text "request"],
      .ofList [("status", .int 404), ("code", .text "gone"), ("hint", .text "Nobody has it")]⟩⟩,
    ⟨"Moved", true, some ⟨[.text "request"],
      .ofList [("status", .int 404), ("code", .text "gone"), ("hint", .text "Somebody has it")]⟩⟩,
    ⟨"Taken", false, some ⟨[.text "request"], .ofList [("status", .int 404), ("code", .text "gone")]⟩⟩]
  reserved := []

/-- The reply to the first of them is valid for all three together, although their codes are the same. -/
theorem goneUnit_valid : ∃ (compiled : Compiled) (c : Docs.Combination) (a : Docs.Artifact) (r : Reply)
    (doc : Json), (goneUnit.compile .default).outcome = .ok compiled ∧
    c.artifacts.map Docs.Artifact.name = ["Taken", "Lost", "Moved"] ∧ c.result = .ok a ∧ ¬a.codes.Nodup ∧
    (compiled.table.respond "Lost" .null).outcome = .ok r ∧ Json.read? r.text = some doc ∧
    a.Validates doc := by
  have accepted : (goneUnit.compile .default).outcome =
      .ok ((goneUnit.taxonomy goneUnit.readable).compiled .default) := by cbv
  let lost : Docs.Leaf :=
    ⟨"Lost", 404, .literal "gone", some (.literal "Nobody has it"), false, .literal "Nobody has it"⟩
  let moved : Docs.Leaf :=
    ⟨"Moved", 404, .literal "gone", some (.literal "Somebody has it"), false, .literal "Somebody has it"⟩
  let taken : Docs.Leaf := ⟨"Taken", 404, .literal "gone", none, true, .literal "gone"⟩
  let e : ErrorCase :=
    ⟨"Lost", true, .request ⟨.number 404, .literal "gone", some (.literal "Nobody has it"), none⟩⟩
  let c : Docs.Combination :=
    .both (.one (.single taken)) (.both (.one (.single lost)) (.one (.single moved)))
  have member : e ∈ (goneUnit.taxonomy goneUnit.readable).cases := by decide
  have values : ((goneUnit.taxonomy goneUnit.readable).compiled .default).catalogue.artifacts.values =
      [.single lost, .single moved, .single taken] := rfl
  obtain ⟨a, made, leaves, -, replies⟩ := combined_validates_iff goneUnit .default _ (by decide) accepted c
    (by decide) (.of_map (fun a => a.first.name) (by decide)) (by simp [values, c, Docs.Combination.artifacts])
    (by simp [c, Docs.Combination.artifacts, Docs.Artifact.single, Docs.Artifact.status, lost, moved, taken])
  have leaves : a.leaves = [taken, lost, moved] := leaves
  obtain ⟨body, doc, -, -, valid, -, -, read⟩ := replies e member (by decide) lost (by simp [leaves]) rfl .null
  have replied : (((goneUnit.taxonomy goneUnit.readable).compiled .default).table.respond "Lost" .null).outcome =
      .ok ⟨404, some ((lost.body .null).json .null)⟩ := by cbv
  refine ⟨_, c, a, _, doc, accepted, by decide, made, ?_, replied, read _ replied, valid.2 ?_⟩
  · rw [Docs.Artifact.codes, leaves]
    decide
  · rw [leaves]
    decide

/-- A unit with two errors that answer alike. -/
def sameUnit : UnitDecl where
  name := "E"
  annotation := none
  cases := [
    ⟨"A", true, some ⟨[.text "request"], .ofList [("status", .int 404), ("code", .text "same")]⟩⟩,
    ⟨"B", true, some ⟨[.text "request"], .ofList [("status", .int 404), ("code", .text "same")]⟩⟩]
  reserved := []

/-- They are documented under one status and can be combined, but a reply to the first fits both of the
alternatives, so that it is not valid for the two together. -/
theorem sameUnit_invalid : ∃ compiled first second a r doc,
    (sameUnit.compile .default).outcome = .ok compiled ∧
    (sameUnit.cases.map CaseDecl.name).Nodup ∧ compiled.catalogue.get? "A" = some first ∧
    compiled.catalogue.get? "B" = some second ∧ first.combine second = .ok a ∧
    (compiled.table.respond "A" .null).outcome = .ok r ∧ Json.read? r.text = some doc ∧
    ¬a.Validates doc := by
  have accepted : (sameUnit.compile .default).outcome =
      .ok ((sameUnit.taxonomy sameUnit.readable).compiled .default) := by cbv
  let first : Docs.Leaf := ⟨"A", 404, .literal "same", none, false, .literal "same"⟩
  let second : Docs.Leaf := ⟨"B", 404, .literal "same", none, false, .literal "same"⟩
  obtain ⟨a, combined, -, leaves⟩ := Docs.Artifact.exists_combine (a := .single first) (b := .single second) rfl
  have leaves : a.leaves = [first, second] := leaves
  have replied : (((sameUnit.taxonomy sameUnit.readable).compiled .default).table.respond "A" .null).outcome =
      .ok ⟨404, some ((first.body .null).json .null)⟩ := by cbv
  have read := Json.read?_compact ((first.body .null).json .null)
  rw [ErrorBody.merged_json] at read
  have several : a.isCombined = true := Docs.Artifact.isCombined_iff.2 (by simp [leaves])
  have names : (a.leaves.map Docs.Leaf.name).Nodup := by
    rw [leaves]
    decide
  have there : first ∈ a.leaves := by simp [leaves]
  have valid := Docs.Artifact.validates_bare_iff several names there rfl .null
  rw [leaves] at valid
  exact ⟨_, .single first, .single second, a, _, _, accepted, by decide, rfl, rfl, combined, replied, read,
    fun admitted => absurd (valid.1 admitted) (by decide)⟩

end Errata
