import Errata.Proofs.Docs.Bracketing
import Errata.Proofs.Compile.Namesakes
import Errata.Proofs.OrderedMap
import Mathlib

/-!
# Discriminators

The schema of combined artifacts may have a discriminator, which sends a document by its code to one of the
schemas (`Artifact.Routes`). It has one just where the codes of the leaves differ. The leaves of a unit then
have different names as well, so that the schema that a code leads to is that of its own leaf
(`Artifact.routes_iff`), and every reply to a case is sent to the documentation of that case
(`discriminator_routes_replies`).
-/

namespace Errata

/-- A schema describes a member by listing its values, and a value is listed. -/
def Json.Enumerates (schema : Json) (name : String) (value : Json) : Prop :=
  ∃ values, (schema.property? name).bind (member? "enum") = some (.arr values) ∧ value ∈ values

namespace Docs

/-- The discriminator of an artifact sends a document to a schema: the member that it names is a code, the
code has a reference, and this is found among the schemas of the artifact. -/
def Artifact.Routes (a : Artifact) (doc schema : Json) : Prop :=
  ∃ discriminator property mapping code name, a.schema.member? "discriminator" = some discriminator ∧
    discriminator.member? "propertyName" = some (.str property) ∧
    discriminator.member? "mapping" = some (.obj mapping) ∧ doc.member? property = some (.str code) ∧
    mapping.lookup code = some (.str (schemaPath ++ name)) ∧ a.schemas.get? name = some schema

/-- What a row of entries has for the key of one of them is the value of that one, where the keys differ. -/
lemma lookup_map_of_nodup {α β : Type*} {key : α → String} {value : α → β} {xs : List α} {x : α}
    (distinct : (xs.map key).Nodup) (member : x ∈ xs) :
    (xs.map fun y => (key y, value y)).lookup (key x) = some (value x) := by
  apply OrderedMap.lookup_of_mem
  · rwa [List.map_map]
  · exact List.mem_map_of_mem member

/-- The schema of a leaf lists its own code and no other. -/
lemma Leaf.enumerates_code_iff {l : Leaf} {code : String} :
    l.schema.Enumerates "code" (.str code) ↔ l.code.text = code := by
  have described : (l.schema.property? "code").bind (Json.member? "enum") = some (.arr [.str l.code.text]) := rfl
  rw [Json.Enumerates, described]
  constructor
  · rintro ⟨values, row, member⟩
    cases row
    cases List.mem_singleton.1 member
    rfl
  · rintro rfl
    exact ⟨_, rfl, List.mem_singleton_self _⟩

namespace Artifact

variable {a : Artifact} {own : Leaf} {doc schema : Json}

/-- Where a combined artifact has a discriminator, the codes of its leaves differ, and it has one entry for
each of them. -/
lemma mapping_of_discriminator (combined : a.isCombined = true) {discriminator : Json}
    (there : a.schema.member? "discriminator" = some discriminator) :
    a.codes.Nodup ∧ discriminator.member? "propertyName" = some (.str "code") ∧
      discriminator.member? "mapping" =
        some (.obj (a.leaves.map fun l => (l.code.text, .str (schemaPath ++ l.name)))) := by
  rw [member?_discriminator combined] at there
  split_ifs at there with distinct
  cases there
  exact ⟨distinct, rfl, rfl⟩

/-- A document with the code of a leaf is sent to the schema of the leaf, and to no other. -/
lemma routes_iff (combined : a.isCombined = true) (codes : a.codes.Nodup) (names : (a.leaves.map Leaf.name).Nodup)
    (member : own ∈ a.leaves) (code : doc.member? "code" = some (.str own.code.text)) :
    a.Routes doc schema ↔ schema = own.schema := by
  have there : a.schema.member? "discriminator" = some a.discriminator := by
    rw [member?_discriminator combined, if_pos codes]
  have entry : (a.leaves.map fun l => (l.code.text, Json.str (schemaPath ++ l.name))).lookup own.code.text =
      some (.str (schemaPath ++ own.name)) := lookup_map_of_nodup codes member
  have found := get?_schemas combined names member
  constructor
  · rintro ⟨discriminator, property, mapping, code', name, there', property', mapping', told, entry', found'⟩
    rw [there] at there'
    cases there'
    cases property'
    cases mapping'
    rw [code] at told
    cases told
    rw [entry, Option.some.injEq, Json.str.injEq] at entry'
    have same : own.name = name := (String.append_right_inj _).1 entry'
    rw [← same, found, Option.some.injEq] at found'
    exact found'.symm
  · rintro rfl
    exact ⟨a.discriminator, "code", _, own.code.text, own.name, there, rfl, rfl, code, entry, found⟩

end Artifact

namespace Combination

variable {c : Combination} {a : Artifact} {t : Taxonomy}

/-- What is made of several artifacts has several leaves. -/
lemma isCombined_of_result (several : 2 ≤ c.artifacts.length) (made : c.result = .ok a) :
    a.isCombined = true := by
  cases c with
  | one b => simp [artifacts] at several
  | both c d =>
    obtain ⟨b, b', -, -, combined⟩ := result_both_eq_ok_iff.1 made
    obtain ⟨-, leaves⟩ := Artifact.combine_eq_ok_iff.1 combined
    rw [Artifact.isCombined_iff, leaves, List.length_append]
    simp only [Artifact.leaves, List.length_cons]
    omega

/-- The leaves of what is made of the artifacts of a unit are those of its cases. -/
lemma exists_case_of_mem_leaves (documented : ∀ b ∈ c.artifacts, b ∈ (Catalogue.ofTaxonomy t).artifacts.values)
    (made : c.result = .ok a) {l : Leaf} (member : l ∈ a.leaves) : ∃ e ∈ t.cases, l = Leaf.ofCase t e := by
  obtain ⟨-, leaves⟩ := result_eq_ok_iff.1 made
  rw [leaves, List.mem_flatMap] at member
  obtain ⟨b, combining, there⟩ := member
  obtain ⟨e, declared, rfl⟩ := Catalogue.exists_case_of_mem_values (documented b combining)
  exact ⟨e, declared, List.mem_singleton.1 there⟩

/-- Leaves of one unit have different names where they have different codes. -/
lemma nodup_names (distinct : (t.cases.map ErrorCase.name).Nodup) (free : t.reservedFaults = [])
    (documented : ∀ b ∈ c.artifacts, b ∈ (Catalogue.ofTaxonomy t).artifacts.values)
    (made : c.result = .ok a) (codes : a.codes.Nodup) : (a.leaves.map Leaf.name).Nodup := by
  have leaves : a.leaves.Nodup := codes.of_map _
  refine leaves.map_on fun l member l' member' same => ?_
  obtain ⟨d, declared, rfl⟩ := exists_case_of_mem_leaves documented made member
  obtain ⟨e, declared', rfl⟩ := exists_case_of_mem_leaves documented made member'
  exact Catalogue.leaf_eq_of_name_eq distinct free declared declared' same

end Combination

/-- A client that reads the reply of a leaf finds its code there. -/
lemma Leaf.read_reply {l : Leaf} {p : Value} {r : Reply} (replied : (l.body p).reply = .ok r) :
    ∃ doc, Json.read? r.text = some doc ∧ doc.member? "code" = some (.str l.code.text) := by
  obtain ⟨_, made, -, rfl⟩ := ErrorBody.reply_eq_ok_iff.1 replied
  obtain ⟨content, -, rfl⟩ := ErrorBody.document_eq_ok_iff.1 made
  have read := Json.read?_compact ((l.body p).json content)
  rw [ErrorBody.merged_json] at read
  exact ⟨_, read, rfl⟩

end Docs

/-- However artifacts of an accepted unit are combined, the result has a discriminator just when the codes of
its leaves differ. It then has one entry for each leaf, and sends every reply to a case that is documented
by a leaf to the schema that the unit documents for the case: the code of the reply leads to the name of the
leaf, the result has that schema under the name, and no other leaf lists the code. -/
theorem discriminator_routes_replies (u : UnitDecl) (settings : Settings) (compiled : Compiled)
    (distinct : (u.cases.map CaseDecl.name).Nodup)
    (accepted : (u.compile settings).outcome = .ok compiled) (c : Docs.Combination)
    (several : 2 ≤ c.artifacts.length)
    (documented : ∀ b ∈ c.artifacts, b ∈ compiled.catalogue.artifacts.values)
    (a : Docs.Artifact) (made : c.result = .ok a) :
    ((a.schema.member? "discriminator").isSome = true ↔ a.codes.Nodup) ∧
    ∀ discriminator, a.schema.member? "discriminator" = some discriminator →
      ∃ mapping, discriminator.member? "propertyName" = some (.str "code") ∧
        discriminator.member? "mapping" = some (.obj mapping) ∧ mapping.length = a.leaves.length ∧
        mapping.map Prod.fst = a.codes ∧ (mapping.map Prod.fst).Nodup ∧
        ∀ e ∈ compiled.taxonomy.cases, ∀ own ∈ a.leaves,
          own.name = (if e.isInternal then internalErrorName else e.name) →
          ∃ b, compiled.catalogue.get? own.name = some b ∧
            ∀ p r, (compiled.table.respond e.name p).outcome = .ok r → ∃ doc code,
              Json.read? r.text = some doc ∧ doc.member? "code" = some (.str code) ∧
              mapping.lookup code = some (.str (Docs.schemaPath ++ own.name)) ∧
              a.schemas.get? own.name = some b.schema ∧ (∀ schema, a.Routes doc schema ↔ schema = b.schema) ∧
              ∀ l ∈ a.leaves, l.schema.Enumerates "code" (.str code) ↔ l = own := by
  obtain ⟨wf, rfl⟩ := UnitDecl.compile_eq_ok_iff.1 accepted
  have names : ((u.taxonomy u.readable).cases.map ErrorCase.name).Nodup := wf.names_readable ▸ distinct
  have combined := Docs.Combination.isCombined_of_result several made
  refine ⟨Docs.Artifact.discriminator_isSome_iff combined, ?_⟩
  intro discriminator there
  obtain ⟨codes, property, mapping⟩ := Docs.Artifact.mapping_of_discriminator combined there
  have apart := Docs.Combination.nodup_names names wf.reservedFaults documented made codes
  have keys : (a.leaves.map fun l => (l.code.text, Json.str (Docs.schemaPath ++ l.name))).map Prod.fst = a.codes :=
    List.map_map
  refine ⟨_, property, mapping, List.length_map _, keys, keys ▸ codes, ?_⟩
  intro e member own offered named
  -- The leaf that is named as the documentation of the case is that of the case.
  obtain ⟨d, declared, rfl⟩ := Docs.Combination.exists_case_of_mem_leaves documented made offered
  have itself : Docs.Leaf.ofCase (u.taxonomy u.readable) d = Docs.Leaf.ofCase (u.taxonomy u.readable) e :=
    Docs.Catalogue.leaf_eq_of_name_eq names wf.reservedFaults declared member
      (named.trans (Docs.Leaf.name_ofCase _ e).symm)
  refine ⟨_, Docs.Catalogue.get?_ofTaxonomy names wf.reservedFaults declared, ?_⟩
  intro p r replied
  have rule := ResponseTable.ruleFor_name settings.logInternalErrors names member
  have outcome := (ResponseTable.respond_outcome rule p).symm.trans replied
  rw [Docs.Leaf.body_ofCase, ← itself] at outcome
  obtain ⟨doc, read, code⟩ := Docs.Leaf.read_reply (Attempt.mapError_eq_ok.1 outcome)
  refine ⟨doc, _, read, code, Docs.lookup_map_of_nodup codes offered,
    Docs.Artifact.get?_schemas combined apart offered, ?_, ?_⟩
  · intro schema
    exact Docs.Artifact.routes_iff combined codes apart offered code
  · intro l other
    rw [Docs.Leaf.enumerates_code_iff]
    constructor
    · intro same
      exact List.inj_on_of_nodup_map codes other offered same
    · rintro rfl
      rfl

/-- A unit with an error of status 500 that carries a payload, and with an internal one. -/
def officeUnit : UnitDecl where
  name := "Office"
  annotation := none
  cases := [
    ⟨"Busy", false, some ⟨[.text "request"], .ofList [("status", .int 500), ("code", .text "busy")]⟩⟩,
    ⟨"Broken", true, some ⟨[.disposition .internal], .empty⟩⟩]
  reserved := []

/-- Documented together, the reply to the internal error is sent to the shared documentation of these. -/
theorem officeUnit_routed : ∃ (compiled : Compiled) (c : Docs.Combination) (a b : Docs.Artifact) (r : Reply)
    (doc : Json), (officeUnit.compile .default).outcome = .ok compiled ∧
    c.artifacts.map Docs.Artifact.name = ["Busy", "InternalError"] ∧ c.result = .ok a ∧
    compiled.catalogue.get? "InternalError" = some b ∧
    (compiled.table.respond "Broken" (.text "secret")).outcome = .ok r ∧ Json.read? r.text = some doc ∧
    ∀ schema, a.Routes doc schema ↔ schema = b.schema := by
  have accepted : (officeUnit.compile .default).outcome =
      .ok ((officeUnit.taxonomy officeUnit.readable).compiled .default) := by cbv
  let busy : Docs.Leaf := ⟨"Busy", 500, .literal "busy", none, true, .literal "busy"⟩
  let shared : Docs.Leaf := .internal (officeUnit.taxonomy officeUnit.readable).internalCode
  let c : Docs.Combination := .both (.one (.single busy)) (.one (.single shared))
  let e : ErrorCase := ⟨"Broken", true, .internal⟩
  have member : e ∈ (officeUnit.taxonomy officeUnit.readable).cases := by decide
  have values : ((officeUnit.taxonomy officeUnit.readable).compiled .default).catalogue.artifacts.values =
      [.single busy, .single shared] := rfl
  have row : c.artifacts = [.single busy, .single shared] := rfl
  have status : ∀ b ∈ c.artifacts, b.status = 500 := by
    rw [row]
    exact List.forall_mem_cons.2 ⟨rfl, List.forall_mem_singleton.2 rfl⟩
  obtain ⟨a, made, -, leaves⟩ := Docs.Combination.exists_result status
  have leaves : a.leaves = [busy, shared] := leaves
  obtain ⟨present, routes⟩ := discriminator_routes_replies officeUnit .default _ (by decide) accepted c
    (by decide) (by simp [values, row]) a made
  have codes : a.codes.Nodup := by
    rw [Docs.Artifact.codes, leaves]
    decide
  obtain ⟨discriminator, there⟩ := Option.isSome_iff_exists.1 (present.2 codes)
  obtain ⟨mapping, -, -, -, -, -, replies⟩ := routes discriminator there
  obtain ⟨b, found, reply⟩ := replies e member shared (by simp [leaves]) rfl
  have replied : (((officeUnit.taxonomy officeUnit.readable).compiled .default).table.respond "Broken"
      (.text "secret")).outcome = .ok ⟨500, some ((shared.body .null).json .null)⟩ := by cbv
  obtain ⟨doc, code, read, -, -, -, sent, -⟩ := reply _ _ replied
  exact ⟨_, c, a, b, _, doc, accepted, by decide, made, found, replied, read, sent⟩

end Errata
