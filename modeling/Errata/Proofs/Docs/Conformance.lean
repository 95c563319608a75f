import Errata.Proofs.Compile.Lookup
import Errata.Proofs.Docs.Validation
import Errata.Proofs.Reply.Sending
import Mathlib

/-!
# Replies conform to their documentation

A compiled unit has two lowerings: a table that answers its cases, and a catalogue that documents them.
Both say the same about a case, because the body of its rule is that of its leaf (`Leaf.body_ofCase`).
What a client reads from a reply is therefore admitted by the schema of the case, unless the case carries
a payload that is no object (`respond_conforms`).
-/

namespace Errata

/-- The schema requires a member. -/
def Json.Requires (schema : Json) (name : String) : Prop :=
  ∃ names, schema.member? "required" = some (.arr names) ∧ .str name ∈ names

namespace Json

/-- Merging members leaves an object an object, and nothing else becomes one. -/
lemma merged_eq_obj_iff {j : Json} : (∃ members, j.merged = obj members) ↔ ∃ members, j = obj members := by
  cases j <;> simp [merged, Reader.object]

end Json

namespace ErrorBody

/-- The members of a body have keys of their own. -/
lemma nodup_members (e : ErrorBody) (content : Json) :
    ((e.head ++ [("content", content)]).map Prod.fst).Nodup := by
  unfold head
  cases e.hint <;> simp

/-- What is read from the text of a body is the body, with the members of its content merged. -/
lemma merged_json (e : ErrorBody) (content : Json) :
    (e.json content).merged = e.json content.merged := by
  have members : Json.mergedMembers (e.head ++ [("content", content)]) =
      e.head ++ [("content", content.merged)] := by
    unfold head
    cases e.hint <;> rfl
  rw [json, Json.merged, members, Json.Reader.object, OrderedMap.entries_ofList (e.nodup_members _)]
  rfl

/-- The members that a client finds in a body. -/
lemma member?_json (e : ErrorBody) (content : Json) :
    (e.json content).member? "status" = some (.int e.status) ∧
      (e.json content).member? "hint" = e.hint.map Json.str := by
  unfold json head
  cases e.hint <;> exact ⟨rfl, rfl⟩

end ErrorBody

namespace ResponseTable

/-- The reply to a case that has a rule is that of the body that the rule gives. -/
lemma respond_outcome {t : ResponseTable} {name : String} {rule : Rule}
    (found : t.ruleFor name = .ok rule) (p : Value) :
    (t.respond name p).outcome = (rule.body p).reply.mapError .encode := by
  rw [respond, Attempt.outcome_bind, Attempt.outcome_mapError, convert_outcome found]
  rfl

end ResponseTable

namespace Docs.Leaf

/-- A schema requires the hint when there is one. -/
lemma requires_hint_iff (l : Leaf) : l.schema.Requires "hint" ↔ l.hint.isSome = true := by
  have required : l.schema.member? "required" = some (.arr (l.properties.map fun p => .str p.1)) := rfl
  unfold Json.Requires
  simp only [required, Option.some.injEq, Json.arr.injEq, exists_eq_left', properties]
  cases l.hint <;> cases l.carriesContent <;> simp

/-- A reply that a leaf documents is read as a document with the leaf's status, with a hint if the leaf
has one, and with a content that the schema admits if it is an object or is not carried. -/
lemma reply_conforms {l : Leaf} {p : Value} {r : Reply} (replied : (l.body p).reply = .ok r) :
    ∃ doc, Json.read? r.text = some doc ∧ r.status = l.status ∧
      doc.member? "status" = some (.int l.status) ∧
      (l.schema.Admits doc ↔ (l.carriesContent = true → ∃ members, p.encoding = .ok (.obj members))) ∧
      ((doc.member? "hint").isSome = true ↔ l.schema.Requires "hint") := by
  obtain ⟨_, made, -, rfl⟩ := ErrorBody.reply_eq_ok_iff.1 replied
  obtain ⟨content, encoded, rfl⟩ := ErrorBody.document_eq_ok_iff.1 made
  have ⟨status, hint⟩ := (l.body p).member?_json content.merged
  refine ⟨(l.body p).json content.merged, ?_, rfl, status, ?_, ?_⟩
  · rw [← ErrorBody.merged_json]
    exact Json.read?_compact _
  · rw [admits_body_iff (l := l) (e := l.body p) rfl rfl rfl, Json.merged_eq_obj_iff]
    -- Only a content that is carried is the payload; any other is null and not described.
    refine imp_congr_right fun carried => ?_
    have payload : (l.body p).content = p := if_pos carried
    rw [payload] at encoded
    simp [encoded]
  · rw [hint, requires_hint_iff]
    simp [body]

/-- The documentation of a status stands under that status only. -/
lemma keys_responses (l : Leaf) : (Artifact.single l).responses.keys = [toString l.status] := rfl

end Docs.Leaf

/-- Where no two cases have one name, every case of an accepted unit is documented, and every reply to it
says what its documentation says. Only the content of a case that carries one may be something else than
the object that is promised. -/
theorem respond_conforms (u : UnitDecl) (settings : Settings) (compiled : Compiled)
    (distinct : (u.cases.map CaseDecl.name).Nodup)
    (accepted : (u.compile settings).outcome = .ok compiled) :
    ∀ e ∈ compiled.taxonomy.cases, ∃ a,
      compiled.catalogue.get? (if e.isInternal then internalErrorName else e.name) = some a ∧
      a.responses.keys = [toString a.status] ∧
      ∀ p r, (compiled.table.respond e.name p).outcome = .ok r → ∃ doc,
        Json.read? r.text = some doc ∧
        r.status = a.status ∧
        doc.member? "status" = some (.int a.status) ∧
        (a.schema.Admits doc ↔
          e.isInternal = true ∨ e.naive = true ∨ ∃ members, p.encoding = .ok (.obj members)) ∧
        ((doc.member? "hint").isSome = true ↔ a.schema.Requires "hint") := by
  obtain ⟨wf, rfl⟩ := UnitDecl.compile_eq_ok_iff.1 accepted
  intro e member
  have names : ((u.taxonomy u.readable).cases.map ErrorCase.name).Nodup := by
    rw [← wf.names_readable] at distinct
    exact distinct
  -- The case is found in both lowerings, and the body of its rule is that of its leaf.
  have rule := ResponseTable.ruleFor_name settings.logInternalErrors names member
  have documented := Docs.Catalogue.get?_ofTaxonomy names wf.reservedFaults member
  rw [Docs.Leaf.name_ofCase] at documented
  refine ⟨_, documented, Docs.Leaf.keys_responses _, ?_⟩
  intro p r replied
  have outcome := (ResponseTable.respond_outcome rule p).symm.trans replied
  rw [Docs.Leaf.body_ofCase] at outcome
  have replied := Attempt.mapError_eq_ok.1 outcome
  obtain ⟨doc, read, status, member, admits, hint⟩ := Docs.Leaf.reply_conforms replied
  refine ⟨doc, read, status, member, ?_, hint⟩
  refine admits.trans ?_
  rw [Docs.Leaf.carriesContent_ofCase]
  cases e.isInternal <;> cases e.naive <;> simp

/-- A unit with a case that carries a payload and has an empty hint, and with an internal case. -/
def shopUnit : UnitDecl where
  name := "Shop"
  annotation := none
  cases := [
    ⟨"Missing", false, some ⟨[.text "request"],
      .ofList [("status", .int 404), ("code", .text "missing"), ("hint", .text "")]⟩⟩,
    ⟨"Broken", true, some ⟨[.disposition .internal], .empty⟩⟩]
  reserved := []

/-- A payload of that unit that is no object is not what its documentation promises, but the reply has the
documented status, and its empty hint is required. -/
theorem shopUnit_conforms :
    ∃ compiled a r doc, (shopUnit.compile .default).outcome = .ok compiled ∧
      compiled.catalogue.get? "Missing" = some a ∧
      (compiled.table.respond "Missing" (.int 7)).outcome = .ok r ∧
      Json.read? r.text = some doc ∧ r.status = a.status ∧
      ¬a.schema.Admits doc ∧ ((doc.member? "hint").isSome = true ↔ a.schema.Requires "hint") := by
  have accepted : (shopUnit.compile .default).outcome =
      .ok ((shopUnit.taxonomy shopUnit.readable).compiled .default) := by cbv
  let missing : ErrorCase := ⟨"Missing", false, .request ⟨.number 404, .literal "missing", some (.literal ""), none⟩⟩
  have member : missing ∈ (shopUnit.taxonomy shopUnit.readable).cases := by decide
  obtain ⟨a, found, keys, replies⟩ :=
    respond_conforms shopUnit .default _ (by decide) accepted missing member
  have replied : (((shopUnit.taxonomy shopUnit.readable).compiled .default).table.respond "Missing"
      (.int 7)).outcome = .ok ⟨404, some (.obj [("status", .int 404), ("code", .str "missing"),
        ("hint", .str ""), ("content", .int 7)])⟩ := by cbv
  obtain ⟨doc, read, status, -, admits, hint⟩ := replies _ _ replied
  refine ⟨_, a, _, doc, accepted, found, replied, read, status, ?_, hint⟩
  rw [admits]
  rintro (internal | naive | ⟨members, encoded⟩)
  · cases internal
  · cases naive
  · cases encoded

end Errata
