import Errata.Proofs.Compile.Lookup
import Mathlib

/-!
# Cases of one name

A unit may declare several cases of one name. Its table then answers the name as the first of them, and
its catalogue documents the last that is shown to the client. The rule and the artifact describe one
declaration just when these two cases tell the client the same (`lowerings_agree_iff`), so that a name
that is taken once is never answered and documented differently.
-/

namespace Errata

/-- What a schema says about a member. -/
def Json.property? (name : String) (schema : Json) : Option Json :=
  (schema.member? "properties").bind (member? name)

/-- What a declaration tells the client: a status, a code, and perhaps a hint. -/
def Declaration.told : Declaration → Option (Int × String × Option String)
  | .request status code hint _ => some (status, code, hint)
  | .internal => none

/-- The rule and the artifact describe the same declaration. -/
structure Rule.Agrees (r : Rule) (a : Docs.Artifact) : Prop where
  client : r.isInternal = false
  status : a.status = r.status
  codes : a.codes = [r.code]
  hint : a.schema.property? "hint" = r.hint.map fun h => Docs.pinned "string" (.str h)
  content : (a.schema.property? "content").isSome = true ↔ r.naive = false

namespace Docs

/-- The members of which only some leaves have a description. -/
lemma Leaf.property?_schema (l : Leaf) :
    l.schema.property? "hint" = l.hint.map (fun h => pinned "string" (.str h.text)) ∧
      (l.schema.property? "content").isSome = l.carriesContent := by
  have described : l.schema.member? "properties" = some (.obj l.properties) := rfl
  unfold Json.property?
  rw [described]
  unfold Leaf.properties
  cases l.hint <;> cases l.carriesContent <;> exact ⟨rfl, rfl⟩

/-- A member has one value only, so that equal descriptions pin equal texts. -/
lemma pinned_str_injective : Function.Injective fun s => pinned "string" (.str s) := by
  intro s s' same
  simpa [pinned] using same

namespace Catalogue

/-- A catalogue has for a name the last of its artifacts with that name. -/
lemma get?_ofArtifacts (typeName : String) (artifacts : List Artifact) (name : String) :
    (ofArtifacts typeName artifacts).get? name =
      (artifacts.filter fun a => a.name = name).getLast? := by
  show (OrderedMap.ofList (artifacts.map fun a => (a.name, a))).get? name = _
  rw [OrderedMap.get?_ofList, List.filter_map, List.getLast?_map, Option.map_map]
  exact Option.map_id'

/-- The catalogue of a taxonomy has, for the name of a case that is shown to the client, the artifact of
the last such case. -/
lemma get?_ofTaxonomy_last {t : Taxonomy} (free : t.reservedFaults = []) {e : ErrorCase}
    (member : e ∈ t.clientCases) :
    (ofTaxonomy t).get? e.name =
      (t.clientCases.filter fun d => d.name = e.name).getLast?.map fun d => .single (Leaf.ofCase t d) := by
  -- The shared artifact has another name, if it is there at all.
  have shared : (if t.internalCases.isEmpty then []
      else [Artifact.single (.internal t.internalCode)]).filter (fun a => a.name = e.name) = [] := by
    split_ifs with none
    · rfl
    · have other : (Artifact.single (.internal t.internalCode)).name ≠ e.name := by
        rw [Artifact.name_single]
        exact (Taxonomy.name_ne_of_client free none member).symm
      rw [List.filter_cons_of_neg (by simpa using other), List.filter_nil]
  rw [ofTaxonomy, get?_ofArtifacts, artifactsOf_eq, List.filter_append, shared, List.append_nil,
    List.filter_map, List.getLast?_map]
  congr 2
  refine List.filter_congr fun d member => ?_
  rw [Function.comp_apply, name_of_client member]

end Catalogue

end Docs

namespace Taxonomy

/-- A case that is shown to the client answers a request. -/
lemma request_of_client {t : Taxonomy} {e : ErrorCase} (member : e ∈ t.clientCases) :
    ∃ r, e.attributes = .request r := by
  obtain ⟨-, shown⟩ := List.mem_filter.1 member
  cases given : e.attributes with
  | request r => exact ⟨r, rfl⟩
  | internal => simp [ErrorCase.isInternal, ErrorCase.request?, given] at shown

/-- The rule of a case agrees with the artifact of another that is shown to the client just when both
tell the client the same, and both carry a payload or neither does. -/
lemma agrees_iff (t : Taxonomy) (logged : Bool) (first : ErrorCase) {last : ErrorCase}
    (member : last ∈ t.clientCases) :
    (Rule.ofCase t logged first).Agrees (.single (Docs.Leaf.ofCase t last)) ↔
      first.naive = last.naive ∧ first.attributes.declaration.told = last.attributes.declaration.told := by
  obtain ⟨q, given⟩ := request_of_client member
  obtain ⟨firstName, firstNaive, attributes⟩ := first
  obtain ⟨lastName, lastNaive, lastAttributes⟩ := last
  cases given
  have ⟨hint, content⟩ := (Docs.Leaf.ofRequest lastName lastNaive q).property?_schema
  cases attributes with
  | internal =>
    constructor
    · intro agrees
      cases agrees.client
    · rintro ⟨-, ⟨⟩⟩
  | request p =>
    have told : (Attributes.request p).declaration.told = (Attributes.request q).declaration.told ↔
        q.status.value = p.status.value ∧ q.code.text = p.code.text ∧
          q.hint.map Wording.text = p.hint.map Wording.text := by
      simp only [Attributes.declaration, Declaration.told, Option.some.injEq, Prod.mk.injEq]
      exact and_congr eq_comm (and_congr eq_comm eq_comm)
    rw [told]
    constructor
    · rintro ⟨-, status, codes, sameHint, sameContent⟩
      have texts : q.hint.map Wording.text = p.hint.map Wording.text := by
        refine Option.map_injective Docs.pinned_str_injective ?_
        rw [Option.map_map]
        exact hint.symm.trans sameHint
      have carried : (!lastNaive) = true ↔ firstNaive = false :=
        (Bool.eq_iff_iff.1 content).symm.trans sameContent
      refine ⟨?_, status, (List.cons.inj codes).1, texts⟩
      cases firstNaive <;> cases lastNaive <;> simp at carried ⊢
    · rintro ⟨rfl, status, code, texts⟩
      refine ⟨rfl, status, congrArg (fun c => [c]) code, ?_, ?_⟩
      · refine hint.trans ?_
        show _ = (p.hint.map Wording.text).map _
        rw [← texts, Option.map_map]
        rfl
      · show (((Docs.Leaf.ofRequest lastName firstNaive q).schema.property? "content").isSome = true ↔ _)
        rw [content]
        simp [Docs.Leaf.ofRequest, Rule.ofCase]

end Taxonomy

/-- In an accepted unit the name of a case that is shown to the client is answered as the first case of
the name, and documented as the last that is shown to the client. Answer and documentation describe one
declaration just when these two tell the client the same, and both carry a payload or neither does; so
they do where only one case has the name. -/
theorem lowerings_agree_iff (u : UnitDecl) (settings : Settings) (compiled : Compiled)
    (accepted : (u.compile settings).outcome = .ok compiled) :
    ∀ e ∈ compiled.taxonomy.clientCases, ∃ first last r a,
      (compiled.taxonomy.cases.find? fun d => d.name == e.name) = some first ∧
      (compiled.taxonomy.clientCases.filter fun d => d.name = e.name).getLast? = some last ∧
      compiled.table.ruleFor e.name = .ok r ∧
      r = .ofCase compiled.taxonomy settings.logInternalErrors first ∧
      compiled.catalogue.get? e.name = some a ∧
      a = .single (Docs.Leaf.ofCase compiled.taxonomy last) ∧
      (r.Agrees a ↔ first.naive = last.naive ∧
        first.attributes.declaration.told = last.attributes.declaration.told) ∧
      ((∀ d ∈ compiled.taxonomy.cases, d.name = e.name → d = e) → r.Agrees a) := by
  obtain ⟨wf, rfl⟩ := UnitDecl.compile_eq_ok_iff.1 accepted
  intro e member
  have there := (List.mem_filter.1 member).1
  obtain ⟨first, found⟩ : ∃ first,
      ((u.taxonomy u.readable).cases.find? fun d => d.name == e.name) = some first := by
    rw [← Option.isSome_iff_exists, List.find?_isSome]
    exact ⟨e, there, by simp⟩
  obtain ⟨last, latest⟩ : ∃ last,
      ((u.taxonomy u.readable).clientCases.filter fun d => d.name = e.name).getLast? = some last :=
    ⟨_, List.getLast?_eq_some_getLast (List.ne_nil_of_mem (List.mem_filter.2 ⟨member, by simp⟩))⟩
  have shown := List.mem_filter.1 (List.mem_of_getLast? latest)
  have rule := ResponseTable.ruleFor_ofTaxonomy (u.taxonomy u.readable) settings.logInternalErrors e.name
  rw [found] at rule
  have documented := Docs.Catalogue.get?_ofTaxonomy_last wf.reservedFaults member
  rw [latest] at documented
  have agrees := Taxonomy.agrees_iff (u.taxonomy u.readable) settings.logInternalErrors first shown.1
  refine ⟨first, last, _, _, found, latest, rule, rfl, documented, rfl, agrees, ?_⟩
  intro alone
  have firstAlone : first = e :=
    alone first (List.mem_of_find?_eq_some found) (by simpa using List.find?_some found)
  have lastAlone : last = e :=
    alone last (List.mem_filter.1 shown.1).1 (by simpa using shown.2)
  rw [agrees, firstAlone, lastAlone]
  exact ⟨rfl, rfl⟩

/-- A unit that declares one error twice, with two descriptions. -/
def twiceUnit : UnitDecl where
  name := "Twice"
  annotation := none
  cases := [
    ⟨"Gone", true, some ⟨[.text "request"], .ofList [("status", .int 404), ("code", .text "gone"),
      ("description", .text "It is gone")]⟩⟩,
    ⟨"Gone", true, some ⟨[.text "request"], .ofList [("status", .status .notFound), ("code", .text "gone"),
      ("description", .text "Nobody has it")]⟩⟩]
  reserved := []

/-- The error is answered as the first of them and documented as the second, which tells the client the
same. -/
theorem twiceUnit_agrees : ∃ compiled r a, (twiceUnit.compile .default).outcome = .ok compiled ∧
    compiled.table.ruleFor "Gone" = .ok r ∧ compiled.catalogue.get? "Gone" = some a ∧
    a.responseDescription = "Nobody has it" ∧ r.Agrees a := by
  have accepted : (twiceUnit.compile .default).outcome =
      .ok ((twiceUnit.taxonomy twiceUnit.readable).compiled .default) := by cbv
  let gone : ErrorCase := ⟨"Gone", true,
    .request ⟨.registered .notFound, .literal "gone", none, some (.literal "Nobody has it")⟩⟩
  have member : gone ∈ (twiceUnit.taxonomy twiceUnit.readable).clientCases := by decide
  obtain ⟨first, last, r, a, found, latest, rule, -, documented, rfl, agrees, -⟩ :=
    lowerings_agree_iff twiceUnit .default _ accepted gone member
  have isFirst : first = ⟨"Gone", true,
      .request ⟨.number 404, .literal "gone", none, some (.literal "It is gone")⟩⟩ :=
    Option.some.inj (found.symm.trans (by decide))
  have isLast : last = gone := Option.some.inj (latest.symm.trans (by decide))
  refine ⟨_, r, _, accepted, rule, documented, ?_, agrees.2 ?_⟩
  · rw [isLast]
    rfl
  · rw [isFirst, isLast]
    exact ⟨rfl, rfl⟩

/-- A unit that declares an internal case, and behind it a request of the same name. -/
def namesakesUnit : UnitDecl where
  name := "Twins"
  annotation := none
  cases := [
    ⟨"Gone", true, some ⟨[.text "internal"], .empty⟩⟩,
    ⟨"Gone", true, some ⟨[.text "request"], .ofList [("status", .int 404), ("code", .text "gone")]⟩⟩]
  reserved := []

/-- That unit is accepted, and the name of its request is documented with its status, but answered with
that of the internal case. -/
theorem namesakesUnit_disagrees : ∃ compiled e r a,
    (namesakesUnit.compile .default).outcome = .ok compiled ∧ e ∈ compiled.taxonomy.clientCases ∧
    compiled.table.ruleFor e.name = .ok r ∧ compiled.catalogue.get? e.name = some a ∧
    r.isInternal = true ∧ r.status = 500 ∧ a.status = 404 ∧ ¬r.Agrees a := by
  have accepted : (namesakesUnit.compile .default).outcome =
      .ok ((namesakesUnit.taxonomy namesakesUnit.readable).compiled .default) := by cbv
  let gone : ErrorCase := ⟨"Gone", true, .request ⟨.number 404, .literal "gone", none, none⟩⟩
  have member : gone ∈ (namesakesUnit.taxonomy namesakesUnit.readable).clientCases := by decide
  refine ⟨_, gone, ⟨"Twins", "Gone", true, .internal "internal-error" true⟩, _, accepted, member, by decide,
    rfl, rfl, rfl, rfl, fun agrees => ?_⟩
  cases agrees.client

end Errata
