import Errata.Proofs.Compile.Acceptance

/-!
# Looking up cases

Where no two cases of a unit have one name, its table has the rule of every case under that name, and
its catalogue has the artifact of every case: under its own name if it is shown to the client, and under
the shared name otherwise. The shared name does not hide a case, because an accepted unit leaves it to
the internal ones.
-/

namespace Errata

namespace UnitDecl

/-- The cases of a well-formed unit keep their names when they are read. -/
lemma WellFormed.names_readable {u : UnitDecl} (wf : u.WellFormed) :
    u.readable.map ErrorCase.name = u.cases.map CaseDecl.name := by
  have kept : ∀ c ∈ u.cases, c.reading.map ErrorCase.name = some c.name := by
    intro c member
    obtain ⟨d, declares⟩ := wf.declared c member
    obtain ⟨e, read, name, -⟩ := declares.reading
    rw [read, Option.map_some, name]
  have names := congrArg (List.map (Option.map ErrorCase.name)) (map_reading wf.declared)
  rw [List.map_map, List.map_map] at names
  have same : u.readable.map (some ∘ ErrorCase.name) = u.cases.map (some ∘ CaseDecl.name) :=
    names.symm.trans (List.map_congr_left kept)
  rw [← List.map_map, ← List.map_map] at same
  exact List.map_injective_iff.2 (fun _ _ => Option.some.inj) same

/-- A well-formed unit leaves the shared name to its internal cases. -/
lemma WellFormed.reservedFaults {u : UnitDecl} (wf : u.WellFormed) :
    (u.taxonomy u.readable).reservedFaults = [] := by
  have names := (nameFaults_eq_nil_iff wf.declared).2 ⟨wf.unreserved, wf.internalName⟩
  exact (List.append_eq_nil_iff.1 names).2

end UnitDecl

/-- Where there are internal cases, no case that is shown to the client has their name. -/
lemma Taxonomy.name_ne_of_client {t : Taxonomy} (free : t.reservedFaults = [])
    (hidden : ¬t.internalCases.isEmpty) {e : ErrorCase} (member : e ∈ t.clientCases) :
    e.name ≠ internalErrorName := by
  rw [List.isEmpty_iff] at hidden
  obtain ⟨i, internal⟩ := List.exists_mem_of_ne_nil _ hidden
  obtain ⟨there, internal⟩ := List.mem_filter.1 internal
  obtain ⟨member, shown⟩ := List.mem_filter.1 member
  exact fun taken => reservedFaults_eq_nil_iff.1 free
    ⟨⟨i, there, internal⟩, e, member, by simpa using shown, taken⟩

/-- Where no two cases have one name, the first with the name of a case is that case. -/
lemma ErrorCase.find?_name {cases : List ErrorCase} (distinct : (cases.map ErrorCase.name).Nodup)
    {e : ErrorCase} (member : e ∈ cases) : (cases.find? fun d => d.name == e.name) = some e := by
  induction cases with
  | nil => cases member
  | cons d cases ih =>
    rw [List.map_cons, List.nodup_cons] at distinct
    rcases List.mem_cons.1 member with rfl | member
    · simp
    · have other : d.name ≠ e.name := by
        intro same
        exact distinct.1 (same ▸ List.mem_map_of_mem member)
      rw [List.find?_cons_of_neg (by simpa using other)]
      exact ih distinct.2 member

/-- The answer that a case prescribes, in a unit with the given code for its internal cases. -/
def ErrorCase.prescribed (e : ErrorCase) (internalCode : String) (content : Value) : ErrorBody :=
  match e.attributes with
  | .request r =>
    ⟨r.status.value, r.code.text, r.hint.map Wording.text, if e.naive then .null else content⟩
  | .internal => ⟨500, internalCode, none, .null⟩

/-- The rule of a case gives what the case prescribes. -/
lemma Rule.body_ofCase (t : Taxonomy) (logged : Bool) (e : ErrorCase) (content : Value) :
    (ofCase t logged e).body content = e.prescribed t.internalCode.text content := by
  obtain ⟨name, naive, attributes⟩ := e
  cases attributes <;> rfl

namespace ResponseTable

/-- The table of a taxonomy has for a name the rule of the first case of that name. -/
lemma ruleFor_ofTaxonomy (t : Taxonomy) (logged : Bool) (name : String) :
    (ofTaxonomy t logged).ruleFor name =
      match t.cases.find? fun e => e.name == name with
      | some e => .ok (.ofCase t logged e)
      | none => .error ⟨t.typeName, name⟩ := by
  have found : (t.cases.map (Rule.ofCase t logged)).find? (fun r => r.caseName == name) =
      (t.cases.find? fun e => e.name == name).map (Rule.ofCase t logged) :=
    List.find?_map
  unfold ruleFor ofTaxonomy
  rw [found]
  cases t.cases.find? fun e => e.name == name <;> rfl

/-- The table of a taxonomy without namesakes has the rule of every case. -/
lemma ruleFor_name {t : Taxonomy} (logged : Bool) (distinct : (t.cases.map ErrorCase.name).Nodup)
    {e : ErrorCase} (member : e ∈ t.cases) :
    (ofTaxonomy t logged).ruleFor e.name = .ok (.ofCase t logged e) := by
  rw [ruleFor_ofTaxonomy, ErrorCase.find?_name distinct member]

/-- A case that has a rule is converted by the rule: it leaves its records and gives its body. -/
lemma convert_eq {t : ResponseTable} {name : String} {rule : Rule}
    (found : t.ruleFor name = .ok rule) (p : Value) :
    t.convert name p = .of (rule.records p) (.ok (rule.body p)) := by
  rw [convert, found]
  rfl

/-- A case that has a rule is converted to the body that the rule gives. -/
lemma convert_outcome {t : ResponseTable} {name : String} {rule : Rule}
    (found : t.ruleFor name = .ok rule) (p : Value) :
    (t.convert name p).outcome = .ok (rule.body p) := by
  rw [convert_eq found, Attempt.outcome_of]

/-- The table of a taxonomy converts a name to what the first case of that name prescribes. -/
lemma convert_ofTaxonomy (t : Taxonomy) (logged : Bool) (name : String) (content : Value) :
    ((ofTaxonomy t logged).convert name content).outcome =
      match t.cases.find? fun e => e.name == name with
      | some e => .ok (e.prescribed t.internalCode.text content)
      | none => .error ⟨t.typeName, name⟩ := by
  have rule := ruleFor_ofTaxonomy t logged name
  cases found : t.cases.find? fun e => e.name == name with
  | some e =>
    rw [found] at rule
    rw [convert_outcome rule, Rule.body_ofCase]
  | none =>
    rw [found] at rule
    rw [convert, Attempt.outcome_bind, Attempt.outcome_lift, rule]
    rfl

end ResponseTable

namespace Docs

/-- A single artifact has the name of its leaf. -/
lemma Artifact.name_single (l : Leaf) : (Artifact.single l).name = l.name := by
  simp [name, leaves, single]

/-- The leaf that documents a case: its own, or the one that all internal cases share. -/
def Leaf.ofCase (t : Taxonomy) (e : ErrorCase) : Leaf :=
  match e.attributes with
  | .request r => .ofRequest e.name e.naive r
  | .internal => .internal t.internalCode

/-- A case that is shown to the client is documented under its own name. -/
lemma Leaf.name_ofCase (t : Taxonomy) (e : ErrorCase) :
    (Leaf.ofCase t e).name = if e.isInternal then internalErrorName else e.name := by
  obtain ⟨name, naive, attributes⟩ := e
  cases attributes <;> rfl

/-- The body that a leaf documents. -/
def Leaf.body (l : Leaf) (content : Value) : ErrorBody :=
  ⟨l.status, l.code.text, l.hint.map Wording.text, if l.carriesContent then content else .null⟩

/-- The rule of a case gives the body that the leaf of the case documents. -/
lemma Leaf.body_ofCase (t : Taxonomy) (logged : Bool) (e : ErrorCase) (content : Value) :
    (Rule.ofCase t logged e).body content = (Leaf.ofCase t e).body content := by
  obtain ⟨name, naive, attributes⟩ := e
  cases attributes with
  | request r => cases naive <;> rfl
  | internal => rfl

/-- No content is documented for a case that is naive or internal. -/
lemma Leaf.carriesContent_ofCase (t : Taxonomy) (e : ErrorCase) :
    (Leaf.ofCase t e).carriesContent = !(e.isInternal || e.naive) := by
  obtain ⟨name, naive, attributes⟩ := e
  cases attributes <;> cases naive <;> rfl

namespace Catalogue

/-- The artifacts of a taxonomy: those of the cases that are shown to the client, in their order, and
behind them the shared one. -/
lemma artifactsOf_eq (t : Taxonomy) :
    artifactsOf t = t.clientCases.map (fun e => .single (Leaf.ofCase t e)) ++
      if t.internalCases.isEmpty then [] else [.single (.internal t.internalCode)] := by
  have client (cases : List ErrorCase) :
      (cases.filterMap fun c => c.request?.map fun r =>
        Artifact.single (.ofRequest c.name c.naive r)) =
      (cases.filter fun c => !c.isInternal).map fun e => .single (Leaf.ofCase t e) := by
    induction cases with
    | nil => rfl
    | cons c cases ih =>
      obtain ⟨name, naive, attributes⟩ := c
      cases attributes with
      | request r => simpa [ErrorCase.request?, ErrorCase.isInternal, Leaf.ofCase] using ih
      | internal => simpa [ErrorCase.request?, ErrorCase.isInternal] using ih
  unfold artifactsOf
  rw [client]
  rfl

/-- The artifact of a case that is shown to the client has the name of the case. -/
lemma name_of_client {t : Taxonomy} {e : ErrorCase} (member : e ∈ t.clientCases) :
    (Artifact.single (Leaf.ofCase t e)).name = e.name := by
  obtain ⟨-, shown⟩ := List.mem_filter.1 member
  rw [Artifact.name_single, Leaf.name_ofCase, if_neg (by simpa using shown)]

/-- Every case has its leaf among the artifacts of a taxonomy. -/
lemma mem_artifactsOf {t : Taxonomy} {e : ErrorCase} (member : e ∈ t.cases) :
    .single (Leaf.ofCase t e) ∈ artifactsOf t := by
  rw [artifactsOf_eq, List.mem_append]
  cases attributes : e.attributes with
  | request r =>
    left
    refine List.mem_map_of_mem (List.mem_filter.2 ⟨member, ?_⟩)
    simp [ErrorCase.isInternal, ErrorCase.request?, attributes]
  | internal =>
    right
    have internal : e ∈ t.internalCases := by
      simp [Taxonomy.internalCases, member, ErrorCase.isInternal, ErrorCase.request?, attributes]
    rw [if_neg (by simpa using List.ne_nil_of_mem internal), Leaf.ofCase, attributes]
    exact List.mem_singleton_self _

/-- The documented names of a taxonomy. -/
lemma names_artifactsOf (t : Taxonomy) :
    (artifactsOf t).map Artifact.name =
      t.clientCases.map ErrorCase.name ++ if t.internalCases.isEmpty then [] else [internalErrorName] := by
  rw [artifactsOf_eq, List.map_append, List.map_map]
  congr 1
  · exact List.map_congr_left fun e member => name_of_client member
  · split_ifs
    · rfl
    · rw [List.map_singleton, Artifact.name_single]
      rfl

/-- No name is documented twice, where no two cases have one name and the shared one is left to the
internal cases. -/
lemma nodup_names_artifactsOf {t : Taxonomy} (distinct : (t.cases.map ErrorCase.name).Nodup)
    (free : t.reservedFaults = []) : ((artifactsOf t).map Artifact.name).Nodup := by
  have client : (t.clientCases.map ErrorCase.name).Nodup :=
    distinct.sublist (List.filter_sublist.map _)
  rw [names_artifactsOf]
  split_ifs with none
  · simpa using client
  · -- The shared name stands behind the others, and no case shown to the client has it.
    refine List.nodup_append.2 ⟨client, by simp, ?_⟩
    rintro name named _ shared rfl
    obtain ⟨e, member, rfl⟩ := List.mem_map.1 named
    exact Taxonomy.name_ne_of_client free none member (List.mem_singleton.1 shared)

/-- The catalogue of a taxonomy has the leaf of every case. -/
lemma get?_ofTaxonomy {t : Taxonomy} (distinct : (t.cases.map ErrorCase.name).Nodup)
    (free : t.reservedFaults = []) {e : ErrorCase} (member : e ∈ t.cases) :
    (ofTaxonomy t).get? (Leaf.ofCase t e).name = some (.single (Leaf.ofCase t e)) := by
  have nodup : (((artifactsOf t).map fun a => (a.name, a)).map Prod.fst).Nodup := by
    rw [List.map_map]
    exact nodup_names_artifactsOf distinct free
  refine OrderedMap.get?_eq_some_iff.2 ?_
  show _ ∈ (OrderedMap.ofList _).entries
  rw [OrderedMap.entries_ofList nodup]
  refine List.mem_map.2 ⟨_, mem_artifactsOf member, ?_⟩
  rw [Artifact.name_single]

end Catalogue

end Docs

end Errata
