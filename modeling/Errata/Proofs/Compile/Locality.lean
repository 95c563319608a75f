import Errata.Proofs.Compile.Namesakes

/-!
# Cases by themselves

What a case is compiled to depends on the case alone: whatever stands around it in a unit, its rule and its
artifact are the same, as long as no other case has its name. Only the rule of an internal case shows
something of the unit, and that is its code. So the order of the cases decides on nothing but the order of
the rules and the artifacts (`compile_local`).
-/

namespace Errata

namespace CaseDecl

/-- The disposition that a case gives first, if it gives one. -/
def disposition? (c : CaseDecl) : Option Disposition := c.annotation.bind Annotation.disposition?

/-- A case that declares something gives the disposition of its declaration. -/
lemma Declares.disposition? {c : CaseDecl} {d : Declaration} (declares : c.Declares d) :
    c.disposition? = some (if d.isInternal then .internal else .request) := by
  obtain ⟨a, found, declares⟩ := declares
  rw [CaseDecl.disposition?, found, Option.bind_some]
  cases declares with
  | request args word => exact Annotation.disposition?_eq_some_iff.2 ⟨_, _, args, word⟩
  | internal args word => exact Annotation.disposition?_eq_some_iff.2 ⟨_, _, args, word⟩

/-- A case that declares something is read as a case with the disposition that it gives. -/
lemma Declares.exists_reading {c : CaseDecl} {d : Declaration} (declares : c.Declares d) :
    ∃ e, c.reading = some e ∧ e.name = c.name ∧
      c.disposition? = some (if e.isInternal then .internal else .request) := by
  have disposition := declares.disposition?
  obtain ⟨e, read, name, -, rfl⟩ := declares.reading
  rw [← ErrorCase.isInternal_eq] at disposition
  exact ⟨e, read, name, disposition⟩

/-- The cases that are shown to the client are those that are declared so, in their order. -/
lemma names_of_client {cases : List CaseDecl} (declared : ∀ c ∈ cases, ∃ d, c.Declares d) :
    ((cases.filterMap reading).filter fun e => !e.isInternal).map ErrorCase.name =
      (cases.filter fun c => c.disposition? = some .request).map CaseDecl.name := by
  induction cases with
  | nil => rfl
  | cons c cases ih =>
    obtain ⟨d, declares⟩ := declared c (List.mem_cons_self ..)
    obtain ⟨e, read, name, disposition⟩ := declares.exists_reading
    have rest := ih fun c member => declared c (List.mem_cons_of_mem _ member)
    rw [List.filterMap_cons_some read, List.filter_cons, List.filter_cons, disposition]
    cases e.isInternal with
    | false => simp [name, rest]
    | true => simp [rest]

end CaseDecl

namespace UnitDecl

/-- The case is the only one of its name in a unit. -/
structure Sole (u : UnitDecl) (c : CaseDecl) : Prop where
  member : c ∈ u.cases
  only : ∀ d ∈ u.cases, d.name = c.name → d = c

/-- There are internal cases when some are declared. -/
lemma WellFormed.internalCases_isEmpty {u : UnitDecl} (wf : u.WellFormed) :
    (u.taxonomy u.readable).internalCases.isEmpty =
      !u.cases.any fun c => c.disposition? = some .internal := by
  rw [Bool.eq_iff_iff, List.isEmpty_iff, Taxonomy.internalCases, List.filter_eq_nil_iff, Bool.not_eq_true',
    List.any_eq_false]
  constructor
  · intro none c member
    obtain ⟨d, declares⟩ := wf.declared c member
    obtain ⟨e, read, -, disposition⟩ := declares.exists_reading
    have shown := none e (mem_readable.2 ⟨c, member, read⟩)
    simp [disposition, shown]
  · intro none e there
    obtain ⟨c, member, read⟩ := mem_readable.1 there
    obtain ⟨d, declares⟩ := wf.declared c member
    obtain ⟨e', read', -, disposition⟩ := declares.exists_reading
    cases read.symm.trans read'
    have shown := none c member
    rw [disposition] at shown
    simpa using shown

end UnitDecl

/-! ## One case -/

/-- The rule of a case depends on its unit by the name, and if it is internal by the code. -/
lemma Rule.ofCase_congr (t t' : Taxonomy) (logged : Bool) {e : ErrorCase} (name : t.typeName = t'.typeName)
    (code : e.isInternal = true → t.internalCode.text = t'.internalCode.text) :
    ofCase t logged e = ofCase t' logged e := by
  obtain ⟨caseName, naive, attributes⟩ := e
  cases attributes with
  | request r => simp only [ofCase, name]
  | internal => simp only [ofCase, name, code rfl]

/-- The leaf of a case that is shown to the client does not depend on its unit. -/
lemma Docs.Leaf.ofCase_congr (t t' : Taxonomy) {e : ErrorCase} (shown : e.isInternal = false) :
    ofCase t e = ofCase t' e := by
  obtain ⟨caseName, naive, attributes⟩ := e
  cases attributes with
  | request r => rfl
  | internal => cases shown

namespace UnitDecl

variable {u : UnitDecl} {c : CaseDecl} {e : ErrorCase}

/-- A sole case is the only one of its name among those that are read, too. -/
lemma Sole.eq_of_name (sole : u.Sole c) (read : c.reading = some e) {d : ErrorCase}
    (there : d ∈ u.readable) (same : d.name = c.name) : d = e := by
  obtain ⟨c', member, read'⟩ := mem_readable.1 there
  have itself : c' = c := sole.only c' member ((CaseDecl.name_of_reading read').symm.trans same)
  rw [itself, read] at read'
  exact (Option.some.inj read').symm

/-- The table has the rule of a sole case. -/
lemma Sole.ruleFor (sole : u.Sole c) (read : c.reading = some e) (logged : Bool) :
    (ResponseTable.ofTaxonomy (u.taxonomy u.readable) logged).ruleFor c.name =
      .ok (.ofCase (u.taxonomy u.readable) logged e) := by
  have there : e ∈ u.readable := mem_readable.2 ⟨c, sole.member, read⟩
  obtain ⟨first, found⟩ : ∃ first, (u.readable.find? fun d => d.name == c.name) = some first := by
    rw [← Option.isSome_iff_exists, List.find?_isSome]
    exact ⟨e, there, by simpa using CaseDecl.name_of_reading read⟩
  have itself : first = e := sole.eq_of_name read (List.mem_of_find?_eq_some found)
    (by simpa using List.find?_some found)
  rw [itself] at found
  have selected : (u.taxonomy u.readable).cases.find? (fun d => d.name == c.name) = some e := found
  rw [ResponseTable.ruleFor_ofTaxonomy, selected]

/-- The catalogue of a well-formed unit has the artifact of a sole case that is shown to the client. -/
lemma Sole.get? (sole : u.Sole c) (wf : u.WellFormed) (read : c.reading = some e)
    (shown : e.isInternal = false) :
    (Docs.Catalogue.ofTaxonomy (u.taxonomy u.readable)).get? c.name =
      some (.single (.ofCase (u.taxonomy u.readable) e)) := by
  have there : e ∈ (u.taxonomy u.readable).clientCases :=
    List.mem_filter.2 ⟨mem_readable.2 ⟨c, sole.member, read⟩, by simpa using shown⟩
  have name := CaseDecl.name_of_reading read
  obtain ⟨last, latest⟩ : ∃ last,
      ((u.taxonomy u.readable).clientCases.filter fun d => d.name = e.name).getLast? = some last :=
    ⟨_, List.getLast?_eq_some_getLast (List.ne_nil_of_mem (List.mem_filter.2 ⟨there, by simp⟩))⟩
  obtain ⟨member, same⟩ := List.mem_filter.1 (List.mem_of_getLast? latest)
  have itself : last = e := sole.eq_of_name read (List.mem_filter.1 member).1
    ((by simpa using same : last.name = e.name).trans name)
  rw [← name, Docs.Catalogue.get?_ofTaxonomy_last wf.reservedFaults there, latest, itself, Option.map_some]

end UnitDecl

/-! ## The order of the cases -/

namespace UnitDecl

variable {u : UnitDecl} {cases : List CaseDecl}

/-- Whether a unit is well formed does not depend on the order of its cases. -/
lemma wellFormed_perm (perm : cases.Perm u.cases) : ({ u with cases } : UnitDecl).WellFormed ↔ u.WellFormed := by
  have same : ∀ c, c ∈ cases ↔ c ∈ u.cases := fun c => perm.mem_iff
  constructor
  · rintro ⟨declared, unreserved, internalName⟩
    simp only [same] at declared unreserved internalName
    exact ⟨declared, unreserved, internalName⟩
  · rintro ⟨declared, unreserved, internalName⟩
    simp only [← same] at declared unreserved internalName
    exact ⟨declared, unreserved, internalName⟩

end UnitDecl

/-- Among cases of distinct names the case of a name is found in any order. -/
lemma ErrorCase.find?_name_perm {cases cases' : List ErrorCase} (perm : cases'.Perm cases)
    (distinct : (cases.map ErrorCase.name).Nodup) (name : String) :
    (cases'.find? fun e => e.name == name) = cases.find? fun e => e.name == name := by
  cases found : cases.find? fun e => e.name == name with
  | none =>
    rw [List.find?_eq_none] at found ⊢
    exact fun e member => found e (perm.mem_iff.1 member)
  | some e =>
    have named : e.name = name := by simpa using List.find?_some found
    rw [← named]
    refine find?_name ((perm.map ErrorCase.name).nodup_iff.2 distinct) (perm.mem_iff.2 ?_)
    exact List.mem_of_find?_eq_some found

namespace Taxonomy

variable {t : Taxonomy} {cases : List ErrorCase}

/-- Where the names are distinct, every name has the same rule in any order of the cases. -/
lemma ruleFor_perm (perm : cases.Perm t.cases) (distinct : (t.cases.map ErrorCase.name).Nodup)
    (logged : Bool) (name : String) :
    (ResponseTable.ofTaxonomy { t with cases } logged).ruleFor name =
      (ResponseTable.ofTaxonomy t logged).ruleFor name := by
  rw [ResponseTable.ruleFor_ofTaxonomy, ResponseTable.ruleFor_ofTaxonomy,
    ErrorCase.find?_name_perm perm distinct]
  rfl

/-- The artifacts are the same in any order of the cases, but for their own order. -/
lemma artifactsOf_perm (perm : cases.Perm t.cases) :
    (Docs.Catalogue.artifactsOf { t with cases }).Perm (Docs.Catalogue.artifactsOf t) := by
  have none : (cases.filter ErrorCase.isInternal).isEmpty = (t.cases.filter ErrorCase.isInternal).isEmpty :=
    (perm.filter _).isEmpty_eq
  unfold Docs.Catalogue.artifactsOf internalCases
  rw [none]
  exact (perm.filterMap _).append_right _

/-- Where the names are distinct, every name has the same artifact in any order of the cases. -/
lemma get?_perm (perm : cases.Perm t.cases) (distinct : (t.cases.map ErrorCase.name).Nodup)
    (free : t.reservedFaults = []) (name : String) :
    (Docs.Catalogue.ofTaxonomy { t with cases }).get? name = (Docs.Catalogue.ofTaxonomy t).get? name := by
  refine (OrderedMap.get?_ofList_perm ((artifactsOf_perm perm).symm.map _) ?_ name).symm
  rw [List.map_map]
  exact Docs.Catalogue.nodup_names_artifactsOf distinct free

/-- The documented names, in order: those of the cases that are shown to the client, and behind them the
shared one. -/
lemma names_ofTaxonomy (distinct : (t.cases.map ErrorCase.name).Nodup) (free : t.reservedFaults = []) :
    (Docs.Catalogue.ofTaxonomy t).names =
      t.clientCases.map ErrorCase.name ++ if t.internalCases.isEmpty then [] else [internalErrorName] := by
  have nodup := Docs.Catalogue.nodup_names_artifactsOf distinct free
  have keys : (((Docs.Catalogue.artifactsOf t).map fun a => (a.name, a)).map Prod.fst).Nodup := by
    rw [List.map_map]
    exact nodup
  rw [← Docs.Catalogue.names_artifactsOf]
  show (OrderedMap.ofList _).entries.map Prod.fst = _
  rw [OrderedMap.entries_ofList keys, List.map_map]
  rfl

end Taxonomy

namespace UnitDecl

variable {u : UnitDecl}

/-- The rules of a well-formed unit stand in the order of its cases. -/
lemma WellFormed.rules (wf : u.WellFormed) (logged : Bool)
    (distinct : (u.cases.map CaseDecl.name).Nodup) :
    (ResponseTable.ofTaxonomy (u.taxonomy u.readable) logged).rules.map Except.ok =
      u.cases.map fun c => (ResponseTable.ofTaxonomy (u.taxonomy u.readable) logged).ruleFor c.name := by
  have names : (u.readable.map ErrorCase.name).Nodup := wf.names_readable ▸ distinct
  let rule (name : String) := (ResponseTable.ofTaxonomy (u.taxonomy u.readable) logged).ruleFor name
  calc (u.readable.map (Rule.ofCase (u.taxonomy u.readable) logged)).map Except.ok
      = u.readable.map (rule ∘ ErrorCase.name) := by
        rw [List.map_map]
        exact List.map_congr_left fun e member => (ResponseTable.ruleFor_name logged names member).symm
    _ = (u.cases.map CaseDecl.name).map rule := by rw [← wf.names_readable, List.map_map]
    _ = u.cases.map fun c => rule c.name := by rw [List.map_map]; rfl

/-- The documented names of a well-formed unit: those of the cases that are declared to be shown to the
client, in their order, and behind them the shared one, if an internal case is declared. -/
lemma WellFormed.names (wf : u.WellFormed) (distinct : (u.cases.map CaseDecl.name).Nodup) :
    (Docs.Catalogue.ofTaxonomy (u.taxonomy u.readable)).names =
      (u.cases.filter fun c => c.disposition? = some .request).map CaseDecl.name ++
        if u.cases.any fun c => c.disposition? = some .internal then [internalErrorName] else [] := by
  have names : ((u.taxonomy u.readable).cases.map ErrorCase.name).Nodup := wf.names_readable ▸ distinct
  have client : (u.taxonomy u.readable).clientCases.map ErrorCase.name = _ :=
    CaseDecl.names_of_client wf.declared
  rw [Taxonomy.names_ofTaxonomy names wf.reservedFaults, client, wf.internalCases_isEmpty]
  cases u.cases.any fun c => c.disposition? = some .internal <;> rfl

/-- A case that is the only one of its name has the same rule and the same artifact in every unit of one
name that is accepted with it, whatever else the unit declares; the rule of an internal case is the same
where the codes of the units are. Where the names of a unit are distinct, it is accepted with its cases in
any order or in none. Every name then has the same rule and the same artifact, the rules follow the cases,
and the artifacts follow those that are shown to the client, with the shared one at the end. -/
theorem compile_local (u : UnitDecl) (settings : Settings) :
    (∀ (v : UnitDecl) (cu cv : Compiled) (c : CaseDecl), v.name = u.name → (u.compile settings).outcome = .ok cu →
      (v.compile settings).outcome = .ok cv → u.Sole c → v.Sole c →
      (c.disposition? = some .request → ∃ r a,
        cu.table.ruleFor c.name = .ok r ∧ cv.table.ruleFor c.name = .ok r ∧
        cu.catalogue.get? c.name = some a ∧ cv.catalogue.get? c.name = some a) ∧
      (c.disposition? = some .internal → v.internalCode.result.text = u.internalCode.result.text → ∃ r,
        cu.table.ruleFor c.name = .ok r ∧ cv.table.ruleFor c.name = .ok r)) ∧
    ∀ cases : List CaseDecl, cases.Perm u.cases → (u.cases.map CaseDecl.name).Nodup →
      let v := { u with cases }
      ((∃ cv, (v.compile settings).outcome = .ok cv) ↔ ∃ cu, (u.compile settings).outcome = .ok cu) ∧
      ∀ cu cv : Compiled, (u.compile settings).outcome = .ok cu → (v.compile settings).outcome = .ok cv →
        (∀ name, cv.table.ruleFor name = cu.table.ruleFor name) ∧
        (∀ name, cv.catalogue.get? name = cu.catalogue.get? name) ∧
        cv.table.rules.map Except.ok = cases.map (fun c => cu.table.ruleFor c.name) ∧
        cv.catalogue.names = (cases.filter fun c => c.disposition? = some .request).map CaseDecl.name ++
          if cases.any fun c => c.disposition? = some .internal then [internalErrorName] else [] := by
  constructor
  · intro v cu cv c sameName accepted accepted' sole sole'
    obtain ⟨wf, rfl⟩ := compile_eq_ok_iff.1 accepted
    obtain ⟨wf', rfl⟩ := compile_eq_ok_iff.1 accepted'
    obtain ⟨d, declares⟩ := wf.declared c sole.member
    obtain ⟨e, read, -, disposition⟩ := declares.exists_reading
    have rule := sole.ruleFor read settings.logInternalErrors
    have rule' := sole'.ruleFor read settings.logInternalErrors
    rw [disposition]
    cases kind : e.isInternal with
    | false =>
      refine ⟨fun _ => ⟨_, _, rule, ?_, sole.get? wf read kind, ?_⟩, nofun⟩
      · rw [Rule.ofCase_congr _ (v.taxonomy v.readable) _ sameName.symm (by simp [kind])]
        exact rule'
      · rw [Docs.Leaf.ofCase_congr _ (v.taxonomy v.readable) kind]
        exact sole'.get? wf' read kind
    | true =>
      refine ⟨nofun, fun _ sameCode => ⟨_, rule, ?_⟩⟩
      rw [Rule.ofCase_congr _ (v.taxonomy v.readable) _ sameName.symm fun _ => sameCode.symm]
      exact rule'
  · intro cases perm distinct v
    have either : v.WellFormed ↔ u.WellFormed := wellFormed_perm perm
    refine ⟨by simp only [compile_eq_ok_iff, either, exists_and_left, exists_eq], ?_⟩
    intro cu cv accepted accepted'
    obtain ⟨wf, rfl⟩ := compile_eq_ok_iff.1 accepted
    obtain ⟨wf', rfl⟩ := compile_eq_ok_iff.1 accepted'
    have read : v.readable.Perm u.readable := perm.filterMap _
    have names : (u.readable.map ErrorCase.name).Nodup := wf.names_readable ▸ distinct
    have distinct' : (v.cases.map CaseDecl.name).Nodup := (perm.map CaseDecl.name).nodup_iff.2 distinct
    have rules := Taxonomy.ruleFor_perm (t := u.taxonomy u.readable) read names settings.logInternalErrors
    refine ⟨rules, Taxonomy.get?_perm (t := u.taxonomy u.readable) read names wf.reservedFaults, ?_,
      wf'.names distinct'⟩
    refine (wf'.rules settings.logInternalErrors distinct').trans ?_
    exact List.map_congr_left fun c _ => rules c.name

/-- A unit with an internal case between two that are shown to the client. -/
def deskUnit : UnitDecl where
  name := "Desk"
  annotation := none
  cases := [
    ⟨"Missing", true, some ⟨[.text "request"], .ofList [("status", .int 404), ("code", .text "missing")]⟩⟩,
    ⟨"Broken", true, some ⟨[.text "internal"], .empty⟩⟩,
    ⟨"Refused", true, some ⟨[.text "request"], .ofList [("status", .int 403), ("code", .text "refused")]⟩⟩]
  reserved := []

/-- Declared backwards, the unit documents the two cases the other way round, and the shared artifact is
still the last. The rule of a case and the artifact of a case are the same. -/
theorem deskUnit_reversed : ∃ cu cv, (deskUnit.compile .default).outcome = .ok cu ∧
    ({ deskUnit with cases := deskUnit.cases.reverse }.compile .default).outcome = .ok cv ∧
    cu.catalogue.names = ["Missing", "Refused", internalErrorName] ∧
    cv.catalogue.names = ["Refused", "Missing", internalErrorName] ∧
    cv.table.ruleFor "Broken" = cu.table.ruleFor "Broken" ∧
    cv.catalogue.get? "Missing" = cu.catalogue.get? "Missing" := by
  have accepted : (deskUnit.compile .default).outcome =
      .ok ((deskUnit.taxonomy deskUnit.readable).compiled .default) := by cbv
  obtain ⟨either, same⟩ := (compile_local deskUnit .default).2 _ (List.reverse_perm _) (by decide)
  obtain ⟨cv, accepted'⟩ := either.2 ⟨_, accepted⟩
  obtain ⟨rules, artifacts, -, names⟩ := same _ cv accepted accepted'
  exact ⟨_, cv, accepted, accepted', rfl, names, rules _, artifacts _⟩

end UnitDecl

end Errata
