import Errata.Proofs.Compile.Reading

/-!
# Acceptance of units

A unit is compiled exactly when it is well formed: every case declares something, no case takes a
reserved name, and the name of the internal cases is left to them (`compile_iff_wellFormed`). Whatever
is not well formed is rejected with a report, in no other way. No case is lost or changed on the way:
the cases and the rules of a compiled unit stand in the order of the declarations and carry just what
each of them declares.
-/

namespace Errata

namespace Declaration

/-- The case is not shown to the client. -/
def isInternal : Declaration → Bool
  | .request .. => false
  | .internal => true

/-- The status that the case is answered with. -/
def status : Declaration → Int
  | .request status .. => status
  | .internal => 500

/-- The code that the case is answered with. The internal cases of a unit share one. -/
def code (internalCode : String) : Declaration → String
  | .request _ code .. => code
  | .internal => internalCode

/-- The hint that the case is answered with. -/
def hint : Declaration → Option String
  | .request _ _ hint _ => hint
  | .internal => none

end Declaration

namespace CaseDecl

/-- What a case declares: that which its annotation does. -/
def Declares (c : CaseDecl) (d : Declaration) : Prop := ∃ a, c.annotation = some a ∧ a.Declares d

/-- The case is declared to be shown to the client. -/
def IsClientFacing (c : CaseDecl) : Prop := ∃ d, c.Declares d ∧ d.isInternal = false

/-- The case and the rule carry what is declared under a name. -/
structure CarriedBy (c : CaseDecl) (internalCode : String) (e : ErrorCase) (r : Rule) : Prop where
  caseName : e.name = c.name
  caseNaive : e.naive = c.naive
  declares : c.Declares e.attributes.declaration
  ruleName : r.caseName = c.name
  ruleNaive : r.naive = c.naive
  internal : r.isInternal = e.attributes.declaration.isInternal
  status : r.status = e.attributes.declaration.status
  code : r.code = e.attributes.declaration.code internalCode
  hint : r.hint = e.attributes.declaration.hint

/-- A case declares what is read from it without a fault. -/
lemma declares_iff {c : CaseDecl} {d : Declaration} (unitName : String) (suppress : Bool) :
    c.Declares d ↔
      c.faults unitName suppress = [] ∧
        c.reading.map (fun e => e.attributes.declaration) = some d := by
  unfold Declares faults reading
  cases c.annotation with
  | none => simp
  | some a =>
    rw [Option.bind_some, Option.map_map]
    constructor
    · rintro ⟨_, ⟨⟩, declares⟩
      exact Annotation.declares_iff.1 declares
    · intro read
      exact ⟨a, rfl, Annotation.declares_iff.2 read⟩

/-- A case that declares something has no argument that has to be shown. -/
lemma Declares.shown {c : CaseDecl} {d : Declaration} (declares : c.Declares d) : c.unshown? = none := by
  obtain ⟨a, found, declares⟩ := declares
  rw [unshown?, found, Option.bind_some, declares.shown]

/-- A case without a fault declares something. -/
lemma faults_eq_nil_iff {c : CaseDecl} {unitName : String} {suppress : Bool} :
    c.faults unitName suppress = [] ↔ ∃ d, c.Declares d := by
  unfold faults Declares
  cases c.annotation with
  | none => simp
  | some a =>
    simp [a.faults_eq_nil_iff]

/-- A case declares at most one thing. -/
lemma Declares.unique {c : CaseDecl} {d e : Declaration} (left : c.Declares d)
    (right : c.Declares e) : d = e := by
  have ⟨_, readLeft⟩ := (declares_iff "" true).1 left
  have ⟨_, readRight⟩ := (declares_iff "" true).1 right
  exact Option.some.inj (readLeft.symm.trans readRight)

/-- A case is declared to be internal when its declaration is. -/
lemma declares_internal_iff {c : CaseDecl} :
    c.Declares .internal ↔ ∃ d, c.Declares d ∧ d.isInternal = true := by
  refine ⟨fun declares => ⟨_, declares, rfl⟩, ?_⟩
  rintro ⟨d, declares, internal⟩
  cases d with
  | request => cases internal
  | internal => exact declares

/-- A case that declares something is read as a case of that name. -/
lemma Declares.reading {c : CaseDecl} {d : Declaration} (declares : c.Declares d) :
    ∃ e, c.reading = some e ∧ e.name = c.name ∧ e.naive = c.naive ∧
      e.attributes.declaration = d := by
  have ⟨_, given⟩ := (declares_iff "" true).1 declares
  obtain ⟨e, read, declared⟩ := Option.map_eq_some_iff.1 given
  exact ⟨e, read, name_of_reading read, naive_of_reading read, declared⟩

end CaseDecl

/-- A case is internal when it declares to be. -/
lemma ErrorCase.isInternal_eq (e : ErrorCase) :
    e.isInternal = e.attributes.declaration.isInternal := by
  obtain ⟨name, naive, attributes⟩ := e
  cases attributes <;> rfl

namespace UnitDecl

/-- The cases have no faults when every one of them declares something. -/
lemma caseFaults_eq_nil_iff {u : UnitDecl} {suppress : Bool} :
    u.caseFaults suppress = [] ↔ ∀ c ∈ u.cases, ∃ d, c.Declares d := by
  unfold caseFaults
  rw [List.flatMap_eq_nil_iff]
  exact forall₂_congr fun c _ => CaseDecl.faults_eq_nil_iff

/-- Where every case declares something, none is left out. -/
lemma map_reading {u : UnitDecl} (declared : ∀ c ∈ u.cases, ∃ d, c.Declares d) :
    u.cases.map CaseDecl.reading = u.readable.map some := by
  unfold readable
  rw [List.map_filterMap_some_eq_filter_map_isSome, List.filter_eq_self.2]
  intro e member
  obtain ⟨c, there, rfl⟩ := List.mem_map.1 member
  obtain ⟨d, declares⟩ := declared c there
  obtain ⟨e, read, -⟩ := declares.reading
  rw [read]
  rfl

/-- The cases that can be read are those that are declared, one by one. -/
lemma reading_of_getElem? {u : UnitDecl} (declared : ∀ c ∈ u.cases, ∃ d, c.Declares d) {i : Nat}
    {c : CaseDecl} (there : u.cases[i]? = some c) :
    ∃ e, u.readable[i]? = some e ∧ c.reading = some e := by
  have same : (u.cases.map CaseDecl.reading)[i]? = (u.readable.map some)[i]? := by
    rw [map_reading declared]
  rw [List.getElem?_map, List.getElem?_map, there, Option.map_some] at same
  obtain ⟨e, found, read⟩ := Option.map_eq_some_iff.1 same.symm
  exact ⟨e, found, read.symm⟩

/-- A case that can be read is that of some declaration. -/
lemma mem_readable {u : UnitDecl} {e : ErrorCase} :
    e ∈ u.readable ↔ ∃ c ∈ u.cases, c.reading = some e :=
  List.mem_filterMap

end UnitDecl

/-! ## Names -/

/-- A unit in which every case declares something, no case takes a reserved name, and no case that is
shown to the client takes the name of the internal ones, where there are any. -/
structure UnitDecl.WellFormed (u : UnitDecl) : Prop where
  declared : ∀ c ∈ u.cases, ∃ d, c.Declares d
  unreserved : ∀ c ∈ u.cases, c.name ∉ u.reserved
  internalName :
    ¬((∃ c ∈ u.cases, c.Declares .internal) ∧
      ∃ c ∈ u.cases, c.IsClientFacing ∧ c.name = internalErrorName)

namespace Taxonomy

/-- No name clashes when none is reserved. -/
lemma clashFaults_eq_nil_iff {t : Taxonomy} {reserved : List String} :
    t.clashFaults reserved = [] ↔ ∀ e ∈ t.cases, e.name ∉ reserved := by
  unfold clashFaults
  rw [List.map_eq_nil_iff, List.filter_eq_nil_iff]
  simp

/-- The name of the internal cases is free when there are none, or when no other case has it. -/
lemma reservedFaults_eq_nil_iff {t : Taxonomy} :
    t.reservedFaults = [] ↔
      ¬((∃ e ∈ t.cases, e.isInternal) ∧
        ∃ e ∈ t.cases, e.isInternal = false ∧ e.name = internalErrorName) := by
  have internal : t.internalCases.isEmpty = true ↔ ¬∃ e ∈ t.cases, e.isInternal := by
    unfold internalCases
    rw [List.isEmpty_iff, List.filter_eq_nil_iff]
    simp
  unfold reservedFaults
  split_ifs with none
  · simp [internal.1 none]
  · rw [internal, not_not] at none
    rw [List.map_eq_nil_iff, List.filter_eq_nil_iff]
    simp only [none, true_and, not_exists, not_and]
    simp [clientCases]

end Taxonomy

namespace UnitDecl

/-- The cases that are read have the names and the dispositions that are declared, and no others. -/
lemma exists_readable_iff {u : UnitDecl} (declared : ∀ c ∈ u.cases, ∃ d, c.Declares d)
    (p : String → Bool → Prop) :
    (∃ e ∈ u.readable, p e.name e.isInternal) ↔
      ∃ c ∈ u.cases, ∃ d, c.Declares d ∧ p c.name d.isInternal := by
  constructor
  · rintro ⟨e, member, holds⟩
    obtain ⟨c, there, read⟩ := mem_readable.1 member
    obtain ⟨d, declares⟩ := declared c there
    obtain ⟨e', read', name, -, rfl⟩ := declares.reading
    rw [read] at read'
    cases read'
    rw [ErrorCase.isInternal_eq, name] at holds
    exact ⟨c, there, _, declares, holds⟩
  · rintro ⟨c, there, d, declares, holds⟩
    obtain ⟨e, read, name, -, rfl⟩ := declares.reading
    rw [← ErrorCase.isInternal_eq, ← name] at holds
    exact ⟨e, mem_readable.2 ⟨c, there, read⟩, holds⟩

/-- Where every case declares something, the names are checked as they are declared. -/
lemma nameFaults_eq_nil_iff {u : UnitDecl} (declared : ∀ c ∈ u.cases, ∃ d, c.Declares d) :
    (u.taxonomy u.readable).nameFaults u.reserved = [] ↔
      (∀ c ∈ u.cases, c.name ∉ u.reserved) ∧
        ¬((∃ c ∈ u.cases, c.Declares .internal) ∧
          ∃ c ∈ u.cases, c.IsClientFacing ∧ c.name = internalErrorName) := by
  have clashing : (∃ e ∈ u.readable, e.name ∈ u.reserved) ↔ ∃ c ∈ u.cases, c.name ∈ u.reserved := by
    rw [u.exists_readable_iff declared fun name _ => name ∈ u.reserved]
    refine exists_congr fun c => and_congr_right fun there => ?_
    obtain ⟨d, declares⟩ := declared c there
    exact ⟨fun ⟨_, _, name⟩ => name, fun name => ⟨d, declares, name⟩⟩
  have internal : (∃ e ∈ u.readable, e.isInternal = true) ↔ ∃ c ∈ u.cases, c.Declares .internal := by
    rw [u.exists_readable_iff declared fun _ internal => internal = true]
    exact exists_congr fun c => and_congr_right fun _ => c.declares_internal_iff.symm
  have client : (∃ e ∈ u.readable, e.isInternal = false ∧ e.name = internalErrorName) ↔
      ∃ c ∈ u.cases, c.IsClientFacing ∧ c.name = internalErrorName := by
    rw [u.exists_readable_iff declared fun name internal => internal = false ∧ name = internalErrorName]
    simp only [CaseDecl.IsClientFacing, ← and_assoc, exists_and_right]
  unfold Taxonomy.nameFaults
  rw [List.append_eq_nil_iff, Taxonomy.clashFaults_eq_nil_iff, Taxonomy.reservedFaults_eq_nil_iff]
  refine and_congr ?_ (not_congr (and_congr internal client))
  show (∀ e ∈ u.readable, e.name ∉ u.reserved) ↔ _
  simpa using not_congr clashing

/-- Nothing is wrong with a unit when it is well formed. -/
lemma faults_eq_nil_iff (u : UnitDecl) (suppress : Bool) :
    u.faults suppress = [] ↔ u.WellFormed := by
  unfold faults
  rw [List.append_eq_nil_iff, caseFaults_eq_nil_iff]
  constructor
  · rintro ⟨declared, names⟩
    have ⟨unreserved, internalName⟩ := (nameFaults_eq_nil_iff declared).1 names
    exact ⟨declared, unreserved, internalName⟩
  · rintro ⟨declared, unreserved, internalName⟩
    exact ⟨declared, (nameFaults_eq_nil_iff declared).2 ⟨unreserved, internalName⟩⟩

/-- A well-formed unit has no argument that has to be shown. -/
lemma WellFormed.shown {u : UnitDecl} (wf : u.WellFormed) : u.unshown? = none := by
  rw [unshown?, List.findSome?_eq_none_iff]
  intro c member
  obtain ⟨d, declares⟩ := wf.declared c member
  exact declares.shown

/-- What a unit is compiled to, when it is well formed. -/
lemma compile_eq_ok_iff {u : UnitDecl} {settings : Settings} {compiled : Compiled} :
    (u.compile settings).outcome = .ok compiled ↔
      u.WellFormed ∧ compiled = (u.taxonomy u.readable).compiled settings := by
  constructor
  · intro accepted
    rw [compile_outcome] at accepted
    cases shown : u.unshown? with
    | some f =>
      rw [shown] at accepted
      cases accepted
    | none =>
      rw [shown, Option.elim_none] at accepted
      split_ifs at accepted with clean
      cases accepted
      exact ⟨(faults_eq_nil_iff u _).1 clean, rfl⟩
  · rintro ⟨wf, rfl⟩
    rw [compile_of_shown settings wf.shown, if_pos ((faults_eq_nil_iff u _).2 wf)]

/-- The case and the rule of a declaration carry what it declares. -/
lemma carriedBy_of_reading (u : UnitDecl) (logged : Bool) {c : CaseDecl} {e : ErrorCase}
    {d : Declaration} (declares : c.Declares d) (read : c.reading = some e) :
    c.CarriedBy u.internalCode.result.text e (.ofCase (u.taxonomy u.readable) logged e) := by
  obtain ⟨e', read', name, naive, rfl⟩ := declares.reading
  rw [read] at read'
  cases read'
  obtain ⟨caseName, caseNaive, attributes⟩ := e
  cases attributes with
  | request r => exact ⟨name, naive, declares, name, naive, rfl, rfl, rfl, rfl⟩
  | internal => exact ⟨name, naive, declares, name, naive, rfl, rfl, rfl, rfl⟩

/-- Every case of a well-formed unit is carried at its own place, and there are no others. -/
lemma WellFormed.carried {u : UnitDecl} (wf : u.WellFormed) (logged : Bool) :
    u.readable.length = u.cases.length ∧
      ∀ (i : Nat) (c : CaseDecl), u.cases[i]? = some c → ∃ e, u.readable[i]? = some e ∧
        c.CarriedBy u.internalCode.result.text e (.ofCase (u.taxonomy u.readable) logged e) := by
  constructor
  · have length := congrArg List.length (map_reading wf.declared)
    rw [List.length_map, List.length_map] at length
    exact length.symm
  · intro i c there
    obtain ⟨e, found, read⟩ := reading_of_getElem? wf.declared there
    obtain ⟨d, declares⟩ := wf.declared c (List.mem_of_getElem? there)
    exact ⟨e, found, u.carriedBy_of_reading logged declares read⟩

/-- A unit is compiled exactly when it is well formed. Whatever is not well formed is rejected with a report, unless
a request has a stray argument that cannot be shown; the report would name it, and the first such argument is what
the unit fails with. Each case of a unit that is compiled is carried by the case and by the rule at its own place,
and there are no others. -/
theorem compile_iff_wellFormed (u : UnitDecl) (settings : Settings) :
    ((∃ compiled, (u.compile settings).outcome = .ok compiled) ↔ u.WellFormed) ∧
    (¬u.WellFormed → u.unshown? = none → ∃ d ds, (u.compile settings).outcome = .error (.rejected (d :: ds))) ∧
    (∀ f, u.unshown? = some f → (u.compile settings).outcome = .error (.unshown f)) ∧
    ∀ compiled, (u.compile settings).outcome = .ok compiled →
      compiled.taxonomy.cases.length = u.cases.length ∧
      compiled.table.rules.length = u.cases.length ∧
      ∀ (i : Nat) (c : CaseDecl), u.cases[i]? = some c →
        ∃ e r, compiled.taxonomy.cases[i]? = some e ∧ compiled.table.rules[i]? = some r ∧
          c.CarriedBy u.internalCode.result.text e r := by
  refine ⟨?_, ?_, ?_, ?_⟩
  · simp [compile_eq_ok_iff]
  · intro faulty shown
    rw [← faults_eq_nil_iff u settings.suppressRedundant] at faulty
    rw [compile_of_shown settings shown, if_neg faulty]
    obtain ⟨d, ds, e⟩ := List.exists_cons_of_ne_nil faulty
    exact ⟨d, ds, by rw [e]⟩
  · intro f unshown
    rw [compile_outcome, unshown, Option.elim_some]
  · intro compiled success
    obtain ⟨wf, rfl⟩ := compile_eq_ok_iff.1 success
    obtain ⟨length, carried⟩ := wf.carried settings.logInternalErrors
    refine ⟨length, (List.length_map _).trans length, ?_⟩
    intro i c there
    obtain ⟨e, found, carries⟩ := carried i c there
    refine ⟨e, _, found, ?_, carries⟩
    show (u.readable.map _)[i]? = _
    rw [List.getElem?_map, found]
    rfl

/-- A unit whose only case has a number for a second argument. -/
def strayUnit (n : Int) : UnitDecl where
  name := "T"
  annotation := none
  cases := [⟨"A", true, some ⟨[.disposition .request, .int n], .ofList [("status", .int 404), ("code", .text "x")]⟩⟩]
  reserved := []

/-- A number with too many digits is what such a unit stops at. -/
lemma strayUnit_unshown {n : Int} (long : Value.isLong n = true) : (strayUnit n).unshown? = some .tooLong := by
  have number : (Value.int n).unshown? = some .tooLong := by
    simp [Value.unshown?, Value.obstacle?, Value.deeperBy, Value.maxInspectDepth, long]
  have disposition : (⟨[.disposition .request, .int n], .ofList [("status", .int 404), ("code", .text "x")]⟩ :
      Annotation).disposition? = some .request := rfl
  simp [unshown?, strayUnit, CaseDecl.unshown?, Annotation.unshown?, disposition, Annotation.unshownStray?, number]

/-- A power of ten with too many digits. -/
lemma isLong_pow {k : Nat} (many : Text.maxDigits ≤ k) : Value.isLong (Nat.pow 10 k) = true := by
  rw [Value.isLong_iff, Int.natAbs_natCast, Nat.pow_eq, Nat.pow_eq]
  exact Nat.pow_le_pow_right (by decide) many

/-- A unit with the least number that has too many digits is not well formed, and is not rejected with a report
either. -/
theorem longStray_unreported :
    let u := strayUnit (Nat.pow 10 Text.maxDigits)
    ¬u.WellFormed ∧ (u.compile .default).outcome = .error (.unshown .tooLong) ∧
      ∀ ds, (u.compile .default).outcome ≠ .error (.rejected ds) := by
  intro u
  have unshown : u.unshown? = some .tooLong := strayUnit_unshown (isLong_pow (Nat.le_refl _))
  have outcome : (u.compile .default).outcome = .error (.unshown .tooLong) := by
    rw [compile_outcome, unshown, Option.elim_some]
  refine ⟨fun wf => ?_, outcome, fun ds rejected => ?_⟩
  · rw [wf.shown] at unshown
    cases unshown
  · rw [outcome] at rejected
    cases rejected

end UnitDecl

end Errata
