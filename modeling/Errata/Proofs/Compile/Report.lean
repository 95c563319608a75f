import Errata.Proofs.Compile.Reading
import Errata.Proofs.Steps
import Mathlib

/-!
# The report of a rejected unit

A unit is rejected once, with everything that is wrong with it (`compile_reports_all`). Every case is
reported as if it were classified alone, in the order of the declarations; behind that stand the names
of the cases that survived, first those that are reserved by the surroundings, then those that are
reserved for the internal cases. No case is dropped without a diagnostic at its place. Only where a stray argument
cannot be shown, which the report would name, is there no report.
-/

namespace Errata

namespace CaseDecl

/-- A case that does not survive its classification leaves a diagnostic at its place. -/
lemma exists_diagnostic_of_classify {c : CaseDecl} {unitName : String} {suppress : Bool}
    {r : Option ErrorCase × List Diagnostic} (classified : c.classify unitName suppress = .ok r)
    (dropped : r.1 = none) : ∃ d ∈ r.2, ∃ rest, d.span = c.span unitName ++ rest := by
  rw [classify_eq] at classified
  cases shown : c.unshown? with
  | some f =>
    rw [shown] at classified
    cases classified
  | none =>
    rw [shown] at classified
    cases classified
    exact exists_fault_of_reading_eq_none unitName suppress dropped

/-- What the classification of a request records: first its stray arguments, then its keywords, and at
the end the lack of a status or a code. -/
lemma classify_request {c : CaseDecl} {unitName : String} {suppress : Bool}
    {r : Option ErrorCase × List Diagnostic} (classified : c.classify unitName suppress = .ok r) {a : Annotation}
    (found : c.annotation = some a) (request : a.disposition? = some .request) :
    r.2 = a.strayFaults (c.span unitName) ++
      (a.keywordFaults (c.span unitName) ++ a.lackFault (c.span unitName) suppress) := by
  rw [classify_eq] at classified
  cases shown : c.unshown? with
  | some f =>
    rw [shown] at classified
    cases classified
  | none =>
    rw [shown] at classified
    cases classified
    simp only [faults, found, request, Annotation.faults]
    rfl

end CaseDecl

namespace UnitDecl

/-- What every case gives and records when it is classified alone, in the order of the declarations. -/
def classified (u : UnitDecl) (suppress : Bool) : Except Context.Fault (List (Option ErrorCase × List Diagnostic)) :=
  u.cases.mapM fun c => c.classify u.name suppress

/-- Where every argument can be shown, every case can be classified. -/
lemma classified_of_shown {u : UnitDecl} (suppress : Bool) (shown : u.unshown? = none) :
    u.classified suppress = .ok (u.cases.map fun c => (c.reading, c.faults u.name suppress)) := by
  rw [classified, mapM_eq_ok_iff, List.forall₂_map_right_iff, List.forall₂_same]
  exact fun c member => c.classify_of_shown u.name suppress (shown_of_mem shown member)

/-- What a whole run records is what the cases record alone, and then the names of the survivors. -/
lemma faults_eq_separate {u : UnitDecl} {suppress : Bool} {rs : List (Option ErrorCase × List Diagnostic)}
    (shown : u.unshown? = none) (classified : u.classified suppress = .ok rs) :
    u.taxonomy (rs.filterMap Prod.fst) = u.taxonomy u.readable ∧
      u.faults suppress = rs.flatMap Prod.snd ++ (u.taxonomy (rs.filterMap Prod.fst)).nameFaults u.reserved := by
  rw [classified_of_shown suppress shown] at classified
  cases classified
  have survivors : (u.cases.map fun c => (c.reading, c.faults u.name suppress)).filterMap Prod.fst = u.readable := by
    rw [List.filterMap_map]
    rfl
  have separate : (u.cases.map fun c => (c.reading, c.faults u.name suppress)).flatMap Prod.snd =
      u.caseFaults suppress := by
    rw [List.flatMap_map]
    rfl
  rw [survivors, separate]
  exact ⟨rfl, rfl⟩

/-- A unit that is not compiled is rejected with everything that is wrong with it, in one report, unless it has a
stray argument that cannot be shown. -/
theorem compile_reports_all (u : UnitDecl) (settings : Settings) (e : Context.Fault)
    (failed : (u.compile settings).outcome = .error e) :
    (∃ f, u.unshown? = some f ∧ e = .unshown f) ∨
    ∃ rs, u.classified settings.suppressRedundant = .ok rs ∧
      let survivors := u.taxonomy (rs.filterMap Prod.fst)
      e = .rejected (rs.flatMap Prod.snd ++ (survivors.clashFaults u.reserved ++ survivors.reservedFaults)) ∧
      List.Forall₂ (fun c r =>
        (r.1 = none → ∃ d ∈ r.2, ∃ rest, d.span = c.span u.name ++ rest) ∧
        ∀ a, c.annotation = some a → a.disposition? = some .request →
          r.2 = a.strayFaults (c.span u.name) ++
            (a.keywordFaults (c.span u.name) ++ a.lackFault (c.span u.name) settings.suppressRedundant))
        u.cases rs := by
  cases shown : u.unshown? with
  | some f =>
    rw [compile_outcome, shown] at failed
    cases failed
    exact .inl ⟨f, rfl, rfl⟩
  | none =>
    have alone := classified_of_shown settings.suppressRedundant shown
    refine .inr ⟨_, alone, ?_, ?_⟩
    · rw [compile_of_shown settings shown, (faults_eq_separate shown alone).2] at failed
      split_ifs at failed
      cases failed
      rfl
    · refine (mapM_eq_ok_iff.1 alone).imp fun c r classified => ⟨?_, ?_⟩
      · exact fun dropped => CaseDecl.exists_diagnostic_of_classify classified dropped
      · exact fun a found request => CaseDecl.classify_request classified found request

/-- A unit with a case that says nothing, a request without a code whose status cannot be used, and a
request under a reserved name. -/
def faultyUnit : UnitDecl where
  name := "App"
  annotation := none
  cases := [
    ⟨"Silent", true, none⟩,
    ⟨"Partial", false, some ⟨[.text "request", .int 7], .ofList [("status", .int 9)]⟩⟩,
    ⟨"args", true, some ⟨[.text "request"], .ofList [("status", .int 404), ("code", .text "args")]⟩⟩]
  reserved := ["args"]

/-- The report of that unit names four faults, and they are those of its cases and of its names. -/
theorem faultyUnit_reported :
    let ds : List Diagnostic := [
      ⟨"App.Silent", .missingAttribute⟩, ⟨"App.Partial(7)", .onlyAssignments⟩,
      ⟨"App.Partial.status", .badStatus⟩, ⟨"App.args", .nameClash⟩]
    (faultyUnit.compile .default).outcome = .error (.rejected ds) ∧
      ∃ rs, faultyUnit.classified true = .ok rs ∧
        let survivors := faultyUnit.taxonomy (rs.filterMap Prod.fst)
        ds = rs.flatMap Prod.snd ++ (survivors.clashFaults ["args"] ++ survivors.reservedFaults) := by
  intro ds
  have rejected : (faultyUnit.compile .default).outcome = .error (.rejected ds) := by cbv
  obtain ⟨f, -, unshown⟩ | ⟨rs, alone, reported, -⟩ := compile_reports_all faultyUnit .default _ rejected
  · cases unshown
  · exact ⟨rejected, rs, alone, Context.Fault.rejected.inj reported⟩

end UnitDecl

end Errata
