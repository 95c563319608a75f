import Errata.Proofs.Compile.Acceptance
import Errata.Proofs.Compile.Report
import Mathlib.Data.List.Flatten

/-!
# Suppression of redundant diagnostics

That a request lacks a status or a code follows from a status or a code that cannot be used, and may then
be left out of the report. What a case records with suppression is what it records without it, less that
consequence (`CaseDecl.classify_suppressed`). Nothing else depends on it: a unit is accepted either way or
neither, and compiled to the same (`suppression_changes_reports_only`).
-/

namespace Errata

namespace Diagnostic

/-- The diagnostic is about a status or a code that cannot be used. -/
def isCause (d : Diagnostic) : Bool := d.problem = .badStatus || d.problem = .badCode

/-- The diagnostic is about a status or a code that is lacking. -/
def isLack (d : Diagnostic) : Bool := d.problem = .bothRequired

/-- The diagnostics of a case without the lack of a status or a code, where one that cannot be used is among
them. -/
def withoutConsequences (ds : List Diagnostic) : List Diagnostic :=
  if ds.any isCause then ds.filter fun d => !d.isLack else ds

lemma withoutConsequences_sublist (ds : List Diagnostic) : (withoutConsequences ds).Sublist ds := by
  unfold withoutConsequences
  split_ifs
  · exact List.filter_sublist
  · exact List.Sublist.refl ds

end Diagnostic

namespace Annotation

/-- No stray argument is reported as a cause or as a lack. -/
lemma not_isLack_of_mem_strayFaults {a : Annotation} {span : String} {d : Diagnostic}
    (member : d ∈ a.strayFaults span) : d.isCause = false ∧ d.isLack = false := by
  obtain ⟨v, -, rfl⟩ := List.mem_map.1 member
  exact ⟨rfl, rfl⟩

/-- No keyword is reported as a lack. -/
lemma not_isLack_of_mem_keywordFaults {a : Annotation} {span : String} {d : Diagnostic}
    (member : d ∈ a.keywordFaults span) : d.isLack = false := by
  obtain ⟨e, -, fault⟩ := List.mem_filterMap.1 member
  obtain ⟨p, problem, rfl⟩ := Option.map_eq_some_iff.1 fault
  have other : p ≠ .bothRequired := by
    rintro rfl
    unfold keywordProblem? at problem
    split_ifs at problem <;> cases problem
  simpa [Diagnostic.isLack] using other

/-- A cause is reported of the keywords that are a bad status or a bad code. -/
lemma any_isCause_keywordFaults (a : Annotation) (span : String) :
    (a.keywordFaults span).any Diagnostic.isCause = a.keywords.entries.any isBadStatusOrCode := by
  unfold keywordFaults
  rw [List.any_filterMap]
  congr 1
  funext e
  unfold keywordFault? isBadStatusOrCode
  cases keywordProblem? e.1 e.2 <;> simp [Diagnostic.isCause]

/-- With suppression a request records what it records without, less the lack that has a cause. -/
lemma requestFaults_suppressed (a : Annotation) (span : String) :
    a.requestFaults span true = Diagnostic.withoutConsequences (a.requestFaults span false) := by
  have lackFree : (a.lackFault span false).any Diagnostic.isCause = false := by
    unfold lackFault
    split_ifs <;> rfl
  have strayFree : (a.strayFaults span).any Diagnostic.isCause = false := by
    rw [List.any_eq_false]
    intro d member
    simp [(not_isLack_of_mem_strayFaults member).1]
  have caused : (a.requestFaults span false).any Diagnostic.isCause =
      a.keywords.entries.any isBadStatusOrCode := by
    rw [requestFaults, List.any_append, List.any_append, strayFree, lackFree, any_isCause_keywordFaults,
      Bool.false_or, Bool.or_false]
  unfold Diagnostic.withoutConsequences
  rw [caused]
  split_ifs with bad
  · have stray : (a.strayFaults span).filter (fun d => !d.isLack) = a.strayFaults span :=
      List.filter_eq_self.2 fun d member => by simp [(not_isLack_of_mem_strayFaults member).2]
    have keywords : (a.keywordFaults span).filter (fun d => !d.isLack) = a.keywordFaults span :=
      List.filter_eq_self.2 fun d member => by simp [not_isLack_of_mem_keywordFaults member]
    have lack : (a.lackFault span false).filter (fun d => !d.isLack) = a.lackFault span true := by
      unfold lackFault
      rw [bad]
      cases a.requestAttributes? <;> rfl
    rw [requestFaults, requestFaults, List.filter_append, List.filter_append, stray, keywords, lack]
  · have lack : a.lackFault span true = a.lackFault span false := by
      simp [lackFault, bad]
    rw [requestFaults, requestFaults, lack]

/-- With suppression an annotation records what it records without, less the lack that has a cause. -/
lemma faults_suppressed (a : Annotation) (span : String) :
    a.faults span true = Diagnostic.withoutConsequences (a.faults span false) := by
  unfold faults
  cases a.disposition? with
  | none => rfl
  | some d =>
    cases d with
    | internal => rfl
    | request => exact a.requestFaults_suppressed span

end Annotation

namespace CaseDecl

/-- With suppression a case records what it does without, less the lack that has a cause. -/
lemma faults_suppressed (c : CaseDecl) (unitName : String) :
    c.faults unitName true = Diagnostic.withoutConsequences (c.faults unitName false) := by
  unfold faults
  cases c.annotation with
  | none => rfl
  | some a => exact a.faults_suppressed _

/-- A case is read the same with suppression and without, and with it records what it does without, less
the lack that has a cause. -/
lemma classify_suppressed (c : CaseDecl) (unitName : String) :
    c.classify unitName true =
      (c.classify unitName false).map fun r => (r.1, Diagnostic.withoutConsequences r.2) := by
  rw [classify_eq, classify_eq, faults_suppressed]
  cases c.unshown? <;> rfl

end CaseDecl

namespace UnitDecl

/-- What a unit records with suppression and without it, said of its cases. -/
lemma faults_suppressed {u : UnitDecl} {rs : List (Option ErrorCase × List Diagnostic)} (shown : u.unshown? = none)
    (classified : u.classified false = .ok rs) :
    let names := (u.taxonomy (rs.filterMap Prod.fst)).nameFaults u.reserved
    u.faults true = (rs.flatMap fun r => Diagnostic.withoutConsequences r.2) ++ names ∧
      u.faults false = rs.flatMap Prod.snd ++ names := by
  intro names
  refine ⟨?_, (faults_eq_separate shown classified).2⟩
  rw [classified_of_shown false shown] at classified
  cases classified
  have survivors : (u.cases.map fun c => (c.reading, c.faults u.name false)).filterMap Prod.fst = u.readable := by
    rw [List.filterMap_map]
    rfl
  show u.caseFaults true ++ (u.taxonomy u.readable).nameFaults u.reserved =
    _ ++ (u.taxonomy (List.filterMap Prod.fst _)).nameFaults u.reserved
  rw [survivors, List.flatMap_map, caseFaults]
  simp only [CaseDecl.faults_suppressed]

/-- Whether redundant diagnostics are suppressed decides on reports only. A unit is compiled to the same with
suppression and without, or it is rejected both times, unless an argument cannot be shown either way. The shorter
report is then the longer one without the lack of a status or a code, in just those cases where one that cannot be
used is reported; all else stays in its order, and no case is rejected without a diagnostic. -/
theorem suppression_changes_reports_only (u : UnitDecl) (settings : Settings) :
    let suppressing := { settings with suppressRedundant := true }
    let full := { settings with suppressRedundant := false }
    ((∃ f, u.unshown? = some f ∧ (u.compile suppressing).outcome = .error (.unshown f) ∧
        (u.compile full).outcome = .error (.unshown f)) ∨
      ∃ rs, u.classified false = .ok rs ∧
        let names := (u.taxonomy (rs.filterMap Prod.fst)).nameFaults u.reserved
        let short := (rs.flatMap fun r => Diagnostic.withoutConsequences r.2) ++ names
        let long := rs.flatMap Prod.snd ++ names
        ((∃ compiled, (u.compile suppressing).outcome = .ok compiled ∧ (u.compile full).outcome = .ok compiled) ∨
          ((u.compile suppressing).outcome = .error (.rejected short) ∧
            (u.compile full).outcome = .error (.rejected long))) ∧
        short.Sublist long) ∧
    ∀ c ∈ u.cases,
      c.classify u.name true =
        (c.classify u.name false).map (fun r => (r.1, Diagnostic.withoutConsequences r.2)) ∧
      ∀ r, c.classify u.name true = .ok r → r.1 = none → r.2 ≠ [] := by
  intro suppressing full
  refine ⟨?_, ?_⟩
  · cases shown : u.unshown? with
    | some f =>
      rw [compile_outcome, compile_outcome, shown]
      exact .inl ⟨f, rfl, rfl, rfl⟩
    | none =>
      have classified := classified_of_shown false shown
      obtain ⟨shorter, longer⟩ := faults_suppressed shown classified
      refine .inr ⟨_, classified, ?_, ?_⟩
      · rw [← shorter, ← longer, compile_of_shown _ shown, compile_of_shown _ shown]
        show (∃ compiled, (if u.faults true = [] then _ else _) = _ ∧
          (if u.faults false = [] then _ else _) = _) ∨ _
        by_cases wf : u.WellFormed
        · rw [if_pos ((u.faults_eq_nil_iff true).2 wf), if_pos ((u.faults_eq_nil_iff false).2 wf)]
          exact .inl ⟨_, rfl, rfl⟩
        · rw [if_neg (mt (u.faults_eq_nil_iff true).1 wf), if_neg (mt (u.faults_eq_nil_iff false).1 wf)]
          exact .inr ⟨rfl, rfl⟩
      · refine List.Sublist.append ?_ (List.Sublist.refl _)
        exact List.Sublist.flatMap_right _ fun r _ => Diagnostic.withoutConsequences_sublist _
  · intro c _
    refine ⟨c.classify_suppressed u.name, fun r classified dropped => ?_⟩
    obtain ⟨d, member, -⟩ := CaseDecl.exists_diagnostic_of_classify classified dropped
    exact List.ne_nil_of_mem member

end UnitDecl

end Errata
