import Errata.Proofs.Compile.Acceptance
import Mathlib

/-!
# The order of keywords

The keywords of an annotation may be written in any order. What is read from them is the same, because every
keyword is looked up by its own name (`Annotation.Reordered.reading`), and what is recorded of them is the same
but for its order (`Annotation.Reordered.keywordFaults_perm`). The diagnostics around them stay where they are:
those of the arguments in front, and the lack of a status or a code at the end. So a unit whose keywords are
reordered is compiled to the same, or is rejected for the same (`keyword_order_irrelevant`).
-/

namespace Errata

namespace Annotation

/-- The annotations have the same arguments, and the same keywords in some order. -/
structure Reordered (a b : Annotation) : Prop where
  args : b.args = a.args
  keywords : b.keywords.entries.Perm a.keywords.entries

/-- The problems that a keyword may have. -/
def keywordProblems : List Problem := [.badStatus, .badCode, .badHint, .badDescription, .unknownAttribute]

/-- What is recorded of a keyword is a problem of keywords. -/
lemma problem_of_mem_keywordFaults {a : Annotation} {span : String} {d : Diagnostic}
    (member : d ∈ a.keywordFaults span) : d.problem ∈ keywordProblems := by
  obtain ⟨e, -, fault⟩ := List.mem_filterMap.1 member
  obtain ⟨p, problem, rfl⟩ := Option.map_eq_some_iff.1 fault
  show p ∈ keywordProblems
  unfold keywordProblem? at problem
  split_ifs at problem <;> cases problem <;> decide

/-- What is recorded in front of the keywords: the lack of a disposition, or the stray arguments of a request. -/
def argumentFaults (a : Annotation) (span : String) : List Diagnostic :=
  match a.disposition? with
  | none => [⟨span, .badDisposition⟩]
  | some .internal => []
  | some .request => a.strayFaults span

/-- What is recorded of the keywords; only a request has them read. -/
def readKeywordFaults (a : Annotation) (span : String) : List Diagnostic :=
  if a.disposition? = some .request then a.keywordFaults span else []

/-- What is recorded behind the keywords. -/
def closingFaults (a : Annotation) (span : String) (suppress : Bool) : List Diagnostic :=
  if a.disposition? = some .request then a.lackFault span suppress else []

/-- What is recorded of an annotation stands in three parts. -/
lemma faults_eq_parts (a : Annotation) (span : String) (suppress : Bool) :
    a.faults span suppress =
      a.argumentFaults span ++ (a.readKeywordFaults span ++ a.closingFaults span suppress) := by
  unfold faults argumentFaults readKeywordFaults closingFaults
  cases a.disposition? with
  | none => rfl
  | some d =>
    cases d with
    | internal => rfl
    | request => rfl

/-- The first part is about arguments. -/
lemma problem_of_mem_argumentFaults {a : Annotation} {span : String} {d : Diagnostic}
    (member : d ∈ a.argumentFaults span) : d.problem ∈ [Problem.badDisposition, .onlyAssignments] := by
  unfold argumentFaults at member
  split at member
  · cases List.mem_singleton.1 member
    exact List.mem_cons_self
  · cases member
  · obtain ⟨v, -, rfl⟩ := List.mem_map.1 member
    exact List.mem_cons_of_mem _ (List.mem_singleton_self _)

/-- The last part is the lack of a status or a code, if it is there. -/
lemma closingFaults_cases (a : Annotation) (span : String) (suppress : Bool) :
    a.closingFaults span suppress = [] ∨ a.closingFaults span suppress = [⟨span, .bothRequired⟩] := by
  unfold closingFaults lackFault
  split_ifs
  · exact .inr rfl
  · exact .inl rfl
  · exact .inl rfl

namespace Reordered

variable {a b : Annotation} (same : a.Reordered b)
include same

/-- Every keyword has its value. -/
lemma keyword? (key : String) : b.keyword? key = a.keyword? key := by
  refine Option.ext fun v => ?_
  unfold Annotation.keyword?
  rw [OrderedMap.get?_eq_some_iff, OrderedMap.get?_eq_some_iff]
  exact same.keywords.mem_iff

lemma disposition? : b.disposition? = a.disposition? := by
  unfold Annotation.disposition?
  rw [same.args]

/-- The same keeps the annotations from being read. -/
lemma unshown? : b.unshown? = a.unshown? := by
  unfold Annotation.unshown? unshownStray?
  rw [same.disposition?, same.args]

lemma requestAttributes? : b.requestAttributes? = a.requestAttributes? := by
  unfold Annotation.requestAttributes? status? code? hint? description?
  simp only [same.keyword?]

/-- The same is read. -/
lemma reading : b.reading = a.reading := by
  unfold Annotation.reading
  rw [same.disposition?, same.requestAttributes?]

lemma argumentFaults (span : String) : b.argumentFaults span = a.argumentFaults span := by
  unfold Annotation.argumentFaults strayFaults
  rw [same.disposition?, same.args]

/-- The keywords record the same, but for the order. -/
lemma keywordFaults_perm (span : String) :
    (b.readKeywordFaults span).Perm (a.readKeywordFaults span) := by
  unfold readKeywordFaults
  rw [same.disposition?]
  split_ifs
  · exact same.keywords.filterMap _
  · exact .refl _

/-- The lack of a status or a code depends on what the keywords give, and on whether a bad one is among them;
neither is changed by their order. -/
lemma closingFaults (span : String) (suppress : Bool) :
    b.closingFaults span suppress = a.closingFaults span suppress := by
  have bad : b.keywords.entries.any isBadStatusOrCode = a.keywords.entries.any isBadStatusOrCode :=
    same.keywords.any_eq
  unfold Annotation.closingFaults lackFault
  rw [same.disposition?, same.requestAttributes?, bad]

/-- The same is recorded, but for the order. -/
lemma faults_perm (span : String) (suppress : Bool) :
    (b.faults span suppress).Perm (a.faults span suppress) := by
  rw [faults_eq_parts, faults_eq_parts, same.argumentFaults, same.closingFaults]
  exact ((same.keywordFaults_perm span).append_right _).append_left _

end Reordered

end Annotation

namespace CaseDecl

/-- The cases differ in nothing but the order of their keywords. -/
structure Reordered (c d : CaseDecl) : Prop where
  name : d.name = c.name
  naive : d.naive = c.naive
  annotation : Option.Rel Annotation.Reordered c.annotation d.annotation

namespace Reordered

/-- The same keeps the cases from being read. -/
lemma unshown? {c d : CaseDecl} (same : c.Reordered d) : d.unshown? = c.unshown? := by
  obtain ⟨name, naive, annotation⟩ := c
  obtain ⟨name', naive', annotation'⟩ := d
  obtain ⟨rfl, rfl, keywords⟩ := same
  cases keywords with
  | none => rfl
  | some keywords => exact keywords.unshown?

/-- The same case is read. -/
lemma reading {c d : CaseDecl} (same : c.Reordered d) : d.reading = c.reading := by
  obtain ⟨name, naive, annotation⟩ := c
  obtain ⟨name', naive', annotation'⟩ := d
  obtain ⟨rfl, rfl, keywords⟩ := same
  cases keywords with
  | none => rfl
  | some keywords => simp only [CaseDecl.reading, Option.bind_some, keywords.reading]

/-- The same is recorded of the case, but for the order. -/
lemma faults_perm {c d : CaseDecl} (same : c.Reordered d) (unitName : String) (suppress : Bool) :
    (d.faults unitName suppress).Perm (c.faults unitName suppress) := by
  obtain ⟨name, naive, annotation⟩ := c
  obtain ⟨name', naive', annotation'⟩ := d
  obtain ⟨rfl, rfl, keywords⟩ := same
  cases keywords with
  | none => exact .refl _
  | some keywords => exact keywords.faults_perm _ suppress

end Reordered

/-- The same cases are read. -/
lemma filterMap_reading {cases cases' : List CaseDecl} (same : List.Forall₂ Reordered cases cases') :
    cases'.filterMap reading = cases.filterMap reading := by
  induction same with
  | nil => rfl
  | cons first _ ih => rw [List.filterMap_cons, List.filterMap_cons, first.reading, ih]

/-- The same is recorded of the cases, but for the order. -/
lemma flatMap_faults_perm {cases cases' : List CaseDecl} (same : List.Forall₂ Reordered cases cases')
    (unitName : String) (suppress : Bool) :
    (cases'.flatMap fun c => c.faults unitName suppress).Perm
      (cases.flatMap fun c => c.faults unitName suppress) := by
  induction same with
  | nil => exact .refl _
  | cons first _ ih =>
    rw [List.flatMap_cons, List.flatMap_cons]
    exact (first.faults_perm unitName suppress).append ih

end CaseDecl

namespace UnitDecl

/-- The units differ in nothing but the order of the keywords of their cases. -/
structure Reordered (u v : UnitDecl) : Prop where
  name : v.name = u.name
  annotation : v.annotation = u.annotation
  reserved : v.reserved = u.reserved
  cases : List.Forall₂ CaseDecl.Reordered u.cases v.cases

namespace Reordered

variable {u v : UnitDecl} (same : u.Reordered v)
include same

/-- The same taxonomy is read. -/
lemma taxonomy : v.taxonomy v.readable = u.taxonomy u.readable := by
  have readable : v.readable = u.readable := CaseDecl.filterMap_reading same.cases
  rw [UnitDecl.taxonomy, UnitDecl.taxonomy, readable, same.name, internalCode, internalCode,
    same.annotation, same.name]

/-- The same is recorded of the unit, but for the order. -/
lemma faults_perm (suppress : Bool) : (v.faults suppress).Perm (u.faults suppress) := by
  have cases := CaseDecl.flatMap_faults_perm same.cases u.name suppress
  unfold UnitDecl.faults caseFaults
  rw [same.taxonomy, same.reserved, same.name]
  exact cases.append_right _

end Reordered

end UnitDecl

/-- The order of keywords decides on nothing but the order of the diagnostics that are recorded of them. The
same attributes are read from an annotation, whatever was recorded before, or the same argument keeps both from being
read; the diagnostics of its arguments stay in front and in their order, and the lack of a status or a code stays at
the end. A unit is compiled to the same taxonomy, table and documentation with the keywords of its cases in any
order, or it is rejected for the same reasons, or it has an argument that cannot be shown. -/
theorem keyword_order_irrelevant :
    (∀ a b : Annotation, a.Reordered b → ∀ (span : String) (suppress : Bool),
      ∃ stop? result first keywords keywords' last,
        (a.read span suppress).Records stop? result (first ++ (keywords ++ last)) ∧
        (b.read span suppress).Records stop? result (first ++ (keywords' ++ last)) ∧
        keywords'.Perm keywords ∧
        (∀ d ∈ first, d.problem ∈ [Problem.badDisposition, .onlyAssignments]) ∧
        (∀ d ∈ keywords, d.problem ∈ Annotation.keywordProblems) ∧
        (last = [] ∨ last = [⟨span, .bothRequired⟩])) ∧
    ∀ u v : UnitDecl, u.Reordered v → ∀ settings : Settings,
      (∃ compiled, (u.compile settings).outcome = .ok compiled ∧
        (v.compile settings).outcome = .ok compiled) ∨
      (∃ ds ds', (u.compile settings).outcome = .error (.rejected ds) ∧
        (v.compile settings).outcome = .error (.rejected ds') ∧ ds'.Perm ds) ∨
      ∃ f, u.unshown? = some f ∧ (u.compile settings).outcome = .error (.unshown f) ∧
        (v.compile settings).outcome = .error (.unshown f) := by
  constructor
  · intro a b same span suppress
    refine ⟨a.unshown?, a.reading, a.argumentFaults span, a.readKeywordFaults span, b.readKeywordFaults span,
      a.closingFaults span suppress, ?_, ?_, same.keywordFaults_perm span, ?_, ?_, ?_⟩
    · rw [← Annotation.faults_eq_parts]
      exact a.records_read span suppress
    · rw [← same.argumentFaults, ← same.closingFaults, ← Annotation.faults_eq_parts, ← same.reading, ← same.unshown?]
      exact b.records_read span suppress
    · exact fun d => Annotation.problem_of_mem_argumentFaults
    · intro d member
      unfold Annotation.readKeywordFaults at member
      split_ifs at member
      · exact Annotation.problem_of_mem_keywordFaults member
      · cases member
    · exact a.closingFaults_cases span suppress
  · intro u v same settings
    have perm := same.faults_perm settings.suppressRedundant
    have unshown : v.unshown? = u.unshown? := UnitDecl.unshown?_congr CaseDecl.Reordered.unshown? same.cases
    cases shown : u.unshown? with
    | some f =>
      rw [UnitDecl.compile_outcome, UnitDecl.compile_outcome, unshown, shown]
      exact .inr (.inr ⟨f, rfl, rfl, rfl⟩)
    | none =>
      rw [UnitDecl.compile_of_shown settings shown, UnitDecl.compile_of_shown settings (unshown.trans shown),
        same.taxonomy]
      by_cases clean : u.faults settings.suppressRedundant = []
      · have clean' : v.faults settings.suppressRedundant = [] := (clean ▸ perm).eq_nil
        rw [if_pos clean, if_pos clean']
        exact .inl ⟨_, rfl, rfl⟩
      · have faulty : v.faults settings.suppressRedundant ≠ [] := fun clean' =>
          clean (clean' ▸ perm).symm.eq_nil
        rw [if_neg clean, if_neg faulty]
        exact .inr (.inl ⟨_, _, rfl, rfl, perm⟩)

/-- A unit with one request that has some keywords. -/
def ticketUnit (keywords : List (String × Value)) : UnitDecl where
  name := "Tickets"
  annotation := none
  cases := [⟨"Lost", true, some ⟨[.text "request", .int 7], .ofList keywords⟩⟩]
  reserved := []

/-- Three keywords that cannot be used are reported in the order in which they are written, between the argument
that is one too many and the end, and in any order for the same reasons. -/
theorem ticketUnit_reordered :
    let keywords : List (String × Value) := [("status", .int 9), ("colour", .null), ("code", .text "")]
    let before : List Diagnostic := [
      ⟨"Tickets.Lost(7)", .onlyAssignments⟩, ⟨"Tickets.Lost.status", .badStatus⟩,
      ⟨"Tickets.Lost.colour", .unknownAttribute⟩, ⟨"Tickets.Lost.code", .badCode⟩,
      ⟨"Tickets.Lost", .bothRequired⟩]
    let after : List Diagnostic := [
      ⟨"Tickets.Lost(7)", .onlyAssignments⟩, ⟨"Tickets.Lost.code", .badCode⟩,
      ⟨"Tickets.Lost.colour", .unknownAttribute⟩, ⟨"Tickets.Lost.status", .badStatus⟩,
      ⟨"Tickets.Lost", .bothRequired⟩]
    let settings := { Settings.default with suppressRedundant := false }
    ((ticketUnit keywords).compile settings).outcome = .error (.rejected before) ∧
      ((ticketUnit keywords.reverse).compile settings).outcome = .error (.rejected after) ∧
      after.Perm before := by
  intro keywords before after settings
  have rejected : ((ticketUnit keywords).compile settings).outcome = .error (.rejected before) := by cbv
  have rejected' : ((ticketUnit keywords.reverse).compile settings).outcome = .error (.rejected after) := by cbv
  have reordered : (ticketUnit keywords).Reordered (ticketUnit keywords.reverse) :=
    ⟨rfl, rfl, rfl, .cons ⟨rfl, rfl, .some ⟨rfl, List.reverse_perm keywords⟩⟩ .nil⟩
  refine ⟨rejected, rejected', ?_⟩
  rcases keyword_order_irrelevant.2 _ _ reordered settings with
    ⟨_, accepted, -⟩ | ⟨ds, ds', first, second, perm⟩ | ⟨f, -, stopped, -⟩
  · rw [rejected] at accepted
    cases accepted
  · rw [rejected] at first
    rw [rejected'] at second
    cases first
    cases second
    exact perm
  · rw [rejected] at stopped
    cases stopped

end Errata
