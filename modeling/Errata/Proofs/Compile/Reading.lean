import Errata.Compile
import Errata.Proofs.Attributes.Declaration

/-!
# Reading a unit

What reading the cases of a unit gives and records, said case by case. A case is read by itself
(`CaseDecl.reading`, `CaseDecl.faults`), whatever stands before it; the names are checked afterwards,
among the cases that could be read. `UnitDecl.compile_outcome` says what compiling a unit comes to: it stops at
a stray argument that cannot be shown; otherwise it gives the taxonomy if nothing was recorded, and a rejection
with all that was if anything was.
-/

namespace Errata

namespace CaseDecl

/-- The place of a case in the unit with the given name. -/
def span (c : CaseDecl) (unitName : String) : String := s!"{unitName}.{c.name}"

/-- The case that a declaration stands for, if it can be read. -/
def reading (c : CaseDecl) : Option ErrorCase :=
  c.annotation.bind fun a => a.reading.map fun attributes => ⟨c.name, c.naive, attributes⟩

/-- What keeps the declaration of a case from being read. -/
def unshown? (c : CaseDecl) : Option InspectFault := c.annotation.bind Annotation.unshown?

/-- Everything that is wrong with the declaration of a case. -/
def faults (c : CaseDecl) (unitName : String) (suppress : Bool) : List Diagnostic :=
  match c.annotation with
  | none => [⟨c.span unitName, .missingAttribute⟩]
  | some a => a.faults (c.span unitName) suppress

/-- What reading a case gives and records. -/
lemma records_read (c : CaseDecl) (unitName : String) (suppress : Bool) :
    (c.read unitName suppress).Records c.unshown? c.reading (c.faults unitName suppress) := by
  unfold CaseDecl.read unshown? reading faults
  cases c.annotation with
  | none => exact (Validation.records_report _ _).map fun _ => none
  | some a => exact (a.records_read _ suppress).map _

/-- A case that is classified alone. -/
lemma classify_eq (c : CaseDecl) (unitName : String) (suppress : Bool) :
    c.classify unitName suppress =
      c.unshown?.elim (.ok (c.reading, c.faults unitName suppress)) fun f => .error (.unshown f) :=
  (c.records_read unitName suppress).alone_eq

/-- A case whose arguments can be shown is classified. -/
lemma classify_of_shown {c : CaseDecl} (unitName : String) (suppress : Bool) (shown : c.unshown? = none) :
    c.classify unitName suppress = .ok (c.reading, c.faults unitName suppress) := by
  rw [classify_eq, shown, Option.elim_none]

/-- A case keeps its name when it is read. -/
lemma name_of_reading {c : CaseDecl} {e : ErrorCase} (read : c.reading = some e) :
    e.name = c.name := by
  obtain ⟨a, -, read⟩ := Option.bind_eq_some_iff.1 read
  obtain ⟨attributes, -, rfl⟩ := Option.map_eq_some_iff.1 read
  rfl

/-- A case that is read carries a payload when it is declared to. -/
lemma naive_of_reading {c : CaseDecl} {e : ErrorCase} (read : c.reading = some e) :
    e.naive = c.naive := by
  obtain ⟨a, -, read⟩ := Option.bind_eq_some_iff.1 read
  obtain ⟨attributes, -, rfl⟩ := Option.map_eq_some_iff.1 read
  rfl

/-- A case that cannot be read has a diagnostic at its place. -/
lemma exists_fault_of_reading_eq_none {c : CaseDecl} (unitName : String) (suppress : Bool)
    (dropped : c.reading = none) :
    ∃ d ∈ c.faults unitName suppress, ∃ rest, d.span = c.span unitName ++ rest := by
  unfold reading at dropped
  unfold faults
  cases found : c.annotation with
  | none => exact ⟨_, List.mem_singleton_self _, "", by simp⟩
  | some a =>
    rw [found, Option.bind_some, Option.map_eq_none_iff] at dropped
    exact a.exists_fault_of_reading_eq_none _ suppress dropped

end CaseDecl

namespace Taxonomy

/-- The diagnostics of the cases whose name is reserved by the surroundings. -/
def clashFaults (t : Taxonomy) (reserved : List String) : List Diagnostic :=
  (t.cases.filter fun c => reserved.contains c.name).map fun c =>
    ⟨s!"{t.typeName}.{c.name}", .nameClash⟩

/-- The diagnostics of the cases shown to the client under the name of the internal ones. -/
def reservedFaults (t : Taxonomy) : List Diagnostic :=
  if t.internalCases.isEmpty then []
  else
    (t.clientCases.filter fun c => c.name == internalErrorName).map fun c =>
      ⟨s!"{t.typeName}.{c.name}", .reservedName⟩

/-- Everything that is wrong with the names of the cases. -/
def nameFaults (t : Taxonomy) (reserved : List String) : List Diagnostic :=
  t.clashFaults reserved ++ t.reservedFaults

/-- What checking the names records. -/
lemma records_checkNames (t : Taxonomy) (reserved : List String) :
    (t.checkNames reserved).Records none () (t.nameFaults reserved) := by
  have clashes : (t.checkClashes reserved).Records none () (t.clashFaults reserved) :=
    Validation.records_report_filter _ _ _ _
  have internal : t.checkInternalName.Records none () t.reservedFaults := by
    unfold checkInternalName reservedFaults
    cases t.internalCases.isEmpty with
    | true => exact .pure ()
    | false => exact Validation.records_report_filter _ _ _ _
  exact clashes.bind internal

end Taxonomy

namespace UnitDecl

/-- The cases that can be read. -/
def readable (u : UnitDecl) : List ErrorCase := u.cases.filterMap CaseDecl.reading

/-- What keeps the unit from being read: the first stray argument of a request that cannot be shown. -/
def unshown? (u : UnitDecl) : Option InspectFault := u.cases.findSome? CaseDecl.unshown?

/-- Everything that is wrong with the cases, each by itself. -/
def caseFaults (u : UnitDecl) (suppress : Bool) : List Diagnostic :=
  u.cases.flatMap fun c => c.faults u.name suppress

/-- Everything that is wrong with a unit. -/
def faults (u : UnitDecl) (suppress : Bool) : List Diagnostic :=
  u.caseFaults suppress ++ (u.taxonomy u.readable).nameFaults u.reserved

/-- What reading a unit gives and records. -/
lemma records_read (u : UnitDecl) (suppress : Bool) :
    (u.read suppress).Records u.unshown? (u.taxonomy u.readable) (u.faults suppress) := by
  -- The names are checked last, among the cases that are left.
  have cases := Validation.Records.filterMapM (fun c => c.records_read u.name suppress) u.cases
  have names := Taxonomy.records_checkNames (u.taxonomy u.readable) u.reserved
  have stops : u.unshown? = (u.cases.findSome? fun c => c.unshown?).or none := Option.or_none.symm
  rw [stops]
  exact cases.bind (names.map fun _ => u.taxonomy u.readable)

/-- A unit is not compiled where an argument cannot be shown; otherwise it is compiled when nothing is wrong with
it, and is rejected with everything that is. -/
lemma compile_outcome (u : UnitDecl) (settings : Settings) :
    (u.compile settings).outcome =
      u.unshown?.elim
        (if u.faults settings.suppressRedundant = [] then .ok ((u.taxonomy u.readable).compiled settings)
        else .error (.rejected (u.faults settings.suppressRedundant)))
        fun f => .error (.unshown f) := by
  have read := u.records_read settings.suppressRedundant []
  rw [List.nil_append] at read
  have check := Context.check_recording (u.faults settings.suppressRedundant)
  simp only [compile, Attempt.outcome_bind, Attempt.outcome_log, Attempt.outcome_lift,
    Attempt.outcome_pure, Context.fresh, read]
  cases u.unshown? with
  | some f => rfl
  | none =>
    rw [Option.elim_none, Option.elim_none]
    split_ifs with clean
    · rw [if_pos clean] at check
      simp [bind, Except.bind, check]
    · rw [if_neg clean] at check
      simp [bind, Except.bind, check]

/-- Where every argument can be shown, a unit is compiled or rejected. -/
lemma compile_of_shown {u : UnitDecl} (settings : Settings) (shown : u.unshown? = none) :
    (u.compile settings).outcome =
      if u.faults settings.suppressRedundant = [] then .ok ((u.taxonomy u.readable).compiled settings)
      else .error (.rejected (u.faults settings.suppressRedundant)) := by
  rw [compile_outcome, shown, Option.elim_none]

/-- Units stop at the same where their cases do, one by one. -/
lemma unshown?_congr {R : CaseDecl → CaseDecl → Prop} (same : ∀ {c d : CaseDecl}, R c d → d.unshown? = c.unshown?)
    {u v : UnitDecl} (cases : List.Forall₂ R u.cases v.cases) : v.unshown? = u.unshown? := by
  unfold UnitDecl.unshown?
  generalize u.cases = cs at cases ⊢
  generalize v.cases = ds at cases ⊢
  induction cases with
  | nil => rfl
  | cons first _ ih => rw [List.findSome?_cons, List.findSome?_cons, same first, ih]

/-- Where the arguments of a unit can be shown, those of every case can. -/
lemma shown_of_mem {u : UnitDecl} (shown : u.unshown? = none) {c : CaseDecl} (member : c ∈ u.cases) :
    c.unshown? = none :=
  List.findSome?_eq_none_iff.1 shown c member

end UnitDecl

end Errata
