import Errata.Proofs.Class.Bodies

/-!
# Hints that declare no case

A hint under a private name, or of a class variable, declares no case. It is written and read like any other, and may
be at fault there; where it is not, a class statement does what it would do without it, to the records of the log
(`Session.declare_onlyCases`). The cases of a class that is made have the names of the other hints, in their order
(`names_of_compile`).
-/

namespace Errata

namespace Hint

/-- A class variable, as it is read. -/
def isVariable : Hint → Bool
  | type .classVariable _ => true
  | classVariable _ => true
  | _ => false

/-- A class variable, as it is written: by itself, or as a text. -/
def isClassVariable : Hint → Bool
  | quoted inner => inner.isVariable
  | hint => hint.isVariable

/-- Whatever is no class variable declares a case. -/
lemma isCase_eq (h : Hint) : h.isCase = !h.isVariable := by
  cases h with
  | type t name => cases t <;> rfl
  | raw v => cases v <;> rfl
  | _ => rfl

/-- A text that is read as an expression is no class variable. -/
lemma isCase_of_ofText {s : String} {r : Hint} (read : ofText s = .ok r) : r.isCase = true := by
  obtain ⟨e, -, read⟩ := bind_eq_ok_iff.1 read
  obtain ⟨t, -, made⟩ := bind_eq_ok_iff.1 read
  cases made
  rw [isCase_eq, typeOfThing]
  split_ifs <;> rfl

/-- A hint that is read declares a case unless it is written as a class variable. -/
lemma isCase_of_resolve {h r : Hint} (read : h.resolve = .ok r) : r.isCase = !h.isClassVariable := by
  cases h with
  | raw v =>
    rw [resolve] at read
    cases written : v.wording? with
    | some w =>
      rw [written] at read
      exact isCase_of_ofText read
    | none =>
      rw [written] at read
      cases read
      exact isCase_eq _
  | _ =>
    cases read
    exact isCase_eq _

end Hint

namespace ClassDecl

/-- The hint of a name declares a case. -/
def declaresCase (e : String × Hint) : Bool := !isPrivate e.1 && !e.2.isClassVariable

/-- The hints that declare cases. -/
def caseHints (hints : OrderedMap String Hint) : OrderedMap String Hint where
  entries := hints.entries.filter declaresCase
  nodup := hints.nodup.sublist (List.filter_sublist.map _)

/-- The hints that declare no case can be written and read. -/
def Spare (hints : OrderedMap String Hint) : Prop :=
  ∀ e ∈ hints.entries, declaresCase e = false → e.2.check = .ok () ∧ ∃ r, e.2.resolve = .ok r

/-- Without them, the hints are written with the same outcome. -/
lemma checkHints_caseHints {hints : OrderedMap String Hint} (spare : Spare hints) :
    checkHints (caseHints hints) = checkHints hints :=
  forM_filter fun e member idle => (spare e member idle).1

/-- The class statement without them. -/
def onlyCases (d : ClassDecl) : ClassDecl := { d with hints := caseHints d.hints }

/-- Without them, the other hints are read as they were. -/
lemma resolvedHints_onlyCases {d : ClassDecl} (spare : Spare d.hints) :
    d.onlyCases.resolvedHints = d.resolvedHints.map (List.filter fun e => !isPrivate e.1 && e.2.isCase) := by
  refine mapM_filter (fun e r read => ?_) fun e member idle => ?_
  · obtain ⟨h, resolved, rfl⟩ : ∃ h, e.2.resolve = .ok h ∧ (e.1, h) = r := by
      cases resolved : e.2.resolve with
      | error f => simp [resolved, Except.map] at read
      | ok h =>
        rw [resolved] at read
        exact ⟨h, rfl, Except.ok.inj read⟩
    rw [declaresCase, Hint.isCase_of_resolve resolved]
  · obtain ⟨-, r, read⟩ := spare e member idle
    exact ⟨(e.1, r), by rw [read]; rfl⟩

/-- The cases among hints that are read are those of the hints that declare cases. -/
lemma caseDecls_filter (hints : List (String × Hint)) :
    caseDecls (hints.filter fun e => !isPrivate e.1 && e.2.isCase) = caseDecls hints := by
  rw [caseDecls, List.filter_filter]
  simp only [Bool.and_self]
  rfl

/-- The class declares the same unit without them. -/
lemma unit?_onlyCases {d : ClassDecl} (spare : Spare d.hints) : d.onlyCases.unit? = d.unit? := by
  rw [unit?, unit?, resolvedHints_onlyCases spare]
  cases read : d.resolvedHints with
  | error f => rfl
  | ok hints =>
    simp only [Except.map, caseDecls_filter]
    rfl

lemma compile_onlyCases {d : ClassDecl} (spare : Spare d.hints) (env : Environment) :
    d.onlyCases.compile env = d.compile env := by
  rw [compile, compile, unit?_onlyCases spare]
  rfl

/-- Where a unit can be read, no hint is at fault. -/
lemma spare_of_unit? {d : ClassDecl} {unit : UnitDecl} (written : checkHints d.hints = .ok ())
    (read : d.unit? = .ok unit) : Spare d.hints := by
  obtain ⟨hints, resolved, -⟩ := ClassTable.unit?_eq_ok read
  intro e member _
  refine ⟨forM_eq_ok_iff.1 written e member, ?_⟩
  obtain ⟨r, first⟩ := exists_mapM_eq_ok_iff.1 ⟨hints, resolved⟩ e member
  exact exists_map_eq_ok_iff.1 ⟨r, first⟩

/-- The cases of a class that is compiled have the names of the hints that declare cases, in their order. -/
lemma names_of_compile {env : Environment} {d : ClassDecl} {compiled : Compiled} (spare : Spare d.hints)
    (success : (d.compile env).outcome = .ok compiled) :
    compiled.taxonomy.cases.map ErrorCase.name = (caseHints d.hints).keys := by
  obtain ⟨unit, read, names, -⟩ := ClassTable.exists_unit_of_compile success
  obtain ⟨hints, resolved, declared, -⟩ := ClassTable.unit?_eq_ok read
  have kept := resolvedHints_onlyCases spare
  rw [resolved] at kept
  show _ = d.onlyCases.hints.entries.map Prod.fst
  rw [names, declared, caseDecls, List.map_map, ← ClassTable.names_of_mapM kept]
  rfl

end ClassDecl

namespace ClassTable

lemma declare_onlyCases {d : ClassDecl} (spare : ClassDecl.Spare d.hints) (t : ClassTable) (env : Environment) :
    t.declare env d.onlyCases = t.declare env d := by
  rw [declare, declare, ClassDecl.compile_onlyCases spare]
  rfl

end ClassTable

/-- The class statement without the hints that declare no case. -/
def ClassStatement.onlyCases (st : ClassStatement) : ClassStatement := { st with hints := ClassDecl.caseHints st.hints }

/-- The hints of a class statement that succeeds can be written. -/
lemma Session.written_of_declare {s : Session} {st : ClassStatement} {result : Session × Subject}
    (success : (s.declare st).outcome = .ok result) : ClassDecl.checkHints st.hints = .ok () := by
  unfold Session.declare at success
  obtain ⟨bases, -, success⟩ := Attempt.outcome_bind_eq_ok.1 success
  obtain ⟨⟨⟩, written, -⟩ := Attempt.outcome_bind_eq_ok.1 success
  exact Attempt.mapError_eq_ok.1 written

/-- Where they can be written and read, a class statement does the same without them. -/
lemma Session.declare_onlyCases {st : ClassStatement} (spare : ClassDecl.Spare st.hints) (s : Session) :
    s.declare st.onlyCases = s.declare st := by
  have declared (bases : List ClassId) :
      s.classes.declare s.env ⟨st.name, bases, ClassDecl.caseHints st.hints, st.config⟩ =
        s.classes.declare s.env ⟨st.name, bases, st.hints, st.config⟩ :=
    ClassTable.declare_onlyCases (d := ⟨st.name, bases, st.hints, st.config⟩) spare s.classes s.env
  simp only [declare, ClassStatement.onlyCases, ClassDecl.checkHints_caseHints spare, declared]

end Errata
