import Errata.Class.Instance
import Errata.Proofs.Class.Table
import Mathlib

/-!
# What an error is converted to

An error is reported as the case of the nearest case class among its ancestors, but it is converted by the
table of the nearest taxonomy, and the two are looked for separately. They belong together for the case
classes that come with a taxonomy. A class that is derived from a case class is a taxonomy of its own:
its errors are converted by the cases of its own hints, which need not have the reported one
(`convert_prescribed_iff`).
-/

namespace Errata

namespace ClassTable

/-- A class reports a case that a unit declares: the nearest case class has the case, and stands directly
below the taxonomy that answers with the unit. -/
structure Reports (t : ClassTable) (c : ClassId) (e : ErrorCase) (unit : Compiled) : Prop where
  reported : t.case? c = some e
  nearest : ∃ m d owner, (t.order c).find? (fun a => (t.ownCase? a).isSome) = some m ∧
    t.find? m = some d ∧ d.body = .case e ∧ d.bases = [.user owner] ∧
    t.ownCompiled? (.user owner) = some unit
  member : e ∈ unit.taxonomy.cases

/-- The case of a class is that of the nearest class that says something about it. -/
lemma case?_eq_some {t : ClassTable} {c : ClassId} {e : ErrorCase} (reported : t.case? c = some e) :
    ∃ m, m ∈ t.order c ∧ (t.order c).find? (fun a => (t.ownCase? a).isSome) = some m ∧
      t.ownCase? m = some (some e) := by
  obtain ⟨before, m, after, order, own, silent⟩ :=
    List.findSome?_eq_some_iff.1 (Option.join_eq_some_iff.1 reported)
  refine ⟨m, ?_, ?_, own⟩
  · rw [order]
    exact List.mem_append_right _ List.mem_cons_self
  · rw [List.find?_eq_some_iff_append, own]
    refine ⟨rfl, before, after, order, fun a member => ?_⟩
    rw [silent a member]
    rfl

/-- A class that declares a unit is a taxonomy of the table. -/
lemma ownCompiled?_eq_some {t : ClassTable} {a : ClassId} {compiled : Compiled}
    (own : t.ownCompiled? a = some compiled) :
    ∃ n d members, a = .user n ∧ t.classes[n]? = some d ∧ d.body = .declared compiled members := by
  unfold ownCompiled? at own
  split at own
  · rename_i compiled' members body
    cases own
    obtain ⟨d, found, held⟩ := Option.map_eq_some_iff.1 body
    cases a with
    | user n => exact ⟨n, d, members, rfl, found, held⟩
    | _ => cases found
  · cases own

/-- A case class reports its own case, and the unit of the class that it stands below. -/
lemma Reports.of_case {t : ClassTable} {n owner : Nat} {d : ClassDef} {e e' : ErrorCase}
    {unit : Compiled} (reports : t.Reports (.user n) e unit) (found : t.classes[n]? = some d)
    (body : d.body = .case e') (bases : d.bases = [.user owner]) :
    e' = e ∧ t.ownCompiled? (.user owner) = some unit := by
  have self : t.find? (.user n) = some d := found
  have own : t.ownCase? (.user n) = some (some e') := by simp [ownCase?, self, body]
  obtain ⟨m, d', owner', nearest, there, body', bases', ownerUnit⟩ := reports.nearest
  rw [order_user found, List.find?_cons_of_pos (by simp [own])] at nearest
  cases nearest
  rw [self] at there
  cases there
  rw [body] at body'
  rw [bases] at bases'
  cases body'
  cases bases'
  exact ⟨rfl, ownerUnit⟩

section

variable {t : ClassTable} (sound : ∀ d ∈ t.classes, t.Sound d)
include sound

/-- A class that reports a case reports one that a unit declares. -/
lemma exists_reports {c : ClassId} {e : ErrorCase} (reported : t.case? c = some e) :
    ∃ unit, t.Reports c e unit := by
  obtain ⟨m, -, nearest, own⟩ := case?_eq_some reported
  obtain ⟨n, d, rfl, found, body⟩ := ownCase?_eq_some own
  cases sound d (List.mem_of_getElem? found) with
  | case _ _ owner member =>
    cases body
    exact ⟨_, reported, ⟨_, _, _, nearest, found, rfl, rfl, owner⟩, member⟩
  | declared => cases body
  | plain => cases body

/-- The table of a taxonomy is that of its own cases, of which no two have one name. -/
lemma table_of_ownCompiled? {a : ClassId} {compiled : Compiled}
    (own : t.ownCompiled? a = some compiled) :
    (compiled.taxonomy.cases.map ErrorCase.name).Nodup ∧
      ∃ logged, compiled.table = .ofTaxonomy compiled.taxonomy logged := by
  obtain ⟨n, d, members, rfl, found, body⟩ := ownCompiled?_eq_some own
  cases sound d (List.mem_of_getElem? found) with
  | declared _ _ distinct table =>
    cases body
    exact ⟨distinct, _, table⟩
  | case => cases body
  | plain => cases body

/-- A class that reports a case is the case class of a taxonomy, and answers with the unit of it, or is a
taxonomy itself, and answers with its own unit. -/
lemma compiled?_of_reports {c : ClassId} {e : ErrorCase} {unit : Compiled}
    (reports : t.Reports c e unit) :
    (t.ownCase? c = some (some e) ∧ t.ownCompiled? c = none ∧ t.compiled? c = some unit) ∨
      ∃ own, t.ownCase? c = none ∧ t.ownCompiled? c = some own ∧ t.compiled? c = some own := by
  obtain ⟨m, member, nearest, ownCase⟩ := case?_eq_some reports.reported
  obtain ⟨n, d, rfl, found⟩ := class_of_case_mem_order member ownCase
  have self : t.find? (.user n) = some d := found
  have order := order_user found
  cases sound d (List.mem_of_getElem? found) with
  | @declared _ _ _ _ compiled =>
    -- Its own unit hides the one of the class that it takes the case from.
    have own : t.ownCompiled? (.user n) = some compiled := by simp [ownCompiled?, self]
    refine .inr ⟨compiled, by simp [ownCase?, self], own, ?_⟩
    rw [compiled?, order, List.findSome?_cons, own]
  | @case _ _ owner =>
    -- It has no unit of its own, and the next class in its order is the one that declares its case.
    obtain ⟨rfl, unit⟩ := reports.of_case found rfl rfl
    have none : t.ownCompiled? (.user n) = none := by simp [ownCompiled?, self]
    refine .inl ⟨by simp [ownCase?, self], none, ?_⟩
    rw [compiled?, order, List.findSome?_cons, none, List.findSome?_cons, unit]
  | plain _ caseless =>
    rw [order] at member
    rcases List.mem_cons.1 member with rfl | member
    · simp [ownCase?, self] at ownCase
    · rw [caseless _ member] at ownCase
      cases ownCase

end

end ClassTable

namespace Taxonomy

/-- A unit answers a name with a body just when one of its cases has the name and prescribes the body. -/
lemma answers_iff {t : Taxonomy} (distinct : (t.cases.map ErrorCase.name).Nodup) (logged : Bool)
    (name : String) (content : Value) (body : ErrorBody) :
    ((ResponseTable.ofTaxonomy t logged).convert name content).outcome = .ok body ↔
      ∃ e ∈ t.cases, e.name = name ∧ e.prescribed t.internalCode.text content = body := by
  rw [ResponseTable.convert_ofTaxonomy]
  constructor
  · intro answered
    cases found : t.cases.find? fun e => e.name == name with
    | none =>
      rw [found] at answered
      cases answered
    | some e =>
      rw [found] at answered
      cases answered
      exact ⟨e, List.mem_of_find?_eq_some found, by simpa using List.find?_some found, rfl⟩
  · rintro ⟨e, member, rfl, rfl⟩
    rw [ErrorCase.find?_name distinct member]

/-- A unit has no answer to a name just when none of its cases has the name. -/
lemma fails_iff {t : Taxonomy} (logged : Bool) (name : String) (content : Value) :
    (∃ f, ((ResponseTable.ofTaxonomy t logged).convert name content).outcome = .error f) ↔
      ∀ e ∈ t.cases, e.name ≠ name := by
  rw [ResponseTable.convert_ofTaxonomy]
  have absent : (t.cases.find? fun e => e.name == name) = none ↔ ∀ e ∈ t.cases, e.name ≠ name := by
    simp
  rw [← absent]
  cases t.cases.find? fun e => e.name == name <;> simp

end Taxonomy

namespace Instance

variable {t : ClassTable} {c : ClassId} {args : List Value} {i : Instance}

/-- An error is made only of a class with a case. -/
lemma construct_eq_ok (constructed : construct t c args = .ok i) :
    i.cls = c ∧ ∃ e, t.case? c = some e := by
  unfold construct at constructed
  split at constructed
  · cases constructed
  · rename_i e reported
    split_ifs at constructed
    cases constructed
    exact ⟨rfl, e, reported⟩

/-- An error is converted by the unit that its class answers with. -/
lemma convert_eq {unit : Compiled} {e : ErrorCase} (reported : t.case? i.cls = some e)
    (answers : t.compiled? i.cls = some unit) :
    i.convert t = unit.table.convert e.name i.content := by
  simp [convert, table, caseName, reported, answers]

/-- Every error that can be made is reported as a case that a unit declares. It is converted to what that
declaration prescribes just when its class is the case class itself, or declares a case of the same name
that prescribes the same; and the conversion fails just when its class declares a unit without a case of
that name. -/
theorem convert_prescribed_iff (reachable : t.Reachable) (constructed : construct t c args = .ok i) :
    ∃ e unit, t.Reports c e unit ∧ i.caseName t = e.name ∧
      ((i.convert t).outcome = .ok (e.prescribed unit.taxonomy.internalCode.text i.content) ↔
        t.ownCase? c = some (some e) ∨
          ∃ own, t.ownCompiled? c = some own ∧ ∃ e' ∈ own.taxonomy.cases, e'.name = e.name ∧
            e'.prescribed own.taxonomy.internalCode.text i.content =
              e.prescribed unit.taxonomy.internalCode.text i.content) ∧
      ((∃ f, (i.convert t).outcome = .error f) ↔
        ∃ own, t.ownCompiled? c = some own ∧ ∀ e' ∈ own.taxonomy.cases, e'.name ≠ e.name) := by
  have sound := reachable.sound
  obtain ⟨rfl, e, reported⟩ := construct_eq_ok constructed
  obtain ⟨unit, reports⟩ := ClassTable.exists_reports sound reported
  refine ⟨e, unit, reports, by simp [caseName, reported], ?_⟩
  obtain ⟨ownCase, none, answers⟩ | ⟨own, ownCase, declared, answers⟩ :=
    ClassTable.compiled?_of_reports sound reports
  · -- The case class: the table that answers is that of the unit that declares the case.
    obtain ⟨m, d, owner, -, -, -, -, ownerUnit⟩ := reports.nearest
    obtain ⟨distinct, logged, table⟩ := ClassTable.table_of_ownCompiled? sound ownerUnit
    rw [convert_eq reported answers, table]
    have prescribed := (Taxonomy.answers_iff distinct logged e.name i.content _).2
      ⟨e, reports.member, rfl, rfl⟩
    rw [prescribed, none]
    exact ⟨⟨fun _ => .inl ownCase, fun _ => rfl⟩, by simp⟩
  · -- A class derived from it: its own table is asked for the inherited name.
    obtain ⟨distinct, logged, table⟩ := ClassTable.table_of_ownCompiled? sound declared
    rw [convert_eq reported answers, table, Taxonomy.answers_iff distinct, Taxonomy.fails_iff, ownCase,
      declared]
    simp

end Instance

/-- A taxonomy with one case. -/
def appDecl : ClassDecl where
  name := "App"
  bases := [.root]
  hints := .ofList [("NotFound", .annotated (.raw .null)
    [.note [.text "request"] [("status", .int 404), ("code", .text "not-found")]])]
  config := .empty

/-- A class without hints, derived from the class of that case. -/
def goneDecl : ClassDecl where
  name := "Gone"
  bases := [.user 1]
  hints := .empty
  config := .empty

/-- The one case. -/
def notFound : ErrorCase := ⟨"NotFound", true, .request ⟨.number 404, .literal "not-found", none, none⟩⟩

/-- The taxonomy that a class is compiled to, when it is not configured. -/
def unconfigured (name : String) (cases : List ErrorCase) : Compiled :=
  Taxonomy.compiled ⟨name, .literal "internal-error", cases⟩ .default

/-- The ancestors of that taxonomy. -/
def appAncestors : List ClassId := [.root, .exception, .baseException, .object]

/-- The ancestors of the derived class. -/
def goneAncestors : List ClassId := .user 1 :: .user 0 :: appAncestors

/-- The table with the taxonomy and its case class. -/
def appTable : ClassTable :=
  (ClassTable.empty.add "App" [.root] appAncestors (unconfigured "App" [notFound])).1

/-- The table with the derived class, too. -/
def goneTable : ClassTable :=
  (appTable.add "Gone" [.user 1] goneAncestors (unconfigured "Gone" [])).1

/-- The taxonomy is declared first. -/
lemma appDecl_declared : (ClassTable.empty.declare .empty appDecl).outcome = .ok (appTable, .user 0) := by
  have bases : appDecl.checkBases .empty = .ok () := by cbv
  have order : appDecl.ancestors .empty = .ok appAncestors := by cbv
  have unit : appDecl.unit? = .ok ⟨"App", none, [⟨"NotFound", true, some ⟨[.text "request"],
      .ofList [("status", .int 404), ("code", .text "not-found")]⟩⟩], reservedNames⟩ := by rfl
  have accepted : (appDecl.compile .empty).outcome = .ok (unconfigured "App" [notFound]) :=
    ClassTable.compile_eq_ok_iff.2 ⟨rfl, _, unit, by cbv, rfl⟩
  exact ClassTable.declare_eq_ok_iff.2 ⟨bases, rfl, _, order, .inl ⟨by decide, _, accepted, rfl⟩⟩

/-- The derived class is declared from the case class. -/
lemma goneDecl_declared : (appTable.declare .empty goneDecl).outcome = .ok (goneTable, .user 2) := by
  have bases : goneDecl.checkBases appTable = .ok () := by cbv
  have order : goneDecl.ancestors appTable = .ok goneAncestors := by cbv
  have accepted : (goneDecl.compile .empty).outcome = .ok (unconfigured "Gone" []) :=
    ClassTable.compile_eq_ok_iff.2 ⟨rfl, ⟨"Gone", none, [], reservedNames⟩, rfl, by cbv, rfl⟩
  exact ClassTable.declare_eq_ok_iff.2 ⟨bases, rfl, _, order, .inl ⟨by decide, _, accepted, rfl⟩⟩

/-- Declarations make that table. -/
lemma goneTable_reachable : goneTable.Reachable := by
  refine .declare (.declare .empty ?_ appDecl_declared) ?_ goneDecl_declared
  · simp [appDecl, ClassTable.Has]
  · simp [goneDecl, ClassTable.Has, appTable, ClassTable.add, unconfigured, Taxonomy.compiled]

/-- An error of the case class is converted to what its declaration prescribes. -/
theorem notFound_converted : ∃ e unit, goneTable.Reports (.user 1) e unit ∧
    (Instance.convert ⟨.user 1, []⟩ goneTable).outcome =
      .ok (e.prescribed unit.taxonomy.internalCode.text .null) := by
  have constructed : Instance.construct goneTable (.user 1) [] = .ok ⟨.user 1, []⟩ := by cbv
  obtain ⟨e, unit, reports, -, prescribed, -⟩ :=
    Instance.convert_prescribed_iff goneTable_reachable constructed
  refine ⟨e, unit, reports, prescribed.2 (.inl ?_)⟩
  have reported : goneTable.case? (.user 1) = some notFound := by cbv
  cases reported.symm.trans reports.reported
  cbv

/-- An error of the derived class can be made, and is reported as the case, but it has no conversion: it is
converted by the table of its own class, which has no cases. -/
theorem gone_unconverted :
    goneTable.Reachable ∧
      Instance.construct goneTable (.user 2) [] = .ok ⟨.user 2, []⟩ ∧
      Instance.caseName ⟨.user 2, []⟩ goneTable = "NotFound" ∧
      (Instance.convert ⟨.user 2, []⟩ goneTable).outcome = .error ⟨"Gone", "NotFound"⟩ :=
  ⟨goneTable_reachable, by cbv, by cbv, by cbv⟩

end Errata
