import Errata.Proofs.Compile.Acceptance
import Mathlib

/-!
# Spellings

A disposition may be written as a word or as a keyword, and a status as a number or as a registered constant. The
spelling is lost on the way: what a unit is compiled to shows it only in the statuses of its taxonomy, which keep
the name of a constant. Everything else is computed from the taxonomy without those names (`Taxonomy.unnamed`), so
that units that differ in spelling alone are rejected for the same, or give the same table and the same
documentation (`spelling_irrelevant`).
-/

namespace Errata

namespace Value

/-- Two values are the same, or a word and the keyword that equals it. -/
inductive SameDisposition : Value → Value → Prop where
  | refl (v : Value) :
    SameDisposition v v
  | keyword (d : Disposition) :
    SameDisposition (.text d.text) (.disposition d)
  | word (d : Disposition) :
    SameDisposition (.disposition d) (.text d.text)

/-- Two values are the same, or a registered constant and its number. -/
inductive SameStatus : Value → Value → Prop where
  | refl (v : Value) :
    SameStatus v v
  | registered (h : HttpStatus) :
    SameStatus (.int h.code) (.status h)
  | number (h : HttpStatus) :
    SameStatus (.status h) (.int h.code)

lemma SameDisposition.disposition? {v w : Value} (same : v.SameDisposition w) :
    w.disposition? = v.disposition? := by
  cases same with
  | refl => rfl
  | keyword d => exact (Disposition.ofText?_text d).symm
  | word d => exact Disposition.ofText?_text d

/-- The number of a registered constant is a status. -/
lemma ofValue?_code (h : HttpStatus) : Status.ofValue? (.int h.code) = some (.number h.code) := by
  obtain ⟨low, high⟩ := h.code_bounds
  rw [Status.ofValue?, Status.ofInt?, if_pos]
  omega

/-- Both values give a status of one number, or neither gives one. -/
lemma SameStatus.value {v w : Value} (same : v.SameStatus w) :
    (Status.ofValue? w).map Status.value = (Status.ofValue? v).map Status.value := by
  cases same with
  | refl => rfl
  | registered h =>
    rw [ofValue?_code]
    rfl
  | number h =>
    rw [ofValue?_code]
    rfl

end Value

/-! ## What does not show the spelling -/

/-- The attributes with the number of their status. -/
def RequestAttributes.unnamed (r : RequestAttributes) : RequestAttributes :=
  { r with status := .number r.status.value }

/-- The attributes with the number of their status, if they have one. -/
def Attributes.unnamed : Attributes → Attributes
  | request r => .request r.unnamed
  | internal => .internal

/-- The case with the number of its status, if it has one. -/
def ErrorCase.unnamed (e : ErrorCase) : ErrorCase := { e with attributes := e.attributes.unnamed }

@[simp] lemma ErrorCase.isInternal_unnamed (e : ErrorCase) : e.unnamed.isInternal = e.isInternal := by
  obtain ⟨name, naive, attributes⟩ := e
  cases attributes <;> rfl

namespace Taxonomy

/-- The taxonomy with the numbers of its statuses. -/
def unnamed (t : Taxonomy) : Taxonomy := { t with cases := t.cases.map ErrorCase.unnamed }

/-- Leaving out the names of statuses commutes with selecting cases by their disposition. -/
lemma filter_unnamed (p : Bool → Bool) (cases : List ErrorCase) :
    (cases.map ErrorCase.unnamed).filter (fun e => p e.isInternal) =
      (cases.filter fun e => p e.isInternal).map ErrorCase.unnamed := by
  rw [List.filter_map]
  congr 2
  funext e
  rw [Function.comp_apply, ErrorCase.isInternal_unnamed]

/-- The names of the cases are checked without a look at statuses. -/
lemma nameFaults_unnamed (t : Taxonomy) (reserved : List String) :
    t.unnamed.nameFaults reserved = t.nameFaults reserved := by
  have internal : t.unnamed.internalCases = t.internalCases.map ErrorCase.unnamed := filter_unnamed id t.cases
  have client : t.unnamed.clientCases = t.clientCases.map ErrorCase.unnamed := filter_unnamed not t.cases
  have clashes : t.unnamed.clashFaults reserved = t.clashFaults reserved := by
    unfold clashFaults unnamed
    rw [List.filter_map, List.map_map]
    rfl
  have taken : t.unnamed.reservedFaults = t.reservedFaults := by
    unfold reservedFaults
    rw [internal, client, List.isEmpty_map, List.filter_map, List.map_map]
    rfl
  rw [nameFaults, nameFaults, clashes, taken]

/-- The rule of a case has the number of its status. -/
lemma table_unnamed (t : Taxonomy) (logged : Bool) :
    ResponseTable.ofTaxonomy t.unnamed logged = .ofTaxonomy t logged := by
  unfold ResponseTable.ofTaxonomy unnamed
  rw [List.map_map]
  congr 1
  refine List.map_congr_left fun e _ => ?_
  obtain ⟨name, naive, attributes⟩ := e
  cases attributes <;> rfl

/-- The artifact of a case has the number of its status. -/
lemma catalogue_unnamed (t : Taxonomy) : Docs.Catalogue.ofTaxonomy t.unnamed = .ofTaxonomy t := by
  have internal : t.unnamed.internalCases = t.internalCases.map ErrorCase.unnamed := filter_unnamed id t.cases
  have artifacts : Docs.Catalogue.artifactsOf t.unnamed = Docs.Catalogue.artifactsOf t := by
    unfold Docs.Catalogue.artifactsOf
    rw [internal, List.isEmpty_map]
    congr 1
    show (t.cases.map ErrorCase.unnamed).filterMap _ = _
    rw [List.filterMap_map]
    refine List.filterMap_congr fun e _ => ?_
    obtain ⟨name, naive, attributes⟩ := e
    cases attributes <;> rfl
  rw [Docs.Catalogue.ofTaxonomy, artifacts]
  rfl

end Taxonomy

/-! ## Annotations -/

namespace Annotation

/-- Two keywords are the same, or give one status in two spellings. -/
def SameKeyword (e e' : String × Value) : Prop :=
  e'.1 = e.1 ∧ (e'.2 = e.2 ∨ e.1 = "status" ∧ e.2.SameStatus e'.2)

/-- The annotations differ in nothing but the spelling of the disposition and of the status. -/
structure Respelled (a b : Annotation) : Prop where
  first : Option.Rel Value.SameDisposition a.args.head? b.args.head?
  others : b.args.tail = a.args.tail
  keywords : List.Forall₂ SameKeyword a.keywords.entries b.keywords.entries

/-- Keywords of one status in two spellings are in order, or not, in both. -/
lemma SameKeyword.problem {e e' : String × Value} (same : SameKeyword e e') :
    keywordProblem? e'.1 e'.2 = keywordProblem? e.1 e.2 := by
  obtain ⟨key, v⟩ := e
  obtain ⟨key', w⟩ := e'
  obtain ⟨rfl, rfl | ⟨rfl, same⟩⟩ := same
  · rfl
  · have read : (Status.ofValue? w).isNone = (Status.ofValue? v).isNone := by
      rw [← Option.isNone_map (f := Status.value), same.value, Option.isNone_map]
    rw [keywordProblem?, keywordProblem?, if_pos rfl, if_pos rfl, read]

/-- Among the keywords that are respelled, each is found with a value of its own, and only a status in another
spelling. -/
lemma SameKeyword.find? {es es' : List (String × Value)} (same : List.Forall₂ SameKeyword es es') (key : String) :
    Option.Rel (fun v w => w = v ∨ key = "status" ∧ v.SameStatus w)
      ((es.find? fun e => e.1 = key).map Prod.snd) ((es'.find? fun e => e.1 = key).map Prod.snd) := by
  induction same with
  | nil => exact .none
  | @cons e e' es es' first _ ih =>
    obtain ⟨name, value⟩ := first
    by_cases found : e.1 = key
    · rw [List.find?_cons_of_pos (by simpa using found), List.find?_cons_of_pos (by simpa [name] using found)]
      exact .some (found ▸ value)
    · rw [List.find?_cons_of_neg (by simpa using found), List.find?_cons_of_neg (by simpa [name] using found)]
      exact ih

namespace Respelled

variable {a b : Annotation} (same : a.Respelled b)
include same

lemma disposition? : b.disposition? = a.disposition? := by
  have first := same.first
  unfold Annotation.disposition?
  generalize a.args.head? = v at first ⊢
  generalize b.args.head? = w at first ⊢
  cases first with
  | none => rfl
  | some first => exact first.disposition?

/-- Every keyword but the status has its value. -/
lemma keyword? {key : String} (other : key ≠ "status") : b.keyword? key = a.keyword? key := by
  have found : Option.Rel _ (a.keyword? key) (b.keyword? key) := SameKeyword.find? same.keywords key
  generalize a.keyword? key = v at found ⊢
  generalize b.keyword? key = w at found ⊢
  cases found with
  | none => rfl
  | some value =>
    obtain rfl | ⟨status, -⟩ := value
    · rfl
    · exact absurd status other

/-- The status has its number, if there is one. -/
lemma status? : b.status?.map Status.value = a.status?.map Status.value := by
  have found : Option.Rel _ (a.keyword? "status") (b.keyword? "status") := SameKeyword.find? same.keywords "status"
  unfold Annotation.status?
  generalize a.keyword? "status" = v at found ⊢
  generalize b.keyword? "status" = w at found ⊢
  cases found with
  | none => rfl
  | some value =>
    obtain rfl | ⟨-, value⟩ := value
    · rfl
    · exact value.value

/-- The attributes of a request are the same, but for the name of their status. -/
lemma requestAttributes? :
    b.requestAttributes?.map RequestAttributes.unnamed = a.requestAttributes?.map RequestAttributes.unnamed := by
  have status := same.status?
  have code : b.code? = a.code? := by
    unfold Annotation.code?
    rw [same.keyword? (by decide)]
  have hint : b.hint? = a.hint? := by
    unfold Annotation.hint?
    rw [same.keyword? (by decide)]
  have description : b.description? = a.description? := by
    unfold Annotation.description?
    rw [same.keyword? (by decide)]
  unfold Annotation.requestAttributes?
  rw [code, hint, description]
  cases read : a.status? with
  | none =>
    rw [read, Option.map_none, Option.map_eq_none_iff] at status
    rw [status]
  | some s =>
    rw [read, Option.map_some, Option.map_eq_some_iff] at status
    obtain ⟨s', read', number⟩ := status
    rw [read']
    cases a.code? with
    | none => rfl
    | some c => simp only [Option.map_some, RequestAttributes.unnamed, number]

/-- What is read differs in nothing but the name of a status. -/
lemma reading : b.reading.map Attributes.unnamed = a.reading.map Attributes.unnamed := by
  have attributes := congrArg (Option.map Attributes.request) same.requestAttributes?
  rw [Option.map_map, Option.map_map] at attributes
  unfold Annotation.reading
  rw [same.disposition?]
  cases a.disposition? with
  | none => rfl
  | some d =>
    cases d with
    | internal => rfl
    | request =>
      dsimp only
      rw [Option.map_map, Option.map_map]
      exact attributes

/-- The same is recorded of the keywords, in the same order. -/
lemma keywordFaults (span : String) : b.keywordFaults span = a.keywordFaults span := by
  have each := same.keywords
  unfold Annotation.keywordFaults
  generalize a.keywords.entries = es at each ⊢
  generalize b.keywords.entries = es' at each ⊢
  induction each with
  | nil => rfl
  | @cons e e' _ _ first _ ih =>
    have fault : keywordFault? span e' = keywordFault? span e := by
      rw [keywordFault?, keywordFault?, first.problem, first.1]
    rw [List.filterMap_cons, List.filterMap_cons, fault, ih]

/-- Among the keywords of both stands a status or a code that cannot be used, or in neither. -/
lemma any_isBadStatusOrCode :
    b.keywords.entries.any isBadStatusOrCode = a.keywords.entries.any isBadStatusOrCode := by
  have each := same.keywords
  generalize a.keywords.entries = es at each ⊢
  generalize b.keywords.entries = es' at each ⊢
  induction each with
  | nil => rfl
  | @cons e e' _ _ first _ ih =>
    have bad : isBadStatusOrCode e' = isBadStatusOrCode e := by
      rw [isBadStatusOrCode, isBadStatusOrCode, first.problem]
    rw [List.any_cons, List.any_cons, bad, ih]

/-- The same keeps the annotations from being read. -/
lemma unshown? : b.unshown? = a.unshown? := by
  unfold Annotation.unshown? unshownStray?
  rw [same.disposition?, same.others]

/-- The same is recorded. -/
lemma faults (span : String) (suppress : Bool) : b.faults span suppress = a.faults span suppress := by
  have stray : b.strayFaults span = a.strayFaults span := by rw [strayFaults, strayFaults, same.others]
  have lack : b.requestAttributes?.isNone = a.requestAttributes?.isNone := by
    rw [← Option.isNone_map (f := RequestAttributes.unnamed), same.requestAttributes?, Option.isNone_map]
  unfold Annotation.faults requestFaults lackFault
  rw [same.disposition?, stray, same.keywordFaults, same.any_isBadStatusOrCode, lack]

end Respelled

end Annotation

/-! ## Units -/

namespace CaseDecl

/-- The cases differ in nothing but the spelling of their dispositions and of their statuses. -/
structure Respelled (c d : CaseDecl) : Prop where
  name : d.name = c.name
  naive : d.naive = c.naive
  annotation : Option.Rel Annotation.Respelled c.annotation d.annotation

namespace Respelled

variable {c d : CaseDecl} (same : c.Respelled d)
include same

/-- The case that is read differs in nothing but the name of its status. -/
lemma reading : d.reading.map ErrorCase.unnamed = c.reading.map ErrorCase.unnamed := by
  obtain ⟨name, naive, annotation⟩ := c
  obtain ⟨name', naive', annotation'⟩ := d
  obtain ⟨rfl, rfl, spelling⟩ := same
  cases spelling with
  | none => rfl
  | some spelling =>
    have attributes := congrArg (Option.map (ErrorCase.mk name' naive')) spelling.reading
    rw [Option.map_map, Option.map_map] at attributes
    unfold CaseDecl.reading
    rw [Option.bind_some, Option.bind_some, Option.map_map, Option.map_map]
    exact attributes

/-- The same keeps the cases from being read. -/
lemma unshown? : d.unshown? = c.unshown? := by
  obtain ⟨name, naive, annotation⟩ := c
  obtain ⟨name', naive', annotation'⟩ := d
  obtain ⟨rfl, rfl, spelling⟩ := same
  cases spelling with
  | none => rfl
  | some spelling => exact spelling.unshown?

/-- The same is recorded of the case. -/
lemma faults (unitName : String) (suppress : Bool) : d.faults unitName suppress = c.faults unitName suppress := by
  obtain ⟨name, naive, annotation⟩ := c
  obtain ⟨name', naive', annotation'⟩ := d
  obtain ⟨rfl, rfl, spelling⟩ := same
  cases spelling with
  | none => rfl
  | some spelling => exact spelling.faults _ suppress

end Respelled

end CaseDecl

namespace UnitDecl

/-- The units differ in nothing but the spelling of the dispositions and of the statuses of their cases. -/
structure Respelled (u v : UnitDecl) : Prop where
  name : v.name = u.name
  annotation : v.annotation = u.annotation
  reserved : v.reserved = u.reserved
  cases : List.Forall₂ CaseDecl.Respelled u.cases v.cases

namespace Respelled

variable {u v : UnitDecl} (same : u.Respelled v)
include same

/-- The cases that are read differ in nothing but the names of their statuses. -/
lemma readable : v.readable.map ErrorCase.unnamed = u.readable.map ErrorCase.unnamed := by
  have each := same.cases
  unfold UnitDecl.readable
  rw [List.map_filterMap, List.map_filterMap]
  generalize u.cases = cs at each ⊢
  generalize v.cases = cs' at each ⊢
  induction each with
  | nil => rfl
  | cons first _ ih => rw [List.filterMap_cons, List.filterMap_cons, first.reading, ih]

/-- The taxonomies that are read differ in nothing but the names of statuses. -/
lemma taxonomy : (v.taxonomy v.readable).unnamed = (u.taxonomy u.readable).unnamed := by
  have code : v.internalCode = u.internalCode := by rw [internalCode, internalCode, same.annotation, same.name]
  show Taxonomy.mk v.name v.internalCode.result (v.readable.map ErrorCase.unnamed) =
    ⟨u.name, u.internalCode.result, u.readable.map ErrorCase.unnamed⟩
  rw [same.name, code, same.readable]

/-- The same is recorded of the unit, in the same order. -/
lemma faults (suppress : Bool) : v.faults suppress = u.faults suppress := by
  have cases : v.caseFaults suppress = u.caseFaults suppress := by
    have each := same.cases
    unfold caseFaults
    rw [same.name]
    generalize u.cases = cs at each ⊢
    generalize v.cases = cs' at each ⊢
    induction each with
    | nil => rfl
    | cons first _ ih => rw [List.flatMap_cons, List.flatMap_cons, first.faults, ih]
  rw [UnitDecl.faults, UnitDecl.faults, cases, ← Taxonomy.nameFaults_unnamed, same.taxonomy,
    Taxonomy.nameFaults_unnamed, same.reserved]

end Respelled

end UnitDecl

/-- The spelling of dispositions and statuses does not matter. A unit is rejected with the same diagnostics in
both spellings, or has the same argument that cannot be shown, or is compiled in both to the same table, from which
every reply is made, and to the same artifacts, which are all that is combined, merged and registered. The two
taxonomies differ in nothing but the names that their statuses have. -/
theorem spelling_irrelevant (u v : UnitDecl) (same : u.Respelled v) (settings : Settings) :
    (∃ ds, (u.compile settings).outcome = .error (.rejected ds) ∧
      (v.compile settings).outcome = .error (.rejected ds)) ∨
    (∃ f, u.unshown? = some f ∧ (u.compile settings).outcome = .error (.unshown f) ∧
      (v.compile settings).outcome = .error (.unshown f)) ∨
    ∃ c c', (u.compile settings).outcome = .ok c ∧ (v.compile settings).outcome = .ok c' ∧
      c'.table = c.table ∧ c'.catalogue = c.catalogue ∧ c'.taxonomy.unnamed = c.taxonomy.unnamed := by
  have unshown : v.unshown? = u.unshown? :=
    UnitDecl.unshown?_congr CaseDecl.Respelled.unshown? same.cases
  cases shown : u.unshown? with
  | some f =>
    rw [UnitDecl.compile_outcome, UnitDecl.compile_outcome, unshown, shown]
    exact .inr (.inl ⟨f, rfl, rfl, rfl⟩)
  | none =>
    rw [UnitDecl.compile_of_shown settings shown, UnitDecl.compile_of_shown settings (unshown.trans shown), same.faults]
    split_ifs with clean
    · right
      right
      refine ⟨_, _, rfl, rfl, ?_, ?_, same.taxonomy⟩
      · show ResponseTable.ofTaxonomy _ _ = .ofTaxonomy _ _
        rw [← Taxonomy.table_unnamed, same.taxonomy, Taxonomy.table_unnamed]
      · show Docs.Catalogue.ofTaxonomy _ = .ofTaxonomy _
        rw [← Taxonomy.catalogue_unnamed, same.taxonomy, Taxonomy.catalogue_unnamed]
    · exact .inl ⟨_, rfl, rfl⟩

/-- A unit with a request and an internal case, in some spelling. -/
def parcelUnit (request internal status : Value) : UnitDecl where
  name := "Parcels"
  annotation := none
  cases := [
    ⟨"Lost", false, some ⟨[request], .ofList [("code", .text "lost"), ("status", status)]⟩⟩,
    ⟨"Crash", true, some ⟨[internal], .empty⟩⟩]
  reserved := ["name"]

/-- The unit is compiled in two spellings; the taxonomy shows the name of the constant in one of them. -/
theorem parcelUnit_respelled :
    let u := parcelUnit (.text "request") (.disposition .internal) (.int 404)
    let v := parcelUnit (.disposition .request) (.text "internal") (.status .notFound)
    ∃ c c', (u.compile .default).outcome = .ok c ∧ (v.compile .default).outcome = .ok c' ∧
      c'.table = c.table ∧ c'.catalogue = c.catalogue ∧ c'.taxonomy ≠ c.taxonomy ∧
      c'.taxonomy.unnamed = c.taxonomy.unnamed := by
  intro u v
  have same : u.Respelled v := by
    refine ⟨rfl, rfl, rfl, .cons ⟨rfl, rfl, .some ⟨.some (.keyword .request), rfl, ?_⟩⟩ ?_⟩
    · exact .cons ⟨rfl, .inl rfl⟩ (.cons ⟨rfl, .inr ⟨rfl, .registered .notFound⟩⟩ .nil)
    · exact .cons ⟨rfl, rfl, .some ⟨.some (.word .internal), rfl, .nil⟩⟩ .nil
  have compiled (w : UnitDecl) (clean : w.faults Settings.default.suppressRedundant = []) :
      (w.compile .default).outcome = .ok ((w.taxonomy w.readable).compiled .default) :=
    UnitDecl.compile_eq_ok_iff.2 ⟨(w.faults_eq_nil_iff _).1 clean, rfl⟩
  have first := compiled u (by cbv)
  have second := compiled v (by cbv)
  obtain ⟨ds, rejected, -⟩ | ⟨f, -, stopped, -⟩ | ⟨c, c', read, read', table, catalogue, others⟩ :=
    spelling_irrelevant u v same .default
  · rw [first] at rejected
    cases rejected
  · rw [first] at stopped
    cases stopped
  · cases first.symm.trans read
    cases second.symm.trans read'
    refine ⟨_, _, first, second, table, catalogue, ?_, others⟩
    show v.taxonomy v.readable ≠ u.taxonomy u.readable
    decide

end Errata
