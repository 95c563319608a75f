import Errata.Proofs.Class.Conversion
import Errata.Session

/-!
# What the classes of a table hold

Whatever a class derives from, what it holds says how it came about: a taxonomy was compiled itself, the class of
a case stands directly below the taxonomy that declares the case, and any other class is not below the root. Every
successful declaration keeps this, whether its bases are there or not (`declare_formed`). So a class below the
root that answers with a unit has compiled the unit itself or is the class of one of its cases
(`compiled_or_case`), and never both. A class statement of a session either declares a class or makes none
(`Session.declare_eq_ok`).
-/

namespace Errata

namespace ClassTable

variable {t : ClassTable}

/-- What a class of the table holds says how it came about. -/
inductive Formed (t : ClassTable) : ClassDef → Prop where
  | declared {name qualifiedName : String} {bases ancestors : List ClassId} {compiled : Compiled}
      {members : List (String × ClassId)} :
    .root ∈ ancestors →
    Formed t ⟨name, qualifiedName, bases, ancestors, .declared compiled members⟩
  | case {name qualifiedName : String} {owner : Nat} {ancestors : List ClassId} {compiled : Compiled}
      {e : ErrorCase} :
    .root ∈ ancestors →
    t.ownCompiled? (.user owner) = some compiled →
    e ∈ compiled.taxonomy.cases →
    Formed t ⟨name, qualifiedName, [.user owner], .user owner :: ancestors, .case e⟩
  | plain {name qualifiedName : String} {bases ancestors : List ClassId} :
    .root ∉ ancestors →
    Formed t ⟨name, qualifiedName, bases, ancestors, .plain⟩

/-- A class is that of a case of a unit: it has the case itself, and stands directly below the class that has
compiled the unit. -/
def IsCaseClass (t : ClassTable) (c : ClassId) (compiled : Compiled) : Prop :=
  ∃ e ∈ compiled.taxonomy.cases, t.ownCase? c = some (some e) ∧
    ∃ owner, t.bases c = [owner] ∧ t.ownCompiled? owner = some compiled

/-- No class is both compiled itself and that of a case. -/
lemma IsCaseClass.ownCompiled? {c : ClassId} {compiled : Compiled} (caseClass : t.IsCaseClass c compiled) :
    t.ownCompiled? c = none := by
  obtain ⟨e, -, own, -⟩ := caseClass
  obtain ⟨n, d, rfl, found, body⟩ := ownCase?_eq_some own
  have self : t.find? (.user n) = some d := found
  simp [ClassTable.ownCompiled?, self, body]

/-- A unit stays with its class when classes are added. -/
lemma ownCompiled?_append_of_some {a : ClassId} {compiled : Compiled} (own : t.ownCompiled? a = some compiled)
    (new : List ClassDef) : (⟨t.classes ++ new⟩ : ClassTable).ownCompiled? a = some compiled := by
  obtain ⟨n, d, members, rfl, found, -⟩ := ownCompiled?_eq_some own
  have has : t.Has (.user n) := (List.getElem?_eq_some_iff.1 found).1
  rw [ownCompiled?_append has, own]

/-- What is known of a class stays true when classes are added. -/
lemma Formed.append {d : ClassDef} (formed : t.Formed d) (new : List ClassDef) :
    (⟨t.classes ++ new⟩ : ClassTable).Formed d := by
  cases formed with
  | declared rooted => exact .declared rooted
  | case rooted owner member => exact .case rooted (ownCompiled?_append_of_some owner new) member
  | plain rootless => exact .plain rootless

/-- Every class of the table is formed after a successful declaration, if it was before. -/
lemma declare_formed {env : Environment} {d : ClassDecl} {t' : ClassTable} {c : ClassId}
    (formed : ∀ d ∈ t.classes, t.Formed d) (success : (t.declare env d).outcome = .ok (t', c)) :
    ∀ d ∈ t'.classes, t'.Formed d := by
  obtain ⟨-, -, ancestors, -, added⟩ := declare_eq_ok_iff.1 success
  rcases added with ⟨rooted, compiled, -, added⟩ | ⟨rootless, -, added⟩
  · cases added
    intro d' member
    rcases List.mem_append.1 member with old | new
    · exact (formed d' old).append _
    · rcases List.mem_cons.1 new with rfl | new
      · exact .declared rooted
      · -- The taxonomy is the first of the new classes, and its case classes stand behind it.
        obtain ⟨e, there, rfl⟩ := List.mem_map.1 new
        refine .case rooted ?_ there
        simp [ownCompiled?, find?]
  · cases added
    intro d' member
    rcases List.mem_append.1 member with old | new
    · exact (formed d' old).append _
    · rw [List.mem_singleton.1 new]
      exact .plain rootless

/-- The root stands only in its own order and in those of the classes of the table. -/
lemma user_of_root_mem_order {c : ClassId} (rooted : .root ∈ t.order c) (proper : c ≠ .root) :
    ∃ n d, c = .user n ∧ t.classes[n]? = some d ∧ .root ∈ d.ancestors := by
  cases c with
  | user n =>
    cases found : t.classes[n]? with
    | none => simp [order, found] at rooted
    | some d =>
      rw [order_user found] at rooted
      rcases List.mem_cons.1 rooted with self | rooted
      · cases self
      · exact ⟨n, d, rfl, found, rooted⟩
  | builtin name =>
    obtain ⟨name', -, same⟩ := List.mem_map.1 rooted
    unfold ClassId.ofType at same
    split at same <;> cases same
  | root => exact absurd rfl proper
  | _ => simp [order] at rooted

/-- A class below the root that answers with a unit has compiled the unit itself, or is the class of one of its
cases. -/
lemma compiled_or_case {c : ClassId} {compiled : Compiled} (formed : ∀ d ∈ t.classes, t.Formed d)
    (rooted : t.derives c .root = true) (proper : c ≠ .root) (answers : t.compiled? c = some compiled) :
    t.ownCompiled? c = some compiled ∨ t.IsCaseClass c compiled := by
  obtain ⟨n, d, rfl, found, rooted⟩ := user_of_root_mem_order (by simpa [derives] using rooted) proper
  have self : t.find? (.user n) = some d := found
  rw [compiled?, order_user found, List.findSome?_cons] at answers
  cases formed d (List.mem_of_getElem? found) with
  | declared =>
    left
    simpa [ownCompiled?, self] using answers
  | @case _ _ owner _ unit e _ above member =>
    right
    have none : t.ownCompiled? (.user n) = none := by simp [ownCompiled?, self]
    rw [none, List.findSome?_cons, above] at answers
    cases answers
    exact ⟨e, member, by simp [ownCase?, self], .user owner, by simp [bases, found], above⟩
  | plain rootless => exact absurd rooted rootless

/-- The class of a case is below the root, and answers with the unit that declares the case. -/
lemma IsCaseClass.answers {c : ClassId} {compiled : Compiled} (formed : ∀ d ∈ t.classes, t.Formed d)
    (caseClass : t.IsCaseClass c compiled) : t.isTaxonomyClass c = true ∧ t.compiled? c = some compiled := by
  have unowned := caseClass.ownCompiled?
  obtain ⟨e, -, own, owner, above, unit⟩ := caseClass
  obtain ⟨n, d, rfl, found, body⟩ := ownCase?_eq_some own
  cases formed d (List.mem_of_getElem? found) with
  | @case _ _ owner' _ _ _ rooted =>
    have same : owner = .user owner' := by simpa [bases, found, eq_comm] using above
    rw [isTaxonomyClass, derives, compiled?, order_user found]
    refine ⟨by simp [rooted], ?_⟩
    rw [List.findSome?_cons, unowned, List.findSome?_cons, ← same, unit]
  | declared => cases body
  | plain => cases body

/-- Bases are not at fault because of a unit. -/
lemma checkBases_ne_unit {d : ClassDecl} (f : Context.Fault) : d.checkBases t ≠ .error (.unit f) := by
  intro failed
  rw [ClassDecl.checkBases] at failed
  split at failed
  · cases failed
  · split_ifs at failed
    cases failed

/-- A name is not at fault because of a unit. -/
lemma checkName_ne_unit {name : String} (f : Context.Fault) :
    ClassDecl.checkName name ≠ .error (.unit f) := by
  intro failed
  rw [ClassDecl.checkName] at failed
  split_ifs at failed
  cases failed

/-- An order is not at fault because of a unit. -/
lemma ancestors_ne_unit {d : ClassDecl} (f : Context.Fault) : d.ancestors t ≠ .error (.unit f) := by
  intro failed
  rw [ClassDecl.ancestors] at failed
  split at failed
  · cases failed
  · obtain ⟨heads, -, told⟩ := Attempt.mapError_eq_error.1 failed
    dsimp only [ClassDecl.orderFault] at told
    split at told <;> cases told

/-- What a declaration says about a unit is what compiling its own unit says. -/
lemma compile_eq_error_of_declare {env : Environment} {d : ClassDecl} {f : Context.Fault}
    (failed : (t.declare env d).outcome = .error (.unit f)) : (d.compile env).outcome = .error (.unit f) := by
  rw [declare, Attempt.outcome_bind_eq_error] at failed
  obtain bases | ⟨_, -, failed⟩ := failed
  · exact absurd bases (checkBases_ne_unit _)
  rw [Attempt.outcome_bind_eq_error] at failed
  obtain name | ⟨_, -, failed⟩ := failed
  · exact absurd name (checkName_ne_unit _)
  rw [Attempt.outcome_bind_eq_error] at failed
  obtain order | ⟨ancestors, -, failed⟩ := failed
  · exact absurd order (ancestors_ne_unit _)
  split_ifs at failed
  · rw [Attempt.outcome_bind_eq_error] at failed
    obtain failed | ⟨_, -, added⟩ := failed
    · exact failed
    · cases added
  · cases failed
  · cases failed

end ClassTable

/-! ## Class statements -/

/-- A call that stands in for a class statement makes no class. -/
lemma Subject.callType_ne_cls {type : String} {keywords : List String} {c : ClassId} :
    Subject.callType type keywords ≠ .ok (.cls c) := by
  intro made
  unfold callType at made
  split at made
  · cases made
  · split at made
    · split at made
      · cases made
      · split_ifs at made
        cases made
    · split at made <;> cases made

/-- A class statement declares a class in the environment as it is now, or changes nothing and makes no class. -/
lemma Session.declare_eq_ok {s s' : Session} {st : ClassStatement} {subject : Subject}
    (success : (s.declare st).outcome = .ok (s', subject)) :
    s'.env = s.env ∧
      ((∃ bases c, (s.classes.declare s.env ⟨st.name, bases, st.hints, st.config⟩).outcome = .ok (s'.classes, c) ∧
        subject = .cls c) ∨
      s' = s ∧ ∀ c, subject ≠ .cls c) := by
  unfold Session.declare at success
  obtain ⟨bases, -, success⟩ := Attempt.outcome_bind_eq_ok.1 success
  obtain ⟨⟨⟩, -, success⟩ := Attempt.outcome_bind_eq_ok.1 success
  split at success
  · cases success
  · split at success
    · obtain ⟨made, value, result⟩ := Attempt.outcome_bind_eq_ok.1 success
      cases result
      refine ⟨rfl, .inr ⟨rfl, fun c same => ?_⟩⟩
      rw [Attempt.outcome_lift, same] at value
      unfold Session.declareValue at value
      split at value
      · exact Subject.callType_ne_cls (Attempt.mapError_eq_ok.1 value)
      · cases value
    · rename_i classes _
      obtain ⟨⟨t, c⟩, declared, result⟩ := Attempt.outcome_bind_eq_ok.1 success
      cases result
      exact ⟨rfl, .inl ⟨classes, c, Attempt.mapError_eq_ok.1 declared, rfl⟩⟩

end Errata
