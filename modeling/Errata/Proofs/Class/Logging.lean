import Errata.Proofs.Class.Bodies
import Errata.Proofs.OrderedMap
import Errata.Proofs.Reply.Secrecy

/-!
# What the log says of an error

The class of a case takes the payload of the case and nothing else. Each conversion of its errors leaves one record
that names the case and says what the error carries, if the case is internal and the log was switched on when the
taxonomy was declared, and none otherwise. Both are decided by the declaration: whatever a session does later, it
only adds classes (`Session.Step.extends`, and `Session.Leads.extends` for a run), so that the class of the case
stays where it is, directly below the taxonomy that answers for it. The environment is not asked again
(`logged_once`).

The log puts the payload in prose, and the error itself puts it inside a text. The two are the same but for an object
that formats itself otherwise than it prints itself (`Instance.remark_eq_print_iff`).
-/

namespace Errata

namespace ClassTable

/-- Another table has the classes of a table in front of its own. -/
def Extends (t t' : ClassTable) : Prop := ∃ new, t' = ⟨t.classes ++ new⟩

lemma Extends.refl (t : ClassTable) : t.Extends t := ⟨[], by rw [List.append_nil]⟩

lemma Extends.trans {t t' t'' : ClassTable} (first : t.Extends t') (second : t'.Extends t'') : t.Extends t'' := by
  obtain ⟨new, rfl⟩ := first
  obtain ⟨newer, rfl⟩ := second
  exact ⟨new ++ newer, by rw [List.append_assoc]⟩

lemma declare_extends {t t' : ClassTable} {env : Environment} {d : ClassDecl} {c : ClassId}
    (success : (t.declare env d).outcome = .ok (t', c)) : t.Extends t' := by
  obtain ⟨-, -, ancestors, -, ⟨-, compiled, -, added⟩ | ⟨-, -, added⟩⟩ := declare_eq_ok_iff.1 success
  · cases added
    exact ⟨_, rfl⟩
  · cases added
    exact ⟨_, rfl⟩

/-- Whatever a class says of itself has a private name. -/
lemma selfDescription?_of_shown {t : ClassTable} {c : ClassId} {name : String}
    (shown : ClassDecl.isPrivate name = false) : t.selfDescription? c name = none := by
  unfold selfDescription?
  -- First by the class, and then by the name.
  split
  all_goals
    split
    all_goals first | rfl | exact absurd shown (by decide)

/-- The class `n` is that of a case, and stands directly below the class `owner`, which has compiled a unit and has
the class under the name of the case. -/
structure CaseBelow (t : ClassTable) (n owner : Nat) (e : ErrorCase) (compiled : Compiled) : Prop where
  here : ∃ d rest, t.classes[n]? = some d ∧ d.body = .case e ∧ d.ancestors = .user owner :: rest ∧ .root ∈ rest
  above : t.ownCompiled? (.user owner) = some compiled
  named : t.ownMember? (.user owner) e.name = some (.user n)

namespace CaseBelow

variable {t : ClassTable} {n owner : Nat} {e : ErrorCase} {compiled : Compiled}

lemma mono {t' : ClassTable} (below : t.CaseBelow n owner e compiled) (later : t.Extends t') :
    t'.CaseBelow n owner e compiled := by
  obtain ⟨⟨d, rest, found, held⟩, above, named⟩ := below
  obtain ⟨new, rfl⟩ := later
  obtain ⟨m, d', _, same, found', -⟩ := ownCompiled?_eq_some above
  cases same
  have has : t.Has (.user owner) := (List.getElem?_eq_some_iff.1 found').1
  refine ⟨⟨d, rest, ?_, held⟩, ?_, ?_⟩
  · rw [List.getElem?_append_left (List.getElem?_eq_some_iff.1 found).1]
    exact found
  · rw [ownCompiled?_append has, above]
  · rw [ownMember?, find?_append has]
    exact named

/-- The class reports its own case, answers with the unit above it, and stands below the root. -/
lemma facts (below : t.CaseBelow n owner e compiled) :
    t.case? (.user n) = some e ∧ t.compiled? (.user n) = some compiled ∧ t.isTaxonomyClass (.user n) = true := by
  obtain ⟨⟨d, rest, found, body, ancestors, rooted⟩, above, -⟩ := below
  have self : t.find? (.user n) = some d := found
  have own : t.ownCase? (.user n) = some (some e) := by simp [ownCase?, self, body]
  have none : t.ownCompiled? (.user n) = none := by simp [ownCompiled?, self, body]
  rw [case?, compiled?, isTaxonomyClass, derives, order_user found, ancestors]
  refine ⟨?_, ?_, ?_⟩
  · rw [List.findSome?_cons, own]
    rfl
  · rw [List.findSome?_cons, none, List.findSome?_cons, above]
  · simp [rooted]

/-- The class is the attribute of that name, unless the name is private. -/
lemma getAttribute (below : t.CaseBelow n owner e compiled) (shown : ClassDecl.isPrivate e.name = false) :
    t.getAttribute (.user owner) e.name = .ok (.cls (.user n)) := by
  obtain ⟨-, above, named⟩ := below
  obtain ⟨m, d, _, same, found, -⟩ := ownCompiled?_eq_some above
  cases same
  have concrete : e.name ≠ Script.abstractAttribute := by
    rintro taken
    rw [taken] at shown
    exact absurd shown (by decide)
  have unsaid : t.selfDescription? (.user owner) e.name = none := selfDescription?_of_shown shown
  have own : t.ownAttribute? e.name (.user owner) = some (.cls (.user n)) := by
    rw [ownAttribute?, named]
  rw [ClassTable.getAttribute, if_neg concrete, unsaid, order_user found, List.findSome?_cons, own]
  rfl

/-- The class can be called with the payload of the case, and with nothing else. -/
lemma call_iff (below : t.CaseBelow n owner e compiled) {args : List Value} {i : Instance} :
    (Subject.cls (.user n)).call t args = .ok i ↔ i = ⟨.user n, args⟩ ∧ args.length = if e.naive then 0 else 1 := by
  obtain ⟨reported, -, rooted⟩ := below.facts
  show Subject.callClass t (.user n) args = .ok i ↔ _
  unfold Subject.callClass
  rw [if_pos rooted, Attempt.mapError_eq_ok, Instance.construct, reported]
  cases naive : e.naive with
  | true =>
    cases args with
    | nil => simp [naive, eq_comm]
    | cons v rest => simp [naive]
  | false =>
    by_cases one : args.length = 1
    · simp [naive, one, eq_comm]
    · simp [naive, one]

end CaseBelow

variable {t : ClassTable} {name : String} {bases ancestors : List ClassId} {compiled : Compiled}

/-- Where no two cases have one name, a new taxonomy has the class of every case under its name. -/
lemma add_ownMember? (distinct : (compiled.taxonomy.cases.map ErrorCase.name).Nodup) {i : Nat} {e : ErrorCase}
    (there : compiled.taxonomy.cases[i]? = some e) :
    (t.add name bases ancestors compiled).1.ownMember? (.user t.classes.length) e.name =
      some (.user (t.classes.length + 1 + i)) := by
  obtain ⟨members, found, rfl⟩ : ∃ members,
      (t.add name bases ancestors compiled).1.find? (.user t.classes.length) =
        some ⟨name, name, bases, ancestors, .declared compiled members⟩ ∧
      members = compiled.taxonomy.cases.zipIdx.map fun p => (p.1.name, .user (t.classes.length + 1 + p.2)) :=
    ⟨_, by simp [find?, add], rfl⟩
  rw [ownMember?, found]
  apply OrderedMap.lookup_of_mem
  · rw [List.map_map]
    show (compiled.taxonomy.cases.zipIdx.map (ErrorCase.name ∘ Prod.fst)).Nodup
    rw [← List.map_map, List.zipIdx_map_fst]
    exact distinct
  · exact List.mem_map.2 ⟨(e, i), List.mk_mem_zipIdx_iff_getElem?.2 there, rfl⟩

/-- The cases of a new taxonomy have their classes behind it, in their order. -/
lemma add_caseBelow (rooted : .root ∈ ancestors) (distinct : (compiled.taxonomy.cases.map ErrorCase.name).Nodup)
    {i : Nat} {e : ErrorCase} (there : compiled.taxonomy.cases[i]? = some e) :
    (t.add name bases ancestors compiled).1.CaseBelow (t.classes.length + 1 + i) t.classes.length e compiled := by
  constructor
  · refine ⟨caseClass t.classes.length name ancestors e, ancestors, ?_, rfl, rfl, rooted⟩
    show (t.classes ++ _)[t.classes.length + 1 + i]? = _
    rw [List.getElem?_append_right (by omega), show t.classes.length + 1 + i - t.classes.length = i + 1 by omega,
      List.getElem?_cons_succ, List.getElem?_map, there]
    rfl
  · simp [add, ownCompiled?, find?]
  · exact add_ownMember? distinct there

/-- No case of a class that is compiled has a private name. -/
lemma shown_of_compile {env : Environment} {d : ClassDecl} (success : (d.compile env).outcome = .ok compiled) :
    ∀ e ∈ compiled.taxonomy.cases, ClassDecl.isPrivate e.name = false := by
  obtain ⟨unit, read, names, -⟩ := exists_unit_of_compile success
  obtain ⟨hints, -, declared, -⟩ := unit?_eq_ok read
  intro e member
  have named : e.name ∈ unit.cases.map CaseDecl.name := names ▸ List.mem_map_of_mem member
  rw [declared] at named
  obtain ⟨c, there, same⟩ := List.mem_map.1 named
  obtain ⟨h, listed, rfl⟩ := List.mem_map.1 there
  have shown : (!ClassDecl.isPrivate h.1 && h.2.isCase) = true := (List.mem_filter.1 listed).2
  rw [Bool.and_eq_true, Bool.not_eq_true'] at shown
  exact same ▸ shown.1

/-- A class that is compiled when it is declared answers with the table of its cases, with the log that the
environment has switched on or not; and it has the class of every case under the name of the case. -/
lemma declare_cases {env : Environment} {d : ClassDecl} {t' : ClassTable} {c : ClassId}
    (success : (t.declare env d).outcome = .ok (t', c)) (own : t'.ownCompiled? c = some compiled) :
    compiled.table = .ofTaxonomy compiled.taxonomy (Settings.ofEnvironment env).result.logInternalErrors ∧
      (compiled.taxonomy.cases.map ErrorCase.name).Nodup ∧
      ∃ owner, c = .user owner ∧ ∀ e ∈ compiled.taxonomy.cases, ClassDecl.isPrivate e.name = false ∧
        ∃ n, t'.CaseBelow n owner e compiled := by
  obtain ⟨-, -, ancestors, -, ⟨rooted, compiled', accepted, added⟩ | ⟨-, -, added⟩⟩ := declare_eq_ok_iff.1 success
  · cases added
    have same : compiled' = compiled := by simpa [add, ownCompiled?, find?] using own
    subst same
    have distinct := (table_of_compile accepted).1
    refine ⟨?_, distinct, _, rfl, fun e member => ⟨shown_of_compile accepted e member, ?_⟩⟩
    · obtain ⟨-, unit, -, accepted, -⟩ := compile_eq_ok_iff.1 accepted
      obtain ⟨-, rfl⟩ := UnitDecl.compile_eq_ok_iff.1 accepted
      rfl
    · obtain ⟨i, there⟩ := List.mem_iff_getElem?.1 member
      exact ⟨_, add_caseBelow rooted distinct there⟩
  · cases added
    simp [ownCompiled?, find?] at own

end ClassTable

/-! ## Sessions -/

namespace Session

/-- What a session goes through. -/
inductive Step : Session → Session → Prop where
  | declare {s s' : Session} {st : ClassStatement} {subject : Subject} :
    (s.declare st).outcome = .ok (s', subject) →
    Step s s'
  | construct {s s' : Session} {name : String} {path : List String} {args : List Value} {i : Instance} :
    s.construct name path args = .ok (s', i) →
    Step s s'
  | register {s s' : Session} {sources : List Source} :
    s.register sources = .ok s' →
    Step s s'
  | document (s : Session) :
    Step s s.document.2
  | environment (s : Session) (changes : List (String × Option String)) :
    Step s (s.setVariables changes)

/-- A session comes to another by any number of steps. -/
def Leads : Session → Session → Prop := Relation.ReflTransGen Step

/-- A step declares a class, or changes none. -/
lemma Step.classes {s s' : Session} (step : s.Step s') :
    (∃ env d c, (s.classes.declare env d).outcome = .ok (s'.classes, c)) ∨ s'.classes = s.classes := by
  cases step with
  | declare success =>
    obtain ⟨-, ⟨bases, c, declared, -⟩ | ⟨rfl, -⟩⟩ := declare_eq_ok success
    · exact .inl ⟨_, _, c, declared⟩
    · exact .inr rfl
  | construct success =>
    obtain ⟨subject, -, success⟩ := bind_eq_ok_iff.1 success
    obtain ⟨i, -, result⟩ := bind_eq_ok_iff.1 success
    cases result
    exact .inr rfl
  | register success =>
    obtain ⟨subjects, -, success⟩ := bind_eq_ok_iff.1 success
    obtain ⟨application, -, result⟩ := bind_eq_ok_iff.1 success
    cases result
    exact .inr rfl
  | document => exact .inr rfl
  | environment => exact .inr rfl

/-- A step adds classes, and changes none of those that are there. -/
lemma Step.extends {s s' : Session} (step : s.Step s') : s.classes.Extends s'.classes := by
  obtain ⟨env, d, c, declared⟩ | same := step.classes
  · exact ClassTable.declare_extends declared
  · rw [same]
    exact .refl _

/-- A session keeps the classes that it has. -/
lemma Leads.extends {s s' : Session} (leads : s.Leads s') : s.classes.Extends s'.classes := by
  induction leads with
  | refl => exact .refl _
  | tail _ step ih => exact ih.trans step.extends

/-- What every declaration keeps of the classes, a session keeps. -/
lemma Leads.keep {kept : ClassTable → Prop}
    (declare : ∀ {t t' : ClassTable} {env : Environment} {d : ClassDecl} {c : ClassId}, kept t →
      (t.declare env d).outcome = .ok (t', c) → kept t')
    {s s' : Session} (leads : s.Leads s') (start : kept s.classes) : kept s'.classes := by
  induction leads with
  | refl => exact start
  | tail _ step ih =>
    obtain ⟨env, d, c, declared⟩ | same := step.classes
    · exact declare ih declared
    · rw [same]
      exact ih

end Session

/-- The first class statement of a session that names the root for its base, and is not configured, makes a class with
the unit of its hints. -/
lemma Session.declare_first {env : Environment} {st : ClassStatement} {unit : UnitDecl} {compiled : Compiled}
    (bases : st.bases = [["JsonErrorEnum"]]) (config : st.config = .empty)
    (written : ClassDecl.checkHints st.hints = .ok ()) (named : ClassDecl.checkName st.name = .ok ())
    (read : (⟨st.name, [.root], st.hints, .empty⟩ : ClassDecl).unit? = .ok unit)
    (accepted : (unit.compile (Settings.ofEnvironment env).result).outcome = .ok compiled)
    (cases : (compiled.taxonomy.cases.forM fun c => ClassDecl.checkName c.name) = .ok ()) :
    ((Session.start env).declare st).outcome =
      .ok (⟨env, (ClassTable.empty.add st.name [.root] appAncestors compiled).1, .insert .empty st.name (.user 0),
        .empty, .bare⟩, .cls (.user 0)) := by
  obtain ⟨name, _, hints, _⟩ := st
  cases bases
  cases config
  have found : [["JsonErrorEnum"]].mapM (Session.start env).resolve = .ok [.cls .root] := by cbv
  have order : (⟨name, [.root], hints, .empty⟩ : ClassDecl).ancestors .empty = .ok appAncestors := by cbv
  have made : (ClassTable.empty.declare env ⟨name, [.root], hints, .empty⟩).outcome =
      .ok ((ClassTable.empty.add name [.root] appAncestors compiled).1, .user 0) :=
    ClassTable.declare_eq_ok_iff.2 ⟨rfl, named, _, order,
      .inl ⟨by decide, _, ClassTable.compile_eq_ok_iff.2 ⟨rfl, _, read, accepted, cases⟩, rfl⟩⟩
  refine Attempt.outcome_bind_eq_ok.2 ⟨_, found, Attempt.outcome_bind_eq_ok.2 ⟨(), ?_, ?_⟩⟩
  · rw [written]
    rfl
  · exact Attempt.outcome_bind_eq_ok.2 ⟨_, Attempt.mapError_eq_ok.2 made, rfl⟩

namespace Instance

/-- What the log says of the error: its unit, its case, and what it carries, as that stands in prose. -/
def remark (i : Instance) (t : ClassTable) : Except InspectFault String :=
  let text := s!"{(i.table t).typeName}::{i.caseName t}"
  if ((t.case? i.cls).map ErrorCase.naive).getD true then .ok text
  else i.content.print?.map fun carried => s!"{text} {carried}"

/-- What a conversion leaves in the log: a remark, or nothing. -/
def trace (i : Instance) (t : ClassTable) (told : Bool) : List Log.Record :=
  if told then [⟨.internalError, i.remark t⟩] else []

/-- The log says what the error says of itself just where what it carries stands in prose as inside a text. -/
lemma remark_eq_print_iff {i : Instance} {t : ClassTable} {e : ErrorCase} (reported : t.case? i.cls = some e) :
    i.remark t = i.print t ↔ e.naive = true ∨ i.content.print? = i.content.format? := by
  rw [remark, print, reported, Option.map_some, Option.getD_some]
  cases e.naive with
  | true => simp
  | false =>
    simp only [Bool.false_eq_true, if_false, false_or]
    have same {text a b : String} : s!"{text} {a}" = s!"{text} {b}" ↔ a = b := String.append_right_inj _
    cases i.content.print? <;> cases i.content.format? <;> simp [Except.map, same]

/-- Both conversions of an error of a case class leave the same in the log. The message is put together from the
rule of the case there, and from the class here. -/
lemma records_of_caseBelow {t : ClassTable} {i : Instance} {n owner : Nat} {e : ErrorCase} {compiled : Compiled}
    {logged : Bool} (cls : i.cls = .user n) (below : t.CaseBelow n owner e compiled)
    (table : compiled.table = .ofTaxonomy compiled.taxonomy logged)
    (distinct : (compiled.taxonomy.cases.map ErrorCase.name).Nodup) (member : e ∈ compiled.taxonomy.cases) :
    (i.convert t).records = i.trace t (e.isInternal && logged) ∧
      (i.respond t).records = i.trace t (e.isInternal && logged) := by
  obtain ⟨reported, answers, -⟩ := below.facts
  rw [← cls] at reported answers
  have trace : i.trace t (e.isInternal && logged) = (Rule.ofCase compiled.taxonomy logged e).records i.content := by
    have typeName : (i.table t).typeName = compiled.taxonomy.typeName := by
      rw [Instance.table, answers, Option.map_some, Option.getD_some, table]
      rfl
    have caseName : i.caseName t = e.name := by
      rw [Instance.caseName, reported]
      rfl
    have remark : i.remark t = (Rule.ofCase compiled.taxonomy logged e).describe i.content := by
      rw [Instance.remark, typeName, caseName, reported]
      rfl
    rw [Instance.trace, remark]
    obtain ⟨name, naive, attributes⟩ := e
    cases attributes <;> rfl
  have rule := ResponseTable.ruleFor_name logged distinct member
  constructor
  · rw [convert_eq reported answers, table, ResponseTable.convert_eq rule, trace]
    rfl
  · have respond : i.respond t = compiled.table.respond e.name i.content := by
      simp [Instance.respond, Instance.table, Instance.caseName, reported, answers]
    rw [respond, table, ResponseTable.records_respond_ofTaxonomy, ErrorCase.find?_name distinct member, trace]

end Instance

/-- What is logged of an error names it, once. Where a class statement declares a taxonomy, every case of the taxonomy
has a class of its own, which is the attribute of that name whatever the session does later, with its environment and
with its classes. The class makes an error of no argument if the case is naive, of exactly one otherwise, and of
nothing else. To say what an error is converted to, or to reply to it, leaves one record of an internal error, with the
unit, the case and the payload in prose, if the case is internal and the environment of the declaration had the log
switched on, and leaves no record otherwise. The record says just what the error says of itself, if it carries nothing
or something that is formatted as it is printed. -/
theorem logged_once {s s' : Session} {st : ClassStatement} {c : ClassId} {compiled : Compiled} {e : ErrorCase}
    (declared : (s.declare st).outcome = .ok (s', .cls c)) (taxonomy : s'.classes.ownCompiled? c = some compiled)
    (own : e ∈ compiled.taxonomy.cases) :
    ∃ k, ∀ s'' : Session, s'.Leads s'' →
      s''.classes.getAttribute c e.name = .ok (.cls k) ∧
      (∀ args i, (Subject.cls k).call s''.classes args = .ok i ↔
        i = ⟨k, args⟩ ∧ args.length = if e.naive then 0 else 1) ∧
      ∀ name i, s''.error name = .ok i → i.cls = k →
        let told := e.isInternal && (Settings.ofEnvironment s.env).result.logInternalErrors
        (s''.convert name).records = i.trace s''.classes told ∧
          (s''.respond name).records = i.trace s''.classes told ∧
          (i.remark s''.classes = i.print s''.classes ↔ e.naive = true ∨ i.content.print? = i.content.format?) := by
  obtain ⟨-, ⟨bases, c', success, same⟩ | ⟨-, classless⟩⟩ := Session.declare_eq_ok declared
  · cases same
    obtain ⟨table, distinct, owner, rfl, classes⟩ := ClassTable.declare_cases success taxonomy
    obtain ⟨shown, n, below⟩ := classes e own
    refine ⟨.user n, fun s'' leads => ?_⟩
    have below := below.mono leads.extends
    refine ⟨below.getAttribute shown, fun args i => below.call_iff, fun name i kept cls => ?_⟩
    have found : (Attempt.lift (s''.error name)).outcome = .ok i := kept
    obtain ⟨converted, replied⟩ := Instance.records_of_caseBelow cls below table distinct own
    refine ⟨?_, ?_, Instance.remark_eq_print_iff (cls ▸ below.facts.1)⟩
    · rw [Session.convert, Attempt.records_bind found]
      exact converted
    · rw [Session.respond, Attempt.records_bind found]
      exact replied
  · exact absurd rfl (classless c)

/-- A taxonomy with one internal case, which carries a payload. -/
def plantStatement : ClassStatement where
  name := "Plant"
  bases := [["JsonErrorEnum"]]
  hints := .ofList [("Leak", .annotated (.type .payload "str") [.note [.text "internal"] []])]
  config := .empty

/-- The case. -/
def leak : ErrorCase := ⟨"Leak", false, .internal⟩

/-- The session that has declared it. -/
def plantSession : Session where
  env := .empty
  classes := (ClassTable.empty.add "Plant" [.root] appAncestors (unconfigured "Plant" [leak])).1
  scope := .insert .empty "Plant" (.user 0)
  errors := .empty
  application := .bare

lemma plantStatement_declared :
    ((Session.start .empty).declare plantStatement).outcome = .ok (plantSession, .cls (.user 0)) := by
  have unit : (⟨"Plant", [.root], plantStatement.hints, .empty⟩ : ClassDecl).unit? =
      .ok ⟨"Plant", none, [⟨"Leak", false, some ⟨[.text "internal"], .empty⟩⟩], reservedNames⟩ := by rfl
  exact Session.declare_first rfl rfl (by cbv) rfl unit (by cbv) rfl

lemma leak_caseBelow : plantSession.classes.CaseBelow 1 0 leak (unconfigured "Plant" [leak]) :=
  @ClassTable.add_caseBelow .empty "Plant" [.root] appAncestors _ (by decide) (by decide) 0 leak rfl

/-- The log is switched off after the declaration. -/
def hushedSession : Session := plantSession.setVariables [(Settings.logInternalVariable, some "0")]

/-- An error that is made after that still tells the log what it carries. -/
theorem leak_logged : ∃ s'' : Session,
    hushedSession.construct "leak" ["Plant", "Leak"] [.text "3 bar"] = .ok (s'', ⟨.user 1, [.text "3 bar"]⟩) ∧
    (Settings.ofEnvironment s''.env).result.logInternalErrors = false ∧
    (s''.convert "leak").records = [⟨.internalError, .ok "Plant::Leak 3 bar"⟩] := by
  have below := leak_caseBelow
  have named := below.getAttribute rfl
  have hushed : plantSession.Leads hushedSession := .single (.environment _ _)
  obtain ⟨k, later⟩ := logged_once (e := leak) plantStatement_declared rfl List.mem_cons_self
  obtain ⟨found, call, -⟩ := later _ hushed
  cases named.symm.trans found
  have path : hushedSession.resolve ["Plant", "Leak"] = .ok (.cls (.user 1)) := by
    show ((Subject.cls (.user 0)).getAttributes hushedSession.classes ["Leak"]).mapError .lookup = _
    rw [Subject.getAttributes, List.foldlM_cons, Subject.getAttribute]
    exact congrArg _ (bind_eq_ok_iff.2 ⟨_, found, rfl⟩)
  have made := (call [.text "3 bar"] _).2 ⟨rfl, rfl⟩
  have constructed : hushedSession.construct "leak" ["Plant", "Leak"] [.text "3 bar"] =
      .ok ({ hushedSession with errors := .insert .empty "leak" ⟨.user 1, [.text "3 bar"]⟩ },
        ⟨.user 1, [.text "3 bar"]⟩) :=
    bind_eq_ok_iff.2 ⟨_, path, bind_eq_ok_iff.2 ⟨_, Attempt.mapError_eq_ok.2 made, rfl⟩⟩
  refine ⟨_, constructed, by rfl, ?_⟩
  obtain ⟨-, -, converted⟩ := later _ (hushed.tail (.construct constructed))
  rw [(converted "leak" _ rfl rfl).1]
  rfl

/-- An object that prints itself in one way and formats itself in another. -/
def gauge : OwnObject := ⟨"plant", "Gauge", "<gauge>", "3 bar", "three"⟩

/-- The session that has made an error of it. -/
def gaugedSession : Session := { plantSession with errors := .insert .empty "leak" ⟨.user 1, [.object gauge]⟩ }

/-- What is logged of an error that carries it is not what the error says of itself. -/
theorem gauge_logged_otherwise :
    plantSession.construct "leak" ["Plant", "Leak"] [.object gauge] =
      .ok (gaugedSession, ⟨.user 1, [.object gauge]⟩) ∧
    (gaugedSession.convert "leak").records = [⟨.internalError, .ok "Plant::Leak 3 bar"⟩] ∧
    (Instance.mk (.user 1) [.object gauge]).print gaugedSession.classes = .ok "Plant::Leak three" := by
  have path : plantSession.resolve ["Plant", "Leak"] = .ok (.cls (.user 1)) := by
    show ((Subject.cls (.user 0)).getAttributes plantSession.classes ["Leak"]).mapError .lookup = _
    rw [Subject.getAttributes, List.foldlM_cons, Subject.getAttribute]
    exact congrArg _ (bind_eq_ok_iff.2 ⟨_, leak_caseBelow.getAttribute rfl, rfl⟩)
  have made : (Subject.cls (.user 1)).call plantSession.classes [.object gauge] = .ok ⟨.user 1, [.object gauge]⟩ :=
    leak_caseBelow.call_iff.2 ⟨rfl, rfl⟩
  refine ⟨bind_eq_ok_iff.2 ⟨_, path, bind_eq_ok_iff.2 ⟨_, Attempt.mapError_eq_ok.2 made, rfl⟩⟩, ?_, rfl⟩
  have found : (Attempt.lift (gaugedSession.error "leak")).outcome = .ok ⟨.user 1, [.object gauge]⟩ := rfl
  rw [Session.convert, Attempt.records_bind found]
  exact (Instance.records_of_caseBelow rfl leak_caseBelow rfl (by decide) List.mem_cons_self).1

end Errata
