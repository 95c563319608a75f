import Errata.Proofs.Class.Documentation
import Errata.Proofs.Class.Hints
import Errata.Proofs.Class.Layout
import Errata.Proofs.Class.Logging
import Errata.Proofs.Docs.Access
import Errata.Proofs.Script.Members

/-!
# Attributes of taxonomies and of their errors

A taxonomy has the class of every case for an attribute, and its errors and its documentation have attributes of their
own. The names of the latter are reserved: whatever the root has by a public name, every class below it has as well
(`Guarded.findSome?_offered`), because no case hides it and no other ancestor has anything by that name. So no error
loses an attribute to a case, and no case is out of reach (`cases_beside_api`).
-/

namespace Errata

open Script (TypeEntry)

namespace ClassTable

variable {t : ClassTable} {name : String} {a : Subject}

/-- What the root has by public names, of its own or from its ancestors. -/
def rootOffers : List (String × Subject) := [
  ("add_note", .member "BaseException" "add_note" .method),
  ("args", .member "BaseException" "args" (.data "getset_descriptor" "tuple")),
  ("with_traceback", .member "BaseException" "with_traceback" .method),
  ("case_name", .other "property"), ("into_response", .function "into_response"),
  ("to_json_error", .function "to_json_error")]

/-- What the root has by public names has reserved names, and is no documentation. -/
lemma reserved_of_offered : ∀ name ∈ rootOffers.map Prod.fst, name ∈ reservedNames ∧ name ≠ catalogueAttribute ∧
    name ≠ compiledAttribute ∧ name ≠ caseAttribute ∧ name ≠ contentAttribute ∧ ClassDecl.isPrivate name = false := by
  decide

/-- The types that the root derives from have nothing else by public names. -/
lemma offered_of_type {type : String} (known : type = "object" ∨ type = "BaseException" ∨ type = "Exception")
    (shown : ClassDecl.isPrivate name = false) (own : t.ownAttribute? name (.builtin type) = some a) :
    (name, a) ∈ rootOffers := by
  obtain ⟨object, exception, failure, members⟩ := TypeEntry.failure_members
  change ((((TypeEntry.find? type).bind fun e => e.member? name).filter (·.ofType ≠ "")).map
    (.member type name)) = some a at own
  obtain ⟨m, kept, rfl⟩ := Option.map_eq_some_iff.1 own
  obtain ⟨e, found, held⟩ := Option.bind_eq_some_iff.1 (Option.filter_eq_some_iff.1 kept).1
  have listed : name ∈ e.memberNames.filter fun name => !ClassDecl.isPrivate name :=
    List.mem_filter.2 ⟨TypeEntry.mem_memberNames held, by simp [shown]⟩
  have names : TypeEntry.publicNames type = some (e.memberNames.filter fun name => !ClassDecl.isPrivate name) := by
    rw [TypeEntry.publicNames, found]
    rfl
  rcases known with rfl | rfl | rfl
  · rw [← Option.some.inj (object.symm.trans names)] at listed
    cases listed
  · rw [← Option.some.inj (failure.symm.trans names)] at listed
    simp only [found, Option.map_some, Option.some.injEq, Prod.mk.injEq] at members
    obtain ⟨traceback, note, args⟩ := members
    simp only [List.mem_cons, List.not_mem_nil, or_false] at listed
    rcases listed with rfl | rfl | rfl
    · obtain rfl : m = .method := Option.some.inj (held.symm.trans traceback)
      simp [rootOffers]
    · obtain rfl : m = .method := Option.some.inj (held.symm.trans note)
      simp [rootOffers]
    · obtain rfl : m = .data "getset_descriptor" "tuple" := Option.some.inj (held.symm.trans args)
      simp [rootOffers]
  · rw [← Option.some.inj (exception.symm.trans names)] at listed
    cases listed

/-- The root itself has nothing else by public names. -/
lemma offered_of_root (shown : ClassDecl.isPrivate name = false) (own : t.ownAttribute? name .root = some a) :
    (name, a) ∈ rootOffers := by
  have apart : name ≠ caseAttribute := by
    rintro rfl
    cases shown
  rw [ownAttribute?, if_neg apart] at own
  obtain ⟨type, found, rfl⟩ := Option.map_eq_some_iff.1 own
  have listed : (name, type) ∈ rootAttributes ++ rootSpecials := OrderedMap.mem_of_lookup found
  simp only [rootAttributes, rootSpecials, List.cons_append, List.nil_append, List.mem_cons, Prod.mk.injEq,
    List.not_mem_nil, or_false] at listed
  rcases listed with ⟨rfl, rfl⟩ | ⟨rfl, rfl⟩ | ⟨rfl, rfl⟩ | ⟨rfl, -⟩ | ⟨rfl, -⟩ | ⟨rfl, -⟩ | ⟨rfl, -⟩
  · simp [rootOffers]
  · simp [rootOffers]
  · simp [rootOffers]
  all_goals exact absurd shown (by decide)

/-- No class of the table has anything by these names. -/
lemma ownAttribute?_user (unshadowed : ∀ d ∈ t.classes, Unshadowed d) (offered : name ∈ rootOffers.map Prod.fst)
    (n : Nat) : t.ownAttribute? name (.user n) = none := by
  obtain ⟨reserved, catalogue, compiled, case, -⟩ := reserved_of_offered name offered
  rw [ownAttribute?, ownMember?_reserved unshadowed reserved]
  simp only [if_neg catalogue, if_neg compiled, if_neg case]

/-- No class that is no type of values has anything else by these names. -/
lemma offered_of_own (unshadowed : ∀ d ∈ t.classes, Unshadowed d) (offered : name ∈ rootOffers.map Prod.fst)
    {c : ClassId} (pure : ¬c.IsForeign) (own : t.ownAttribute? name c = some a) : (name, a) ∈ rootOffers := by
  obtain ⟨-, -, -, -, -, shown⟩ := reserved_of_offered name offered
  cases c with
  | object => exact offered_of_type (t := t) (.inl rfl) shown own
  | baseException => exact offered_of_type (t := t) (.inr (.inl rfl)) shown own
  | exception => exact offered_of_type (t := t) (.inr (.inr rfl)) shown own
  | root => exact offered_of_root shown own
  | user n =>
    rw [ownAttribute?_user unshadowed offered n] at own
    cases own
  | builtin type =>
    obtain ⟨same, -⟩ | known := ofType_cases type
    · exact absurd ⟨type, rfl, same⟩ pure
    · exact offered_of_type known shown own

/-- What the root has, it has of its own or from the class of all failures. -/
lemma own_of_offered (offered : (name, a) ∈ rootOffers) :
    t.ownAttribute? name .root = some a ∨ t.ownAttribute? name .baseException = some a := by
  obtain ⟨-, -, -, members⟩ := TypeEntry.failure_members
  obtain ⟨e, found, members⟩ := Option.map_eq_some_iff.1 members
  simp only [Prod.mk.injEq] at members
  obtain ⟨traceback, note, args⟩ := members
  have failing (name : String) : t.ownAttribute? name .baseException =
      ((e.member? name).filter (·.ofType ≠ "")).map (.member "BaseException" name) := by
    show (((TypeEntry.find? "BaseException").bind fun e => e.member? name).filter _).map _ = _
    rw [found, Option.bind_some]
    rfl
  simp only [rootOffers, List.mem_cons, Prod.mk.injEq, List.not_mem_nil, or_false] at offered
  rcases offered with ⟨rfl, rfl⟩ | ⟨rfl, rfl⟩ | ⟨rfl, rfl⟩ | ⟨rfl, rfl⟩ | ⟨rfl, rfl⟩ | ⟨rfl, rfl⟩
  · rw [failing, note]
    exact .inr rfl
  · rw [failing, args]
    exact .inr rfl
  · rw [failing, traceback]
    exact .inr rfl
  all_goals exact .inl rfl

/-! ## What every class has -/

/-- What is known of every table that a session comes to. -/
structure Guarded (t : ClassTable) : Prop where
  formed : ∀ d ∈ t.classes, t.Formed d
  unshadowed : ∀ d ∈ t.classes, Unshadowed d
  laid : ∀ d ∈ t.classes, Laid d.ancestors

lemma Guarded.empty : Guarded .empty where
  formed _ member := absurd member List.not_mem_nil
  unshadowed _ member := absurd member List.not_mem_nil
  laid _ member := absurd member List.not_mem_nil

lemma Guarded.declare {t' : ClassTable} {env : Environment} {d : ClassDecl} {c : ClassId} (guarded : t.Guarded)
    (success : (t.declare env d).outcome = .ok (t', c)) : t'.Guarded where
  formed := declare_formed guarded.formed success
  unshadowed := declare_unshadowed guarded.unshadowed success
  laid := declare_laid guarded.laid success

/-- A look-up finds what the only classes that have anything have. -/
lemma findSome?_eq_some_of_only {α β : Type} {f : α → Option β} {l : List α} {b : β}
    (only : ∀ x ∈ l, ∀ b', f x = some b' → b' = b) (some : ∃ x ∈ l, f x = .some b) : l.findSome? f = .some b := by
  obtain ⟨x, member, own⟩ := some
  have reached : (f x).isSome := by simp [own]
  obtain ⟨b', found⟩ := Option.isSome_iff_exists.1 (List.findSome?_isSome_iff.2 ⟨x, member, reached⟩)
  obtain ⟨y, there, own'⟩ := List.exists_of_findSome?_eq_some found
  rw [found, only y there b' own']

/-- What the root has by a public name is one thing. -/
lemma eq_of_offered {b : Subject} (offered : (name, a) ∈ rootOffers) (offered' : (name, b) ∈ rootOffers) : b = a := by
  have distinct : (rootOffers.map Prod.fst).Nodup := by decide
  have found := OrderedMap.lookup_of_mem distinct offered
  rw [OrderedMap.lookup_of_mem distinct offered'] at found
  exact Option.some.inj found

/-- Every class below the root has what the root has by public names. -/
lemma Guarded.findSome?_offered (guarded : t.Guarded) {c : ClassId} (rooted : t.isTaxonomyClass c = true)
    (offered : (name, a) ∈ rootOffers) : (t.order c).findSome? (t.ownAttribute? name) = some a := by
  have laid := laid_order guarded.laid c
  have root : .root ∈ t.order c := by simpa [isTaxonomyClass, derives] using rooted
  refine findSome?_eq_some_of_only (fun x member b own => ?_) ?_
  · exact eq_of_offered offered
      (offered_of_own guarded.unshadowed (List.mem_map_of_mem offered) (laid.pure root x member) own)
  · obtain own | own := own_of_offered (t := t) offered
    · exact ⟨.root, root, own⟩
    · exact ⟨.baseException, laid.failing root, own⟩

/-- What the root has by a public name is all of this, and nothing else. -/
lemma offered_of_findSome?_root (shown : ClassDecl.isPrivate name = false)
    (found : (t.order .root).findSome? (t.ownAttribute? name) = some a) : (name, a) ∈ rootOffers := by
  obtain ⟨c, member, own⟩ := List.exists_of_findSome?_eq_some found
  simp only [order, List.mem_cons, List.not_mem_nil, or_false] at member
  rcases member with rfl | rfl | rfl | rfl
  · exact offered_of_root shown own
  · exact offered_of_type (t := t) (.inr (.inr rfl)) shown own
  · exact offered_of_type (t := t) (.inr (.inl rfl)) shown own
  · exact offered_of_type (t := t) (.inl rfl) shown own

/-- What the first of its classes has is the attribute of a class, where the name is public. -/
lemma getAttribute_of_findSome? {c : ClassId} (shown : ClassDecl.isPrivate name = false)
    (found : (t.order c).findSome? (t.ownAttribute? name) = some a) : t.getAttribute c name = .ok a := by
  have concrete : name ≠ Script.abstractAttribute := by
    rintro rfl
    exact absurd shown (by decide)
  rw [getAttribute, if_neg concrete, selfDescription?_of_shown shown, found]
  rfl

end ClassTable

namespace Instance

/-- What every error has by public names, whatever its class declares. -/
def api (i : Instance) (t : ClassTable) (u : Compiled) : List (String × Subject) := [
  ("add_note", .other "builtin_function_or_method"), ("args", .row (i.args.map .value)),
  ("with_traceback", .other "builtin_function_or_method"), ("case_name", .text (i.caseName t)),
  ("into_response", .other "method"), ("to_json_error", .other "method"),
  (contentAttribute, .value i.content), (catalogueAttribute, .catalogue u.catalogue)]

/-- The reserved names are those that errors have by their classes and by themselves, and those of catalogues. -/
lemma mem_reservedNames_iff (i : Instance) (t : ClassTable) (u : Compiled) {name : String} :
    name ∈ reservedNames ↔ name ∈ (i.api t u).map Prod.fst ∨ name ∈ Docs.Catalogue.publicAttributes := by
  simp only [reservedNames, failureAttributes, rootAttributes, api, List.map_cons, List.map_nil, List.mem_append,
    List.mem_cons, List.not_mem_nil, or_false]
  tauto

variable {t : ClassTable} {i : Instance} {name : String} {a : Subject}

/-- Whatever an error says of itself has a private name. -/
lemma errorDescription?_of_shown (shown : ClassDecl.isPrivate name = false) :
    Subject.errorDescription? i name = none := by
  unfold Subject.errorDescription?
  split
  all_goals first | rfl | exact absurd shown (by decide)

/-- An error has what the first of its classes has, bound to it. -/
lemma getAttribute_of_findSome? (shown : ClassDecl.isPrivate name = false) (apart : name ≠ contentAttribute)
    (found : (t.order i.cls).findSome? (t.ownAttribute? name) = some a) :
    (Subject.error i).getAttribute t name = .ok (Subject.bound t i a) := by
  rw [Subject.getAttribute, Subject.errorAttribute, if_neg apart, errorDescription?_of_shown shown, found]
  rfl

/-- Every error of a class below the root has all of this. -/
lemma getAttribute_api (guarded : t.Guarded) (rooted : t.isTaxonomyClass i.cls = true) (proper : i.cls ≠ .root) :
    ∃ u, t.compiled? i.cls = some u ∧ ∀ p ∈ i.api t u, (Subject.error i).getAttribute t p.1 = .ok p.2 := by
  obtain ⟨u, answers, documented⟩ := ClassTable.findSome?_catalogue guarded.formed guarded.unshadowed rooted proper
  have inherited {name : String} {a : Subject} (offered : (name, a) ∈ ClassTable.rootOffers) :
      (Subject.error i).getAttribute t name = .ok (Subject.bound t i a) := by
    obtain ⟨-, -, -, -, apart, shown⟩ := ClassTable.reserved_of_offered name (List.mem_map_of_mem offered)
    exact getAttribute_of_findSome? shown apart (guarded.findSome?_offered rooted offered)
  refine ⟨u, answers, ?_⟩
  simp only [api, List.forall_mem_cons]
  refine ⟨?_, ?_, ?_, ?_, ?_, ?_, rfl, ?_, nofun⟩
  · exact inherited (a := .member "BaseException" "add_note" .method) (by simp [ClassTable.rootOffers])
  · exact inherited (a := .member "BaseException" "args" (.data "getset_descriptor" "tuple"))
      (by simp [ClassTable.rootOffers])
  · exact inherited (a := .member "BaseException" "with_traceback" .method) (by simp [ClassTable.rootOffers])
  · exact inherited (a := .other "property") (by simp [ClassTable.rootOffers])
  · exact inherited (a := .function "into_response") (by simp [ClassTable.rootOffers])
  · exact inherited (a := .function "to_json_error") (by simp [ClassTable.rootOffers])
  · exact getAttribute_of_findSome? (by decide) (by decide) documented

end Instance

namespace ClassTable

/-- The class has what the root has by public names, and its documentation, and its errors have what all errors have. -/
structure Offers (t : ClassTable) (c : ClassId) : Prop where
  inherited : ∀ name a, ClassDecl.isPrivate name = false →
    (t.order .root).findSome? (t.ownAttribute? name) = some a → t.getAttribute c name = .ok a
  documented : ∃ u, t.compiled? c = some u ∧ t.getAttribute c catalogueAttribute = .ok (.catalogue u.catalogue) ∧
    ∀ args, ∀ p ∈ (Instance.mk c args).api t u, (Subject.error ⟨c, args⟩).getAttribute t p.1 = .ok p.2

/-- A class has another for the attribute with the name of a case: the class that holds the case, directly below it. -/
structure Reaches (t : ClassTable) (c : ClassId) (e : ErrorCase) (k : ClassId) : Prop where
  named : t.getAttribute c e.name = .ok (.cls k)
  holds : t.ownCase? k = some (some e)
  below : t.bases k = [c]

variable {t t' : ClassTable} {c : ClassId}

/-- No class below the root lacks anything of this, other than the root itself. -/
lemma Guarded.offers (guarded : t.Guarded) (rooted : t.isTaxonomyClass c = true) (proper : c ≠ .root) : t.Offers c where
  inherited name a shown found :=
    getAttribute_of_findSome? shown (guarded.findSome?_offered rooted (offered_of_findSome?_root shown found))
  documented := by
    obtain ⟨u, answers, found⟩ := findSome?_catalogue guarded.formed guarded.unshadowed rooted proper
    refine ⟨u, answers, getAttribute_of_findSome? (by decide) found, fun args => ?_⟩
    obtain ⟨u', answers', kept⟩ := Instance.getAttribute_api (i := ⟨c, args⟩) guarded rooted proper
    cases answers.symm.trans answers'
    exact kept

/-- The class of a case is reached by the name of the case. -/
lemma CaseBelow.reaches {n owner : Nat} {e : ErrorCase} {compiled : Compiled} (guarded : t.Guarded)
    (below : t.CaseBelow n owner e compiled) (shown : ClassDecl.isPrivate e.name = false) :
    t.Reaches (.user owner) e (.user n) := by
  obtain ⟨d, rest, found, body, ancestors, -⟩ := below.here
  have self : t.find? (.user n) = some d := found
  refine ⟨below.getAttribute shown, by simp [ownCase?, self, body], ?_⟩
  cases guarded.formed d (List.mem_of_getElem? found) with
  | declared => cases body
  | plain => cases body
  | case =>
    cases ancestors
    simp [ClassTable.bases, found]

/-- A class that has compiled a unit answers with that unit. -/
lemma compiled?_of_own {compiled : Compiled} (own : t.ownCompiled? c = some compiled) : t.compiled? c = some compiled := by
  obtain ⟨n, d, _, rfl, found, -⟩ := ownCompiled?_eq_some own
  rw [compiled?, order_user found, List.findSome?_cons, own]

/-- A class that has compiled a unit is below the root. -/
lemma rooted_of_own {compiled : Compiled} (formed : ∀ d ∈ t.classes, t.Formed d)
    (own : t.ownCompiled? c = some compiled) : t.isTaxonomyClass c = true := by
  obtain ⟨n, d, _, rfl, found, body⟩ := ownCompiled?_eq_some own
  cases formed d (List.mem_of_getElem? found) with
  | declared rooted => simp [isTaxonomyClass, derives, order_user found, rooted]
  | case => cases body
  | plain => cases body

/-- A declared class that is below the root has compiled its unit. -/
lemma exists_compiled_of_declare {env : Environment} {d : ClassDecl} (success : (t.declare env d).outcome = .ok (t', c))
    (rooted : t'.isTaxonomyClass c = true) :
    ∃ compiled, (d.compile env).outcome = .ok compiled ∧ t'.ownCompiled? c = some compiled := by
  obtain ⟨-, -, ancestors, -, ⟨-, compiled, accepted, added⟩ | ⟨rootless, -, added⟩⟩ := declare_eq_ok_iff.1 success
  · cases added
    exact ⟨compiled, accepted, by simp [ownCompiled?, find?]⟩
  · cases added
    simp [isTaxonomyClass, derives, order, rootless] at rooted

/-- Every artifact of a unit that is compiled is within reach. -/
lemma accessible_of_compile {env : Environment} {d : ClassDecl} {compiled : Compiled}
    (success : (d.compile env).outcome = .ok compiled) : compiled.catalogue.Accessible := by
  have shown := shown_of_compile success
  have unreserved := unreserved_of_compile success
  obtain ⟨-, unit, -, accepted, -⟩ := compile_eq_ok_iff.1 success
  obtain ⟨-, rfl⟩ := UnitDecl.compile_eq_ok_iff.1 accepted
  refine Docs.Catalogue.accessible_ofTaxonomy shown fun e member taken => unreserved e member ?_
  simp only [reservedNames, List.mem_append]
  exact .inl (.inr taken)

end ClassTable

/-- The classes of a session are guarded. -/
lemma Session.guarded_of_leads {env : Environment} {s : Session} (past : (Session.start env).Leads s) :
    s.classes.Guarded :=
  past.keep ClassTable.Guarded.declare ClassTable.Guarded.empty

/-- A class statement that makes a class below the root compiles a unit with one case for every hint that is neither
private nor a class variable, in their order; the other hints make no difference at all. From then on the class has the
class of every case for the attribute of its name, and the catalogue of the unit for its documentation, in which every
name leads to the same artifact as an entry and as an attribute, and any other name is no attribute unless catalogues
have it of their own. No case takes the place of what errors, or their classes, have by public names: every class below
the root has what the root has, and every error has all of its own attributes. -/
theorem cases_beside_api {env : Environment} {s s' : Session} {st : ClassStatement} {c : ClassId}
    (past : (Session.start env).Leads s) (declared : (s.declare st).outcome = .ok (s', .cls c))
    (rooted : s'.classes.isTaxonomyClass c = true) :
    ∃ compiled, s'.classes.ownCompiled? c = some compiled ∧
      compiled.taxonomy.cases.map ErrorCase.name = (ClassDecl.caseHints st.hints).keys ∧
      s.declare st.onlyCases = s.declare st ∧
      compiled.catalogue.Accessible ∧
      ∀ s'' : Session, s'.Leads s'' →
        s''.classes.getAttribute c catalogueAttribute = .ok (.catalogue compiled.catalogue) ∧
        (∀ e ∈ compiled.taxonomy.cases, ∃ k, s''.classes.Reaches c e k) ∧
        ∀ k, s''.classes.isTaxonomyClass k = true → k ≠ .root → s''.classes.Offers k := by
  have written := Session.written_of_declare declared
  obtain ⟨-, ⟨bases, c', success, same⟩ | ⟨-, classless⟩⟩ := Session.declare_eq_ok declared
  · cases same
    obtain ⟨compiled, accepted, own⟩ := ClassTable.exists_compiled_of_declare success rooted
    obtain ⟨-, unit, read, -⟩ := ClassTable.compile_eq_ok_iff.1 accepted
    have spare : ClassDecl.Spare st.hints := ClassDecl.spare_of_unit? written read
    obtain ⟨-, -, owner, rfl, classes⟩ := ClassTable.declare_cases success own
    refine ⟨compiled, own, ClassDecl.names_of_compile spare accepted, s.declare_onlyCases spare,
      ClassTable.accessible_of_compile accepted, fun s'' later => ?_⟩
    have guarded := later.keep ClassTable.Guarded.declare ((Session.guarded_of_leads past).declare success)
    refine ⟨?_, fun e member => ?_, fun k below proper => guarded.offers below proper⟩
    · obtain ⟨new, same⟩ := later.extends
      have still : s''.classes.ownCompiled? (.user owner) = some compiled :=
        same ▸ ClassTable.ownCompiled?_append_of_some own new
      obtain ⟨u, answers, documented, -⟩ :=
        (guarded.offers (ClassTable.rooted_of_own guarded.formed still) nofun).documented
      cases answers.symm.trans (ClassTable.compiled?_of_own still)
      exact documented
    · obtain ⟨shown, n, below⟩ := classes e member
      exact ⟨.user n, (below.mono later.extends).reaches guarded shown⟩
  · exact absurd rfl (classless c)

/-- A taxonomy with a case that is shown to the client and one that is not, behind a private name and a class variable. -/
def meterStatement : ClassStatement where
  name := "Meter"
  bases := [["JsonErrorEnum"]]
  hints := .ofList [
    ("_unit", .type .payload "str"), ("limits", .classVariable (.type .payload "dict")),
    ("Absent", .annotated (.type .nothing "None") [
      .note [.text "request"] [("status", .int 404), ("code", .text "absent")]]),
    ("Leak", .annotated (.type .payload "str") [.note [.text "internal"] []])]
  config := .empty

/-- The case that is shown. -/
def absent : ErrorCase := ⟨"Absent", true, .request ⟨.number 404, .literal "absent", none, none⟩⟩

/-- The session that has declared it. -/
def meterSession : Session where
  env := .empty
  classes := (ClassTable.empty.add "Meter" [.root] appAncestors (unconfigured "Meter" [absent, leak])).1
  scope := .insert .empty "Meter" (.user 0)
  errors := .empty
  application := .bare

lemma meterStatement_declared :
    ((Session.start .empty).declare meterStatement).outcome = .ok (meterSession, .cls (.user 0)) := by
  have unit : (⟨"Meter", [.root], meterStatement.hints, .empty⟩ : ClassDecl).unit? =
      .ok ⟨"Meter", none, [
        ⟨"Absent", true, some ⟨[.text "request"], .ofList [("status", .int 404), ("code", .text "absent")]⟩⟩,
        ⟨"Leak", false, some ⟨[.text "internal"], .empty⟩⟩], reservedNames⟩ := by rfl
  exact Session.declare_first rfl rfl (by cbv) rfl unit (by cbv) rfl

/-- The two hints in front make no difference, both cases are reached, and an error of the second has its arguments. -/
theorem meter_reached :
    ((Session.start .empty).declare meterStatement.onlyCases).outcome = .ok (meterSession, .cls (.user 0)) ∧
    (ClassDecl.caseHints meterStatement.hints).keys = ["Absent", "Leak"] ∧
    (∃ k, meterSession.classes.Reaches (.user 0) absent k) ∧ (∃ k, meterSession.classes.Reaches (.user 0) leak k) ∧
    (Subject.error ⟨.user 2, [.text "oil"]⟩).getAttribute meterSession.classes "args" =
      .ok (.row [.value (.text "oil")]) := by
  obtain ⟨compiled, own, names, same, -, later⟩ := cases_beside_api .refl meterStatement_declared (by decide)
  obtain rfl : unconfigured "Meter" [absent, leak] = compiled := Option.some.inj own
  obtain ⟨-, reached, offered⟩ := later meterSession .refl
  obtain ⟨u, -, -, kept⟩ := (offered (.user 2) (by decide) (by decide)).documented
  refine ⟨?_, names.symm, reached absent List.mem_cons_self, reached leak (List.mem_cons_of_mem _ List.mem_cons_self), ?_⟩
  · rw [same]
    exact meterStatement_declared
  · exact kept [.text "oil"] ("args", _) (List.mem_cons_of_mem _ List.mem_cons_self)

end Errata
