import Errata.Proofs.Steps
import Errata.Proofs.Target.Loading
import Errata.Target.Resolve
import Mathlib

/-!
# What resolving a target gives

A target is promised to give a taxonomy that was compiled itself and is bound to the name behind its last colon
(`Target.Names`), a fault of the target, or the diagnostics of a declaration that was rejected on the way. It gives
one of these (`Target.Foreseen`) unless it meets one of five circumstances, each of which gives something else
(`Target.Unforeseen`, `resolve_foreseen_iff`): a reference to a module that begins with a dot, one to a file that is
too long, a name that is bound to the class of a case, code that raises a fault of its own which is one neither of an
imported module nor of a text, and a class statement that fails in another way than by being rejected or by a hint that
is no expression. What the modules are made of, and which there are beside the files, is left open.
-/

namespace Errata

/-- The code of some module declares a class, which is rejected with these diagnostics. -/
def Surroundings.Rejects (s : Surroundings) (ds : List Diagnostic) : Prop :=
  ∃ statement scope caught next, s.Runs (.declare statement scope caught next) ∧ ∃ bases,
    (ClassDecl.compile ⟨statement.name, bases, statement.hints, statement.config⟩ s.env).outcome =
      .error (.unit (.rejected ds))

/-- The fault of a definition that is rejected. -/
def SessionFault.rejection (ds : List Diagnostic) : SessionFault := .declaration (.unit (.rejected ds))

/-! ## Rejected declarations -/

/-- What a path of names does not lead to is no rejection. -/
lemma Session.resolve_ne_rejection {s : Session} {path : List String} (ds : List Diagnostic) :
    s.resolve path ≠ .error (.rejection ds) := by
  intro failed
  obtain ⟨e, -, told⟩ := Attempt.mapError_eq_error.1 failed
  cases told

/-- A class statement is rejected when its own unit is. -/
lemma Session.compile_eq_error_of_declare {s : Session} {statement : ClassStatement} {ds : List Diagnostic}
    (failed : (s.declare statement).outcome = .error (.rejection ds)) :
    ∃ bases, (ClassDecl.compile ⟨statement.name, bases, statement.hints, statement.config⟩ s.env).outcome =
      .error (.unit (.rejected ds)) := by
  rw [Session.declare, Attempt.outcome_bind_eq_error] at failed
  obtain unbound | ⟨_, -, failed⟩ := failed
  · obtain ⟨_, path, _, -, -, unbound⟩ := exists_of_mapM_eq_error unbound
    exact absurd unbound (resolve_ne_rejection ds)
  rw [Attempt.outcome_bind_eq_error] at failed
  obtain hint | ⟨_, -, failed⟩ := failed
  · obtain ⟨f, -, told⟩ := Attempt.mapError_eq_error.1 hint
    cases told
  split at failed
  · cases failed
  split at failed
  · rw [Attempt.outcome_bind_eq_error] at failed
    obtain value | ⟨_, -, declared⟩ := failed
    · rw [Attempt.outcome_lift, declareValue] at value
      split at value
      · obtain ⟨f, -, told⟩ := Attempt.mapError_eq_error.1 value
        cases told
      · cases value
    · cases declared
  · rename_i bases _
    rw [Attempt.outcome_bind_eq_error] at failed
    obtain failed | ⟨_, -, declared⟩ := failed
    · obtain ⟨f, failed, told⟩ := Attempt.mapError_eq_error.1 failed
      cases told
      exact ⟨bases, ClassTable.compile_eq_error_of_declare failed⟩
    · cases declared

/-- A class statement that fails by being rejected declares a class that is. -/
lemma Surroundings.Fails.rejects {s : Surroundings} {ds : List Diagnostic} (fails : s.Fails (.rejection ds)) :
    s.Rejects ds := by
  obtain ⟨statement, scope, caught, next, there, l, -, failed⟩ := fails
  obtain ⟨bases, failed⟩ := Session.compile_eq_error_of_declare failed
  exact ⟨statement, scope, caught, next, there, bases, failed⟩

namespace Target

/-! ## The parts of a target -/

/-- A target is a reference and a name with a colon between them, the last of the target. -/
structure Splits (target ref name : String) : Prop where
  whole : target = ref ++ ":" ++ name
  last : ':' ∉ name.toList
  ref_ne : ref ≠ ""
  name_ne : name ≠ ""

/-- A text is divided at a colon behind which there is no other. -/
lemma split?_ofList {first last : List Char} (clean : ':' ∉ last) :
    split? (String.ofList (first ++ ':' :: last)) =
      if first.isEmpty || last.isEmpty then none else some (String.ofList first, String.ofList last) := by
  have behind : (first ++ ':' :: last).reverse.takeWhile (fun d => decide (d ≠ ':')) = last.reverse :=
    takeWhile_reverse_of_not_mem clean
  have before : (first ++ ':' :: last).length - last.length - 1 = first.length := by
    rw [List.length_append, List.length_cons]
    omega
  simp only [split?, String.toList_ofList, behind, List.reverse_reverse, before, List.take_left]
  rw [if_neg (by simp)]

/-- The parts of a target are those around its last colon. -/
lemma split?_eq_some_iff {target ref name : String} :
    split? target = some (ref, name) ↔ Splits target ref name := by
  constructor
  · intro split
    have colon : ':' ∈ target.toList.reverse := by
      by_contra absent
      rw [List.mem_reverse] at absent
      simp [split?, absent] at split
    -- The last colon is the first one from behind.
    obtain ⟨behind, before, reversed, clean⟩ := List.eq_append_cons_of_mem colon
    have whole : target = String.ofList (before.reverse ++ ':' :: behind.reverse) := by
      rw [← String.toList_inj, String.toList_ofList, ← List.reverse_inj, reversed]
      simp
    have last : ':' ∉ behind.reverse := by rwa [List.mem_reverse]
    rw [whole, split?_ofList last] at split
    split_ifs at split with empty
    cases split
    simp only [Bool.or_eq_true, List.isEmpty_iff, not_or] at empty
    refine ⟨?_, by rwa [String.toList_ofList], ?_, ?_⟩
    · rw [whole, ← String.toList_inj]
      simp
    · exact fun same => empty.1 (String.ofList_eq_empty_iff.1 same)
    · exact fun same => empty.2 (String.ofList_eq_empty_iff.1 same)
  · rintro ⟨rfl, last, ref_ne, name_ne⟩
    have whole : ref ++ ":" ++ name = String.ofList (ref.toList ++ ':' :: name.toList) := by
      rw [← String.toList_inj]
      simp
    rw [whole, split?_ofList last, if_neg]
    · rw [String.ofList_toList, String.ofList_toList]
    · rw [Bool.or_eq_true, List.isEmpty_iff, List.isEmpty_iff, String.toList_eq_nil_iff, String.toList_eq_nil_iff]
      exact not_or.2 ⟨ref_ne, name_ne⟩

/-! ## Loading the module -/

variable {s : Surroundings} {target ref name : String}

/-- Where a fault comes from that is met on the way to a module. -/
inductive Accounted (s : Surroundings) (ref : String) : TargetFault → Prop where
  | told {e : TargetFault} : e.isTold = true → Accounted s ref e
  | relative : isFileRef ref = false → ref.toList.head? = some '.' → Accounted s ref (.relative ref)
  | tooLong : isFileRef ref = true → s.files.isTooLong ref = true → Accounted s ref (.tooLong ref)
  | raised {type text : String} : s.Raises (.other type text) → Accounted s ref (.raised type text)
  | definition {e : SessionFault} : s.Fails e → Accounted s ref (.definition e)

/-- The failure of an import is accounted for when it is explained. -/
lemma accounted_of_explained {e : ImportFault} (explained : s.Explained e) : Accounted s ref (importFault ref e) := by
  have told {e : ImportFault} : Accounted s ref
      (if !isFileRef ref && (e.missing?.map fun m => isAround m ref) == some true then .moduleNotFound ref
        else .cannotImport ref e) := by
    refine .told ?_
    split <;> rfl
  cases e with
  | definition e =>
    dsimp only [importFault]
    split
    · exact .told rfl
    · exact .definition explained
  | raised r =>
    cases r with
    | other => exact .raised explained
    | importError => exact told
    | syntaxError => exact told
  | _ => exact told

/-- A file that a path leads to is one of the files. -/
lemma mem_of_find? {files : Files} {path : String} {place : List String} {body : FileBody}
    (found : files.find? path = some (place, body)) : (place, body) ∈ files.entries := by
  obtain ⟨place', -, found⟩ := Option.bind_eq_some_iff.1 found
  obtain ⟨body', there, same⟩ := Option.bind_eq_some_iff.1 found
  cases same
  exact Surroundings.mem_of_body? there

/-- What is told of an import is told of the module of a reference. -/
lemma gives_mapError {x : Attempt ImportFault (Loader × Module)}
    (given : (∀ run, x.outcome = .ok run → run.1.Formed) ∧ ∀ e, x.outcome = .error e → s.Explained e) :
    (∀ run, (x.mapError (importFault ref)).outcome = .ok run → run.1.Formed) ∧
      ∀ e, (x.mapError (importFault ref)).outcome = .error e → Accounted s ref e := by
  refine ⟨fun run success => given.1 run (Attempt.mapError_eq_ok.1 success), fun _ failed => ?_⟩
  obtain ⟨e, own, rfl⟩ := Attempt.mapError_eq_error.1 failed
  exact accounted_of_explained (given.2 e own)

/-- The module of a reference comes with classes that say how they came about, and what is met on the way to it is
accounted for. -/
lemma loadModule_gives (lawful : s.world.Lawful) (ref : String) :
    (∀ run, (s.loadModule ref).outcome = .ok run → run.1.Formed) ∧
      ∀ e, (s.loadModule ref).outcome = .error e → Accounted s ref e := by
  have fail {e : TargetFault} (accounted : Accounted s ref e) :
      (∀ run, (Attempt.lift (.error e) : Attempt TargetFault (Loader × Module)).outcome = .ok run → run.1.Formed) ∧
        ∀ e', (Attempt.lift (.error e) : Attempt TargetFault (Loader × Module)).outcome = .error e' →
          Accounted s ref e' :=
    ⟨nofun, fun _ same => Except.error.inj same ▸ accounted⟩
  rw [Surroundings.loadModule]
  split_ifs with file long dot
  · exact fail (.tooLong file long)
  · split
    · exact fail (.told rfl)
    · rename_i place body found
      exact gives_mapError (Surroundings.runFile_gives lawful (mem_of_find? found) _)
  · exact fail (.relative (by simpa using file) (by simpa using dot))
  · exact gives_mapError (Surroundings.importModule_gives lawful ref)

/-! ## The taxonomy of the module -/

/-- A module has a taxonomy under a name when it binds the name to a class below the root that answers with a
unit. -/
lemma taxonomy_eq_ok_iff {l : Loader} {m : Module} {r : Resolved} :
    taxonomy target ref name l m = .ok r ↔
      m.bindings.get? name = some (.subject (.cls r.taxonomy)) ∧ l.classes = r.classes ∧
        r.classes.isTaxonomyClass r.taxonomy = true ∧ r.taxonomy ≠ .root ∧
        r.classes.compiled? r.taxonomy = some r.compiled := by
  constructor
  · intro success
    rw [taxonomy] at success
    split at success
    · cases success
    · rename_i c bound
      split at success
      · rename_i compiled answers
        cases success
        split_ifs at answers with rooted
        rw [Bool.and_eq_true, decide_eq_true_iff] at rooted
        exact ⟨bound, rfl, rooted.1, rooted.2, answers⟩
      · cases success
    · cases success
    · cases success
  · obtain ⟨classes, c, compiled⟩ := r
    rintro ⟨bound, rfl, rooted, proper, answers⟩
    simp only at bound rooted proper answers
    rw [taxonomy, bound]
    simp [rooted, proper, answers]

/-- What is no taxonomy of the module is the fault of the target. -/
lemma isTold_of_taxonomy {l : Loader} {m : Module} {e : TargetFault}
    (failed : taxonomy target ref name l m = .error e) : e.isTold = true := by
  rw [taxonomy] at failed
  split at failed
  · cases failed
    rfl
  · split at failed
    · cases failed
    · cases failed
      rfl
  · cases failed
    rfl
  · cases failed
    split <;> rfl

/-! ## Outcomes -/

/-- A target names a class of a table: the module before the last colon has been loaded, with these classes, and
binds the class to the name behind the colon. -/
def Names (s : Surroundings) (target : String) (t : ClassTable) (c : ClassId) : Prop :=
  ∃ ref name l m, Splits target ref name ∧ (s.loadModule ref).outcome = .ok (l, m) ∧
    l.classes = t ∧ m.bindings.get? name = some (.subject (.cls c))

/-- The outcomes that are promised of a target. -/
inductive Foreseen (s : Surroundings) (target : String) : Except TargetFault Resolved → Prop where
  | taxonomy {r : Resolved} :
    Names s target r.classes r.taxonomy →
    r.classes.derives r.taxonomy .root = true → r.taxonomy ≠ .root →
    r.classes.ownCompiled? r.taxonomy = some r.compiled →
    Foreseen s target (.ok r)
  | told {e : TargetFault} : e.isTold = true → Foreseen s target (.error e)
  | rejected {ds : List Diagnostic} : s.Rejects ds → Foreseen s target (.error (.definition (.rejection ds)))

/-- The circumstances in which a target gives something else. -/
inductive Unforeseen (s : Surroundings) (target : String) : Prop where
  | relative {ref name : String} :
    Splits target ref name → isFileRef ref = false → ref.toList.head? = some '.' → Unforeseen s target
  | tooLong {ref name : String} :
    Splits target ref name → isFileRef ref = true → s.files.isTooLong ref = true → Unforeseen s target
  | caseClass {t : ClassTable} {c : ClassId} {compiled : Compiled} :
    Names s target t c → t.IsCaseClass c compiled → Unforeseen s target
  | raised {ref name type text : String} :
    Splits target ref name → (s.loadModule ref).outcome = .error (.raised type text) →
    s.Raises (.other type text) → Unforeseen s target
  | definition {ref name : String} {e : SessionFault} :
    Splits target ref name → (s.loadModule ref).outcome = .error (.definition e) →
    s.Fails e → (∀ ds, e ≠ .rejection ds) → Unforeseen s target

/-- What is met on the way to the module is what the target gives. -/
lemma outcome_of_failed {e : TargetFault} (splits : Splits target ref name)
    (failed : (s.loadModule ref).outcome = .error e) :
    (s.resolve target).outcome = .error e := by
  rw [Surroundings.resolve, split?_eq_some_iff.2 splits]
  exact Attempt.outcome_bind_eq_error.2 (.inl failed)

/-- What the module has under the name is what the target gives. -/
lemma outcome_of_loaded {l : Loader} {m : Module} (splits : Splits target ref name)
    (loaded : (s.loadModule ref).outcome = .ok (l, m)) :
    (s.resolve target).outcome = taxonomy target ref name l m := by
  rw [Surroundings.resolve, split?_eq_some_iff.2 splits]
  rw [Attempt.outcome_bind, loaded]
  rfl

/-- A reference to a module that begins with a dot is relative to nothing. -/
lemma loadModule_relative (file : isFileRef ref = false) (dot : ref.toList.head? = some '.') :
    (s.loadModule ref).outcome = .error (.relative ref) := by
  simp [Surroundings.loadModule, file, dot]

/-- No file has a path that is too long. -/
lemma loadModule_tooLong (file : isFileRef ref = true) (long : s.files.isTooLong ref = true) :
    (s.loadModule ref).outcome = .error (.tooLong ref) := by
  simp [Surroundings.loadModule, file, long]

/-- A target that names the class of a case gives that class. -/
lemma outcome_of_caseClass (lawful : s.world.Lawful) {t : ClassTable} {c : ClassId} {compiled : Compiled}
    (named : Names s target t c) (caseClass : t.IsCaseClass c compiled) :
    (s.resolve target).outcome = .ok ⟨t, c, compiled⟩ := by
  obtain ⟨ref, name, l, m, splits, loaded, rfl, bound⟩ := named
  obtain ⟨rooted, answers⟩ := caseClass.answers ((loadModule_gives lawful ref).1 _ loaded)
  have proper : c ≠ .root := by
    rintro rfl
    obtain ⟨e, -, own, -⟩ := caseClass
    cases own
  rw [outcome_of_loaded splits loaded, taxonomy_eq_ok_iff]
  exact ⟨bound, rfl, rooted, proper, answers⟩

/-- In none of the other circumstances is the outcome a promised one. -/
lemma not_foreseen_of_unforeseen (lawful : s.world.Lawful) (unforeseen : Unforeseen s target) :
    ¬Foreseen s target (s.resolve target).outcome := by
  intro foreseen
  cases unforeseen with
  | relative splits file dot =>
    rw [outcome_of_failed splits (loadModule_relative file dot)] at foreseen
    cases foreseen with
    | told told => cases told
  | tooLong splits file long =>
    rw [outcome_of_failed splits (loadModule_tooLong file long)] at foreseen
    cases foreseen with
    | told told => cases told
  | caseClass named caseClass =>
    rw [outcome_of_caseClass lawful named caseClass] at foreseen
    cases foreseen with
    | taxonomy _ _ _ own =>
      rw [caseClass.ownCompiled?] at own
      cases own
  | raised splits failed =>
    rw [outcome_of_failed splits failed] at foreseen
    cases foreseen with
    | told told => cases told
  | definition splits failed _ other =>
    rw [outcome_of_failed splits failed] at foreseen
    cases foreseen with
    | told told => cases told
    | rejected => exact other _ rfl

section

variable (lawful : s.world.Lawful) (splits : Splits target ref name) (ordinary : ¬Unforeseen s target)
include lawful splits ordinary

/-- What is met on the way to the module is promised in all other circumstances. -/
lemma foreseen_of_failed {e : TargetFault} (failed : (s.loadModule ref).outcome = .error e) :
    Foreseen s target (.error e) := by
  cases (loadModule_gives lawful ref).2 e failed with
  | told told => exact .told told
  | relative file dot => exact absurd (.relative splits file dot) ordinary
  | tooLong file long => exact absurd (.tooLong splits file long) ordinary
  | raised there => exact absurd (.raised splits failed there) ordinary
  | @definition e fails =>
    by_cases rejected : ∃ ds, e = .rejection ds
    · obtain ⟨ds, rfl⟩ := rejected
      exact .rejected fails.rejects
    · exact absurd (.definition splits failed fails (not_exists.1 rejected)) ordinary

/-- What the module has under the name is promised in all other circumstances. -/
lemma foreseen_of_loaded {l : Loader} {m : Module} (loaded : (s.loadModule ref).outcome = .ok (l, m)) :
    Foreseen s target (taxonomy target ref name l m) := by
  cases found : taxonomy target ref name l m with
  | error e => exact .told (isTold_of_taxonomy found)
  | ok r =>
    obtain ⟨bound, classes, rooted, proper, answers⟩ := taxonomy_eq_ok_iff.1 found
    have named : Names s target r.classes r.taxonomy := ⟨ref, name, l, m, splits, loaded, classes, bound⟩
    have formed : ∀ d ∈ l.classes.classes, l.classes.Formed d := (loadModule_gives lawful ref).1 _ loaded
    rw [classes] at formed
    obtain own | caseClass := ClassTable.compiled_or_case formed rooted proper answers
    · exact .taxonomy named rooted proper own
    · exact absurd (.caseClass named caseClass) ordinary

end

end Target

end Errata
