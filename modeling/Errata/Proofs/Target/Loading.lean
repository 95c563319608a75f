import Errata.Proofs.Class.Bodies
import Errata.Proofs.OrderedMap
import Errata.Proofs.Target.Running
import Errata.Target.Resolve
import Errata.Target.Standard

/-!
# What loading a module gives

Whatever is run on the way to a module, all classes say how they came about (`Loader.Formed`), and a failure has its
reason in the code of some module: a fault that the code raises itself, or a class statement that fails
(`Surroundings.Explained`). Both are kept by a single step, and so by every run (`Surroundings.formed_invariant`).
-/

namespace Errata

/-- All classes that are loaded say how they came about. -/
def Loader.Formed (l : Loader) : Prop := ∀ d ∈ l.classes.classes, l.classes.Formed d

/-- What is relied on of a world: the classes that are there from the start say how they came about, and the packages
around a module that is loaded from the start are loaded, too. -/
structure World.Lawful (w : World) : Prop where
  formed : ∀ d ∈ w.classes.classes, w.classes.Formed d
  closed : ∀ name, w.loaded.contains name = true → ∀ a ∈ Loader.ancestry name, w.loaded.contains a = true

namespace World

/-- The names of the modules that the standard world has loaded. -/
def standardNames : List String := InstalledModule.all.map InstalledModule.name ++ loadedNames

lemma contains_standard {name : String} : standard.loaded.contains name = true ↔ name ∈ standardNames := by
  have keys : (InstalledModule.all.map (fun m => (m.name, installed m)) ++
      loadedNames.map fun name => (name, foreign name)).map Prod.fst = standardNames := by
    rw [List.map_append, List.map_map, List.map_map, standardNames]
    exact congrArg _ (List.map_id _)
  rw [← keys, standard, OrderedMap.contains_ofList]

/-- The package around a part of the standard world is part of it. -/
lemma parent_mem_standardNames :
    ∀ name ∈ standardNames, '.' ∈ name.toList → (Loader.splitLast name).1 ∈ standardNames := by
  decide +kernel

/-- The classes of the demo say how they came about. -/
lemma formed_demo : ∀ d ∈ Demo.classes.1.classes, Demo.classes.1.Formed d := by
  have none : ∀ d ∈ ClassTable.empty.classes, ClassTable.empty.Formed d := fun d there => by cases there
  rw [Demo.classes]
  split
  · rename_i declared success
    exact ClassTable.declare_formed none success
  · exact none

/-- The standard world is one that can be relied on. -/
theorem standard_lawful : standard.Lawful where
  formed := formed_demo
  closed := by
    intro name loaded a around
    rw [contains_standard] at loaded ⊢
    induction name using Loader.dotted_induction with
    | part part single =>
      rw [Loader.ancestry_part single, List.mem_singleton] at around
      exact around ▸ loaded
    | inside parent part single ih =>
      have outer := parent_mem_standardNames _ loaded (by simp [Loader.toList_inside])
      rw [Loader.splitLast_inside single] at outer
      rw [Loader.ancestry_inside single, List.mem_append, List.mem_singleton] at around
      exact around.elim (ih outer) fun same => same ▸ loaded

end World

/-- A class statement keeps what is known of the classes, and the environment. -/
lemma Session.declare_formed {s s' : Session} {statement : ClassStatement} {subject : Subject}
    (formed : ∀ d ∈ s.classes.classes, s.classes.Formed d)
    (success : (s.declare statement).outcome = .ok (s', subject)) : ∀ d ∈ s'.classes.classes, s'.classes.Formed d := by
  obtain ⟨-, ⟨bases, c, declared, -⟩ | ⟨rfl, -⟩⟩ := Session.declare_eq_ok success
  · exact ClassTable.declare_formed formed declared
  · exact formed

namespace Surroundings

variable {s : Surroundings}

/-- The code of some module comes to raise a fault itself. -/
def Raises (s : Surroundings) (r : Raised) : Prop := ∃ caught, s.Runs (.raise r caught)

/-- The code of some module comes to a class statement, which fails. -/
def Fails (s : Surroundings) (e : SessionFault) : Prop :=
  ∃ statement scope caught next, s.Runs (.declare statement scope caught next) ∧
    ∃ l : Loader, l.Formed ∧
      (Session.declare { Session.start s.env with classes := l.classes, scope } statement).outcome = .error e

/-- Where a fault does not come from the import itself, it comes from what is run. -/
def Explained (s : Surroundings) : ImportFault → Prop
  | .definition e => s.Fails e
  | .raised r => s.Raises r
  | _ => True

/-- What is known of the classes and of the faults is kept by whatever is run, with whatever fuel. -/
lemma formed_invariant (s : Surroundings) : s.Invariant (fun _ l => l.Formed) s.Explained where
  more formed := formed
  change := by
    intro _ l formed c
    rw [Loader.Formed, Loader.classes_apply]
    exact formed
  declared := by
    rintro _ l scope statement ⟨session, subject⟩ formed success
    have start : ∀ d ∈ ({ Session.start s.env with classes := l.classes, scope } : Session).classes.classes,
        l.classes.Formed d := formed
    exact Session.declare_formed start success
  refused formed there failed := ⟨_, _, _, _, there, _, formed, failed⟩
  raised there := ⟨_, there⟩
  script _ _ := trivial
  enter formed _ _ := formed
  leave _ _ formed := formed
  missing := by
    intro _ l name e _ _ failed
    obtain rfl | rfl := fault_of_locate failed
    · trivial
    · trivial
  starved _ _ := trivial

lemma start_formed (lawful : s.world.Lawful) : s.start.Formed := lawful.formed

/-- A run that keeps what is known gives it as an attempt. -/
lemma attempt_eq_ok {r : Run} {l : Loader} : r.attempt.outcome = .ok l ↔ r.fault? = none ∧ r.loader = l := by
  obtain ⟨records, l', fault?⟩ := r
  cases fault? <;> simp [Run.attempt]

lemma attempt_eq_error {r : Run} {e : ImportFault} : r.attempt.outcome = .error e ↔ r.fault? = some e := by
  obtain ⟨records, l', fault?⟩ := r
  cases fault? <;> simp [Run.attempt]

/-- What an import gives is the module of the name, of what is loaded then. -/
lemma importModule_eq_ok {name : String} {l : Loader} {m : Module} :
    (s.importModule name).outcome = .ok (l, m) ↔
      (s.load s.start name).fault? = none ∧ (s.load s.start name).loader = l ∧ loadedModule l name = m := by
  rw [importModule, Attempt.outcome_bind_eq_ok]
  constructor
  · rintro ⟨l', loaded, same⟩
    obtain ⟨success, rfl⟩ := attempt_eq_ok.1 loaded
    cases same
    exact ⟨success, rfl, rfl⟩
  · rintro ⟨success, rfl, rfl⟩
    exact ⟨_, attempt_eq_ok.2 ⟨success, rfl⟩, rfl⟩

lemma importModule_eq_error {name : String} {e : ImportFault} :
    (s.importModule name).outcome = .error e ↔ (s.load s.start name).fault? = some e := by
  rw [importModule, Attempt.outcome_bind_eq_error, attempt_eq_error]
  constructor
  · rintro (failed | ⟨l, -, same⟩)
    · exact failed
    · cases same
  · exact .inl

/-- Importing a module gives classes that say how they came about, or an explained fault. -/
lemma importModule_gives (lawful : s.world.Lawful) (name : String) :
    (∀ run, (s.importModule name).outcome = .ok run → run.1.Formed) ∧
      ∀ e, (s.importModule name).outcome = .error e → s.Explained e := by
  have given := (load_brings s.formed_invariant (start_formed lawful) name).keeps
  refine ⟨?_, fun e failed => given.fault e (importModule_eq_error.1 failed)⟩
  rintro ⟨l, m⟩ success
  obtain ⟨-, rfl, -⟩ := importModule_eq_ok.1 success
  exact given.loader.1

/-- So does running a file by itself. -/
lemma runFile_gives (lawful : s.world.Lawful) {place : List String} {body : FileBody}
    (there : (place, body) ∈ s.files.entries) (name : String) :
    (∀ run, (s.runFile name place body).outcome = .ok run → run.1.Formed) ∧
      ∀ e, (s.runFile name place body).outcome = .error e → s.Explained e := by
  have inv := s.formed_invariant
  have entered : (s.start.enter name (.blank none true)).Formed := start_formed lawful
  have given := runCode_keeps inv (fun l name formed => load_brings inv formed name) entered
    (.file there : s.Sought name (.file place body false))
  rw [runFile]
  constructor
  · rintro ⟨l, m⟩ success
    obtain ⟨l', loaded, same⟩ := Attempt.outcome_bind_eq_ok.1 success
    obtain ⟨-, rfl⟩ := attempt_eq_ok.1 loaded
    cases same
    exact given.loader.1
  · intro e failed
    obtain failed | ⟨l, -, same⟩ := Attempt.outcome_bind_eq_error.1 failed
    · exact given.fault e (attempt_eq_error.1 failed)
    · cases same

end Surroundings

end Errata
