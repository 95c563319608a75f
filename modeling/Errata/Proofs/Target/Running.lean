import Errata.Proofs.Target.Names

/-!
# What running modules keeps

Loading runs programs one inside the other: the code of a module may import others, which are run before it goes on.
What all that is run keeps, and why it fails, is shown once, for whatever holds of what is loaded and of the fuel at
hand (`Surroundings.Invariant`): it has to be kept by what is bound and declared, and by a module that begins or ceases
to count as loaded. There is one lemma for each thing that is run, under the assumption that the modules it imports are
loaded in this way; the assumption is discharged by induction on the fuel (`Surroundings.make_brings`).
-/

namespace Errata

namespace Run

variable {r : Run} {P P' : Loader → Prop} {Q : ImportFault → Prop}

/-- What is loaded after a run has one property, and the fault that has ended it another. -/
structure Gives (r : Run) (P : Loader → Prop) (Q : ImportFault → Prop) : Prop where
  loader : P r.loader
  fault : ∀ e, r.fault? = some e → Q e

lemma Gives.done {l : Loader} (holds : P l) : (done l).Gives P Q := ⟨holds, nofun⟩

lemma Gives.fail {l : Loader} {e : ImportFault} (holds : P l) (told : Q e) : (fail l e).Gives P Q :=
  ⟨holds, fun _ same => Option.some.inj same ▸ told⟩

lemma Gives.imp (given : r.Gives P Q) (weaker : ∀ l, P l → P' l) : r.Gives P' Q :=
  ⟨weaker _ given.loader, given.fault⟩

/-- What is run after something else starts from what that has loaded. -/
lemma Gives.andThen {next : Loader → Run} (first : r.Gives P Q) (weaker : ∀ l, P l → P' l)
    (second : P r.loader → r.fault? = none → (next r.loader).Gives P' Q) : (r.andThen next).Gives P' Q := by
  obtain ⟨records, l, fault?⟩ := r
  cases fault? with
  | none =>
    have given := second first.loader rfl
    exact ⟨given.loader, given.fault⟩
  | some e => exact first.imp weaker

/-- What is run after a fault starts from what was loaded by then. -/
lemma Gives.orElse {caught : ImportFault → Loader → Run} {next : Loader → Run} (first : r.Gives P Q)
    (rescue : ∀ e l, P l → Q e → (caught e l).Gives P' Q) (second : P r.loader → (next r.loader).Gives P' Q) :
    (r.orElse caught next).Gives P' Q := by
  obtain ⟨records, l, fault?⟩ := r
  cases fault? with
  | none =>
    have given := second first.loader
    exact ⟨given.loader, given.fault⟩
  | some e =>
    have given := rescue e l first.loader (first.fault e rfl)
    exact ⟨given.loader, given.fault⟩

lemma fault?_andThen {next : Loader → Run} (success : r.fault? = none) :
    (r.andThen next).fault? = (next r.loader).fault? := by
  rw [andThen, success]

lemma loader_andThen {next : Loader → Run} (success : r.fault? = none) :
    (r.andThen next).loader = (next r.loader).loader := by
  rw [andThen, success]

lemma andThen_of_fault {next : Loader → Run} {e : ImportFault} (failed : r.fault? = some e) : r.andThen next = r := by
  rw [andThen, failed]

end Run

namespace Loader

variable {l l' : Loader}

/-! ## What is loaded -/

/-- Where the parts of a loaded module are looked for, if it may have any. -/
def package? (l : Loader) (name : String) : Option (Option Portions) := (l.modules.get? name).map Module.package

lemma has_iff {name : String} : l.has name = true ↔ (l.package? name).isSome = true := by
  rw [has, OrderedMap.contains, package?, Option.isSome_map, OrderedMap.get?, Option.isSome_map, List.find?_isSome]
  simp

lemma package?_modify {f : Module → Module} (same : ∀ m, (f m).package = m.package) (l : Loader) (name other : String) :
    (l.modify name f).package? other = l.package? other := by
  rw [modify]
  split
  · rename_i m found
    by_cases own : other = name
    · simp [package?, own, found, same]
    · simp [package?, own]
  · rfl

/-- No change is one of a package. -/
@[simp] lemma package?_apply (l : Loader) (c : Change) (other : String) :
    (l.apply c).package? other = l.package? other := by
  cases c with
  | bind =>
    rw [apply, package?_modify]
    exact fun _ => rfl
  | unbind =>
    rw [apply, package?_modify]
    exact fun _ => rfl
  | unclose =>
    rw [apply, package?_modify]
    exact fun _ => rfl
  | bindInClass => rfl

@[simp] lemma package?_bindInParent (l : Loader) (name other : String) :
    (l.bindInParent name).package? other = l.package? other := by
  dsimp only [bindInParent]
  split
  · exact package?_apply ..
  · rfl

@[simp] lemma package?_enter (l : Loader) (name other : String) (m : Module) :
    (l.enter name m).package? other = if other = name then some m.package else l.package? other := by
  by_cases same : other = name <;> simp [package?, enter, same]

@[simp] lemma package?_leave (l : Loader) (name other : String) :
    (l.leave name).package? other = if other = name then none else l.package? other := by
  by_cases same : other = name <;> simp [package?, leave, same]

lemma classes_modify (l : Loader) (name : String) (f : Module → Module) : (l.modify name f).classes = l.classes := by
  rw [modify]
  split <;> rfl

@[simp] lemma classes_apply (l : Loader) (c : Change) : (l.apply c).classes = l.classes := by
  cases c with
  | bindInClass => rfl
  | _ => exact classes_modify ..

@[simp] lemma classes_bindInParent (l : Loader) (name : String) : (l.bindInParent name).classes = l.classes := by
  dsimp only [bindInParent]
  split
  · exact classes_apply ..
  · rfl

lemma package_ofFound (found : Found) : (Module.ofFound found).package = found.package := by
  cases found <;> rfl

/-- Everything that is loaded in one is loaded in the other. -/
def Within (l l' : Loader) : Prop := ∀ name, l.has name = true → l'.has name = true

lemma Within.refl (l : Loader) : l.Within l := fun _ has => has

lemma Within.trans {l'' : Loader} (first : l.Within l') (second : l'.Within l'') : l.Within l'' :=
  fun name has => second name (first name has)

lemma within_of_package? (same : ∀ name, l'.package? name = l.package? name) : l.Within l' := by
  intro name has
  rw [has_iff, same, ← has_iff]
  exact has

lemma within_apply (l : Loader) (c : Change) : l.Within (l.apply c) :=
  within_of_package? fun other => package?_apply l c other

lemma within_bindInParent (l : Loader) (name : String) : l.Within (l.bindInParent name) :=
  within_of_package? fun other => package?_bindInParent l name other

lemma has_enter (l : Loader) (name : String) (m : Module) : (l.enter name m).has name = true := by
  simp [has_iff]

lemma within_enter (l : Loader) (name : String) (m : Module) : l.Within (l.enter name m) := by
  intro other has
  rw [has_iff] at has ⊢
  rw [package?_enter]
  split
  · rfl
  · exact has

/-- Where a module was not loaded before, it can be left again. -/
lemma Within.leave {name : String} (within : l.Within l') (unloaded : l.has name = false) :
    l.Within (l'.leave name) := by
  intro other has
  have others : other ≠ name := by
    rintro rfl
    rw [unloaded] at has
    cases has
  rw [has_iff, package?_leave, if_neg others, ← has_iff]
  exact within other has

/-- A module is not loaded, but the package around it is. -/
structure Awaits (l : Loader) (name : String) : Prop where
  unloaded : l.has name = false
  package : ∀ parent part, IsPart part → name = inside parent part → l.has parent = true

end Loader

namespace Surroundings

variable {s : Surroundings}

/-! ## What is looked for -/

/-- What is found outside the files is one of the modules there. -/
inductive Code (s : Surroundings) (module : String) : Program → Prop where
  | source {place : List String} {text : String} {program : Program} :
    (place, .source text) ∈ s.files.entries → s.world.read module text.toList = .ok program → Code s module program
  | definitions {place : List String} {ds : List Definition} :
    (place, .definitions ds) ∈ s.files.entries → Code s module (.ofDefinitions module .empty ds)
  | early {isPackage : Bool} {program : Program} :
    s.world.early.get? module = some (.code isPackage program) → Code s module program
  | late {isPackage : Bool} {program : Program} :
    s.world.late.get? module = some (.code isPackage program) → Code s module program

/-- A program is the code of a module, or what is left of it after some steps. -/
inductive Runs (s : Surroundings) : Program → Prop where
  | code {module : String} {program : Program} : s.Code module program → Runs s program
  | look {next : Loader → Program} (l : Loader) : Runs s (.look next) → Runs s (next l)
  | log {record : Log.Record} {next : Program} : Runs s (.log record next) → Runs s next
  | change {c : Change} {next : Program} : Runs s (.change c next) → Runs s next
  | loaded {name : String} {caught : ImportFault → Program} {next : Program} :
    Runs s (.load name caught next) → Runs s next
  | unloaded {name : String} {caught : ImportFault → Program} {next : Program} (e : ImportFault) :
    Runs s (.load name caught next) → Runs s (caught e)
  | declared {statement : ClassStatement} {scope : Scope} {caught : ImportFault → Program}
    {next : Scope → Subject → Program} (scope' : Scope) (subject : Subject) :
    Runs s (.declare statement scope caught next) → Runs s (next scope' subject)
  | refused {statement : ClassStatement} {scope : Scope} {caught : ImportFault → Program}
    {next : Scope → Subject → Program} (e : SessionFault) :
    Runs s (.declare statement scope caught next) → Runs s (caught (.definition e))
  | raised {r : Raised} {caught : Program} : Runs s (.raise r caught) → Runs s caught
  | settled {next : Program} : Runs s (.settle next) → Runs s next

/-- Where something comes from that is found for a module. -/
inductive Sought (s : Surroundings) (module : String) : Found → Prop where
  | file {place : List String} {body : FileBody} {isPackage : Bool} :
    (place, body) ∈ s.files.entries → Sought s module (.file place body isPackage)
  | early {o : Outside} : s.world.early.get? module = some o → Sought s module o.found
  | late {o : Outside} : s.world.late.get? module = some o → Sought s module o.found
  | directory {portions : Portions} : Sought s module (.directory portions)

/-- What is made of something that is found is done nothing for, or by its own code. -/
lemma Sought.code {module : String} {found : Found} (sought : s.Sought module found) {program : Program}
    (code : s.code module found = .ok program) : program = .done ∨ s.Code module program := by
  cases sought with
  | @file place body isPackage there =>
    cases body with
    | definitions ds =>
      cases code
      exact .inr (.definitions there)
    | source text => exact .inr (.source there (Attempt.mapError_eq_ok.1 code))
  | @early o there =>
    cases o with
    | directory =>
      cases code
      exact .inl rfl
    | code =>
      cases code
      exact .inr (.early there)
  | @late o there =>
    cases o with
    | directory =>
      cases code
      exact .inl rfl
    | code =>
      cases code
      exact .inr (.late there)
  | directory =>
    cases code
    exact .inl rfl

lemma mem_of_body? {files : Files} {place : List String} {body : FileBody} (found : files.body? place = some body) :
    (place, body) ∈ files.entries := by
  obtain ⟨before, after, entries, -⟩ := List.lookup_eq_some_iff.1 found
  rw [entries]
  exact List.mem_append_right _ List.mem_cons_self

/-- What is found among the files is one of them, or a directory. -/
lemma sought_of_files {module part : String} {place : List String} {found : Found}
    (there : s.files.search place part = some found) : s.Sought module found := by
  dsimp only [Files.search] at there
  split at there
  · cases there
  split at there
  · rename_i init
    cases there
    exact .file (mem_of_body? init)
  split at there
  · rename_i file
    cases there
    exact .file (mem_of_body? file)
  split at there
  · cases there
    exact .directory
  · cases there

/-- Of two things that are found, one is taken, or both are directories. -/
lemma either_cases {first second : Option Found} {found : Found} (taken : Found.either first second = some found) :
    first = some found ∨ second = some found ∨ ∃ portions, found = .directory portions := by
  unfold Found.either at taken
  split at taken
  · cases taken
    exact .inr (.inr ⟨_, rfl⟩)
  · cases taken
    exact .inr (.inl rfl)
  · exact .inl taken
  · exact .inr (.inl taken)

lemma isSome_of_either {first second : Option Found} {found : Found} (taken : Found.either first second = some found) :
    first.isSome = true ∨ second.isSome = true := by
  cases first with
  | some _ => exact .inl rfl
  | none =>
    cases second with
    | some _ => exact .inr rfl
    | none => cases taken

lemma sought_of_search {module : String} {portions : Portions} {found : Found}
    (there : s.search portions module = some found) : s.Sought module found := by
  rw [search] at there
  split at there
  · rename_i o early
    cases there
    exact .early early
  obtain among | behind | ⟨portions, rfl⟩ := either_cases there
  · split_ifs at among
    exact sought_of_files among
  · split_ifs at behind
    obtain ⟨o, late, rfl⟩ := Option.map_eq_some_iff.1 behind
    exact .late late
  · exact .directory

lemma sought_of_locate {l : Loader} {module : String} {found : Found} (there : s.locate l module = .ok found) :
    s.Sought module found := by
  rw [locate] at there
  unfold find at there
  split at there
  · cases there
  split at there
  · rename_i sought
    cases there
    exact sought_of_search sought
  · cases there

/-- Where nothing is found, it is the name that is missing. -/
lemma fault_of_locate {l : Loader} {name : String} {e : ImportFault} (failed : s.locate l name = .error e) :
    e = .notFound name ∨ e = .notPackage name (Loader.splitLast name).1 := by
  rw [locate] at failed
  unfold find at failed
  split at failed
  · cases failed
    exact .inr rfl
  split at failed
  · cases failed
  · cases failed
    exact .inl rfl

lemma missing_of_locate {l : Loader} {name : String} {e : ImportFault} (failed : s.locate l name = .error e) :
    e.missing? = some name := by
  obtain rfl | rfl := fault_of_locate failed
  · rfl
  · rfl

/-! ## What is kept -/

/-- What holds of what is loaded and of the fuel at hand is kept by whatever is run, and every fault has a
property. -/
structure Invariant (s : Surroundings) (I : Nat → Loader → Prop) (Q : ImportFault → Prop) : Prop where
  more {n : Nat} {l : Loader} : I n l → I (n + 1) l
  change {n : Nat} {l : Loader} : I n l → ∀ c, I n (l.apply c)
  declared {n : Nat} {l : Loader} {scope : Scope} {statement : ClassStatement} {made : Session × Subject} :
    I n l → (Session.declare { Session.start s.env with classes := l.classes, scope } statement).outcome = .ok made →
    I n { l with classes := made.1.classes }
  refused {n : Nat} {l : Loader} {scope : Scope} {statement : ClassStatement} {caught : ImportFault → Program}
    {next : Scope → Subject → Program} {e : SessionFault} :
    I n l → s.Runs (.declare statement scope caught next) →
    (Session.declare { Session.start s.env with classes := l.classes, scope } statement).outcome = .error e →
    Q (.definition e)
  raised {r : Raised} {caught : Program} : s.Runs (.raise r caught) → Q (.raised r)
  script (file : String) (f : Script.Fault) : Q (.script file f)
  enter {n : Nat} {l : Loader} {name : String} {found : Found} :
    I (n + 1) l → l.Awaits name → s.locate l name = .ok found → I n (l.enter name (.ofFound found))
  leave {n : Nat} {l l' : Loader} {name : String} :
    I (n + 1) l → l.has name = false → I n l' → I (n + 1) (l'.leave name)
  missing {n : Nat} {l : Loader} {name : String} {e : ImportFault} :
    I n l → l.Awaits name → s.locate l name = .error e → Q e
  starved {l : Loader} {name : String} : I 0 l → l.Awaits name → Q (.notFound name)

/-- A run keeps what holds and what is loaded. -/
abbrev Keeps (I : Nat → Loader → Prop) (Q : ImportFault → Prop) (n : Nat) (l : Loader) (r : Run) : Prop :=
  r.Gives (fun l' => I n l' ∧ l.Within l') Q

/-- A run that loads a module keeps what holds and what is loaded, and if no fault ends it the module is loaded. -/
structure Brings (I : Nat → Loader → Prop) (Q : ImportFault → Prop) (n : Nat) (l : Loader) (name : String) (r : Run) :
    Prop where
  keeps : Keeps I Q n l r
  loaded : r.fault? = none → r.loader.has name = true

section

variable {I : Nat → Loader → Prop} {Q : ImportFault → Prop} {n : Nat} {l : Loader}

section

variable {make : Loader → String → Run}
    (makes : ∀ l name, I n l → l.Awaits name → Brings I Q n l name (make l name))

include makes

/-- A module is made where it is not loaded and the package around it is. -/
lemma ensure_brings {name : String} (holds : I n l)
    (around : ∀ parent part, Loader.IsPart part → name = Loader.inside parent part → l.has parent = true) :
    Brings I Q n l name (Loader.ensure make name l) := by
  rw [Loader.ensure]
  split
  · rename_i has
    exact ⟨.done ⟨holds, .refl l⟩, fun _ => has⟩
  · rename_i unloaded
    exact makes l name holds ⟨Bool.eq_false_iff.2 unloaded, around⟩

/-- So it is behind a run that loads the package around it. -/
lemma Keeps.ensure {r : Run} {name : String} (first : Keeps I Q n l r)
    (around : r.fault? = none → ∀ parent part, Loader.IsPart part → name = Loader.inside parent part →
      r.loader.has parent = true) :
    Brings I Q n l name (r.andThen (Loader.ensure make name)) := by
  constructor
  · refine Run.Gives.andThen first (fun _ kept => kept) fun kept success => ?_
    have given := ensure_brings makes kept.1 (around success)
    exact given.keeps.imp fun l' kept' => ⟨kept'.1, kept.2.trans kept'.2⟩
  · intro success
    cases failed : r.fault? with
    | some e =>
      rw [Run.andThen_of_fault failed, failed] at success
      cases success
    | none =>
      rw [Run.fault?_andThen failed] at success
      rw [Run.loader_andThen failed]
      exact (ensure_brings makes first.loader.1 (around failed)).loaded success

/-- The packages around a module are loaded before it. -/
lemma loadBy_brings (holds : I n l) (name : String) :
    Brings I Q n l name (Loader.loadBy make l (Loader.ancestry name).reverse) := by
  -- The last part is loaded behind the package that it stands in.
  induction name using Loader.dotted_induction with
  | part part single =>
    rw [Loader.ancestry_part single, List.reverse_singleton, Loader.loadBy]
    split
    · rename_i has
      exact ⟨.done ⟨holds, .refl l⟩, fun _ => has⟩
    · rw [Loader.loadBy]
      refine Keeps.ensure makes (.done ⟨holds, .refl l⟩) fun _ parent part' _ same => ?_
      subst same
      exact absurd single (Loader.not_isPart_inside _ _)
  | inside parent part single ih =>
    rw [Loader.ancestry_inside single, List.reverse_append, List.reverse_singleton, List.singleton_append,
      Loader.loadBy]
    split
    · rename_i has
      exact ⟨.done ⟨holds, .refl l⟩, fun _ => has⟩
    · refine Keeps.ensure makes ih.keeps fun success parent' part' single' same => ?_
      obtain ⟨rfl, rfl⟩ := Loader.inside_inj single single' same
      exact ih.loaded success

end

variable (inv : s.Invariant I Q)
include inv

lemma Invariant.bindInParent (holds : I n l) (name : String) : I n (l.bindInParent name) := by
  dsimp only [Loader.bindInParent]
  split
  · exact inv.change holds _
  · exact holds

/-- A program keeps what holds, if the modules that it imports do, and the faults that are handled have the
property. -/
lemma run_keeps {load : Loader → String → Run} (loads : ∀ l name, I n l → Brings I Q n l name (load l name))
    (program : Program) (there : s.Runs program) {es : List ImportFault} (told : ∀ e ∈ es, Q e) (holds : I n l) :
    Keeps I Q n l (program.run s.env load es l) := by
  have after {l l' : Loader} {r : Run} (within : l.Within l') (kept : Keeps I Q n l' r) : Keeps I Q n l r :=
    kept.imp fun l'' kept => ⟨kept.1, within.trans kept.2⟩
  induction program generalizing es l with
  | done =>
    rw [Program.run]
    exact .done ⟨holds, .refl l⟩
  | look next ih =>
    rw [Program.run]
    exact ih l (.look l there) told holds
  | log record next ih =>
    rw [Program.run]
    exact Run.Gives.andThen ⟨⟨holds, .refl l⟩, nofun⟩ (fun _ kept => kept) fun _ _ => ih (.log there) told holds
  | change c next ih =>
    rw [Program.run]
    exact after (Loader.within_apply l c) (ih (.change there) told (inv.change holds c))
  | load name caught next rescue ih =>
    rw [Program.run]
    -- A fault is handled with whatever the import has loaded by then.
    refine (loads l name holds).keeps.orElse ?_ ?_
    · intro e l' kept own
      exact after kept.2 (rescue e (.unloaded e there) (List.forall_mem_cons.2 ⟨own, told⟩) kept.1)
    · intro kept
      exact after kept.2 (ih (.loaded there) told kept.1)
  | declare statement scope caught next rescue ih =>
    rw [Program.run]
    dsimp only
    split
    · rename_i session subject success
      have kept := inv.declared holds success
      have within : l.Within { l with classes := session.classes } := fun _ has => has
      exact Run.Gives.andThen (P := fun l' => I n l' ∧ l.Within l') ⟨⟨kept, within⟩, nofun⟩ (fun _ kept => kept)
        fun _ _ => after within (ih _ _ (.declared _ _ there) told kept)
    · rename_i e failed
      have own : Q (.definition e) := inv.refused holds there failed
      exact Run.Gives.andThen (P := fun l' => I n l' ∧ l.Within l') ⟨⟨holds, .refl l⟩, nofun⟩ (fun _ kept => kept)
        fun _ _ => rescue _ (.refused e there) (List.forall_mem_cons.2 ⟨own, told⟩) holds
  | raise r caught ih =>
    rw [Program.run]
    exact ih (.raised there) (List.forall_mem_cons.2 ⟨inv.raised there, told⟩) holds
  | settle next ih =>
    rw [Program.run]
    exact ih (.settled there) (fun e member => told e (List.mem_of_mem_tail member)) holds
  | fail =>
    cases es with
    | nil => exact .done ⟨holds, .refl l⟩
    | cons e es => exact .fail ⟨holds, .refl l⟩ (told e List.mem_cons_self)

/-- What a module is made of keeps what holds. -/
lemma runCode_keeps {load : Loader → String → Run} (loads : ∀ l name, I n l → Brings I Q n l name (load l name))
    (holds : I n l) {name : String} {found : Found} (sought : s.Sought name found) :
    Keeps I Q n l (s.runCode load l name found) := by
  rw [runCode]
  split
  · rename_i program code
    obtain rfl | code := sought.code code
    · rw [Program.run]
      exact .done ⟨holds, .refl l⟩
    · exact run_keeps inv loads program (.code code) nofun holds
  · rename_i e failed
    refine .fail ⟨holds, .refl l⟩ ?_
    -- Only a text can have no code.
    cases found with
    | file place body isPackage =>
      cases body with
      | definitions ds => cases failed
      | source text =>
        obtain ⟨f, -, rfl⟩ := Attempt.mapError_eq_error.1 failed
        exact inv.script _ _
    | outside => cases failed
    | directory => cases failed

/-- A module that is made keeps what holds, whatever fuel there is. -/
lemma make_brings (holds : I n l) {name : String} (awaits : l.Awaits name) :
    Brings I Q n l name (s.make n l name) := by
  induction n generalizing l name with
  | zero =>
    rw [make]
    exact ⟨.fail ⟨holds, .refl l⟩ (inv.starved holds awaits), nofun⟩
  | succ n ih =>
    rw [make]
    split
    · rename_i e failed
      exact ⟨.fail ⟨holds, .refl l⟩ (inv.missing holds awaits failed), nofun⟩
    · rename_i found located
      dsimp only
      have loads (l : Loader) (name : String) (holds : I n l) :=
        loadBy_brings (fun l name holds awaits => ih holds awaits) holds name
      have given := runCode_keeps inv loads (inv.enter holds awaits located) (sought_of_locate located)
      obtain ⟨⟨kept, within⟩, told⟩ := given
      have whole := (Loader.within_enter l name (.ofFound found)).trans within
      refine ⟨⟨?_, told⟩, fun success => ?_⟩
      · split
        · exact ⟨inv.leave holds awaits.unloaded kept, whole.leave awaits.unloaded⟩
        · exact ⟨inv.more (inv.bindInParent kept name), whole.trans (Loader.within_bindInParent _ name)⟩
      · dsimp only at success ⊢
        rw [success, if_neg (by decide)]
        exact Loader.within_bindInParent _ name name (within name (Loader.has_enter ..))

/-- Loading a module keeps what holds. -/
lemma load_brings (holds : I s.fuel l) (name : String) : Brings I Q s.fuel l name (s.load l name) :=
  loadBy_brings (fun _ _ holds awaits => make_brings inv holds awaits) holds name

end

end Surroundings

end Errata
