import Errata.Proofs.Target.Outcomes
import Errata.Target.Standard

/-!
# Modules that are missing

A module is offered when it is loaded from the start, or is found part by part (`Surroundings.Offers`). Every module
that is loaded is, and what is looked for is found just when it is offered (`Surroundings.Supplied.offers_of_locate`,
`Surroundings.Supplied.exists_of_has`). The fuel is enough for this: fewer modules than there is fuel are left to be
made, and each that is made takes one away (`Surroundings.unmade_enter`). So a module that is reported to be missing is
not offered, whatever imports it, while the packages around one that is offered all are. What a reference names is
told to be missing only where it is (`Target.missing_told_of_target`).
-/

namespace Errata

namespace Surroundings

variable {s : Surroundings}

/-- There is a module of that name: it is loaded from the start, or it is found in the package around it. Its parts
are looked for in the portions, if it may have any. -/
inductive Offers (s : Surroundings) : String → Option Portions → Prop where
  | loaded {name : String} {m : Module} :
    s.world.loaded.get? name = some m →
    Offers s name m.package
  | part {part : String} {found : Found} :
    Loader.IsPart part →
    s.world.loaded.get? part = none →
    s.search .top part = some found →
    Offers s part found.package
  | inside {parent part : String} {portions : Portions} {found : Found} :
    Loader.IsPart part →
    s.world.loaded.get? (Loader.inside parent part) = none →
    Offers s parent (some portions) →
    s.search portions (Loader.inside parent part) = some found →
    Offers s (Loader.inside parent part) found.package

namespace Offers

variable {name parent part : String} {package package' : Option Portions}

lemma of_loaded {m : Module} (loaded : s.world.loaded.get? name = some m) (offers : s.Offers name package) :
    package = m.package := by
  cases offers with
  | loaded loaded' =>
    rw [loaded] at loaded'
    cases loaded'
    rfl
  | part _ unloaded =>
    rw [loaded] at unloaded
    cases unloaded
  | inside _ unloaded =>
    rw [loaded] at unloaded
    cases unloaded

lemma of_part (single : Loader.IsPart name) (unloaded : s.world.loaded.get? name = none)
    (offers : s.Offers name package) : ∃ found, s.search .top name = some found ∧ package = found.package := by
  cases offers with
  | loaded loaded =>
    rw [unloaded] at loaded
    cases loaded
  | part _ _ found => exact ⟨_, found, rfl⟩
  | inside => exact absurd single (Loader.not_isPart_inside _ _)

lemma of_inside (single : Loader.IsPart part) (unloaded : s.world.loaded.get? (Loader.inside parent part) = none)
    (offers : s.Offers (Loader.inside parent part) package) :
    ∃ portions found, s.Offers parent (some portions) ∧
      s.search portions (Loader.inside parent part) = some found ∧ package = found.package := by
  generalize whole : Loader.inside parent part = name at offers unloaded
  cases offers with
  | loaded loaded =>
    rw [unloaded] at loaded
    cases loaded
  | part single' =>
    rw [← whole] at single'
    exact absurd single' (Loader.not_isPart_inside _ _)
  | inside single' _ around found =>
    obtain ⟨rfl, rfl⟩ := Loader.inside_inj single single' whole
    exact ⟨_, _, around, found, rfl⟩

/-- The parts of a module are looked for in the same portions always. -/
lemma unique (first : s.Offers name package) (second : s.Offers name package') : package = package' := by
  induction name using Loader.dotted_induction generalizing package package' with
  | part part single =>
    cases loaded : s.world.loaded.get? part with
    | some m => rw [first.of_loaded loaded, second.of_loaded loaded]
    | none =>
      obtain ⟨found, there, rfl⟩ := first.of_part single loaded
      obtain ⟨found', there', rfl⟩ := second.of_part single loaded
      cases there.symm.trans there'
      rfl
  | inside parent part single ih =>
    cases loaded : s.world.loaded.get? (Loader.inside parent part) with
    | some m => rw [first.of_loaded loaded, second.of_loaded loaded]
    | none =>
      obtain ⟨portions, found, around, there, rfl⟩ := first.of_inside single loaded
      obtain ⟨portions', found', around', there', rfl⟩ := second.of_inside single loaded
      cases ih around around'
      cases there.symm.trans there'
      rfl

/-- The packages around a module that is offered are offered. -/
lemma around (lawful : s.world.Lawful) (offers : s.Offers name package) :
    ∀ a ∈ Loader.ancestry name, ∃ p, s.Offers a p := by
  induction offers with
  | loaded loaded =>
    intro a there
    have around := lawful.closed _ (OrderedMap.contains_iff.2 ⟨_, loaded⟩) a there
    obtain ⟨m, loaded⟩ := OrderedMap.contains_iff.1 around
    exact ⟨_, .loaded loaded⟩
  | part single unloaded found =>
    rw [Loader.ancestry_part single]
    exact List.forall_mem_singleton.2 ⟨_, .part single unloaded found⟩
  | inside single unloaded outer found ih =>
    rw [Loader.ancestry_inside single]
    exact List.forall_mem_append.2 ⟨ih, List.forall_mem_singleton.2 ⟨_, .inside single unloaded outer found⟩⟩

end Offers

/-- There is a module of that name. -/
def Has (s : Surroundings) (name : String) : Prop := ∃ package, s.Offers name package

end Surroundings

/-! ## How many modules there are -/

namespace Files

variable {files : Files}

/-- A name of a file without its ending. -/
def stem (s : String) : String := String.ofList (s.toList.take (s.toList.length - 3))

/-- The names under which modules can be made of a file and of the directories that it stands in. -/
def namesAlong (path : List String) : List String :=
  (List.range path.length).map (fun i => ".".intercalate (path.take i)) ++
    [".".intercalate (path.dropLast ++ [stem (path.getLast?.getD "")])]

/-- The names under which modules can be made of the files. -/
def moduleNames (f : Files) : List String := f.entries.flatMap fun e => namesAlong e.1

lemma length_moduleNames (f : Files) : f.moduleNames.length = f.weight := by
  obtain ⟨entries⟩ := f
  show (entries.flatMap fun e => namesAlong e.1).length = (entries.flatMap Prod.fst).length + entries.length
  induction entries with
  | nil => rfl
  | cons e rest ih =>
    have along : (namesAlong e.1).length = e.1.length + 1 := by simp [namesAlong]
    rw [List.flatMap_cons, List.flatMap_cons, List.length_append, List.length_append, ih, along, List.length_cons]
    omega

lemma mem_moduleNames_of_directory {path place : List String} {body : FileBody} (member : (path, body) ∈ files.entries)
    (around : place <+: path) (proper : place.length < path.length) : ".".intercalate place ∈ files.moduleNames := by
  refine List.mem_flatMap.2 ⟨_, member, List.mem_append_left _ (List.mem_map.2 ⟨place.length, ?_, ?_⟩)⟩
  · exact List.mem_range.2 proper
  · rw [← List.prefix_iff_eq_take.1 around]

lemma mem_moduleNames_of_file {place : List String} {part : String} {body : FileBody}
    (member : (place ++ [part ++ ".py"], body) ∈ files.entries) :
    ".".intercalate (place ++ [part]) ∈ files.moduleNames := by
  refine List.mem_flatMap.2 ⟨_, member, List.mem_append_right _ (List.mem_singleton.2 ?_)⟩
  have part_eq : stem (part ++ ".py") = part := by
    rw [stem, String.toList_append, List.length_append]
    simp
  rw [List.dropLast_concat, List.getLast?_concat, Option.getD_some, part_eq]

/-- What is found for a part has its name among those of the files. -/
lemma mem_moduleNames_of_search {place : List String} {part : String} {found : Found}
    (there : files.search place part = some found) : ".".intercalate (place ++ [part]) ∈ files.moduleNames := by
  dsimp only [search] at there
  split at there
  · cases there
  split at there
  · rename_i init
    exact mem_moduleNames_of_directory (Surroundings.mem_of_body? init) (List.prefix_append ..) (by simp)
  split at there
  · rename_i file
    exact mem_moduleNames_of_file (Surroundings.mem_of_body? file)
  split at there
  · rename_i directory
    rw [isDirectory, Bool.or_eq_true, List.isEmpty_iff, List.any_eq_true] at directory
    obtain empty | ⟨e, member, stands⟩ := directory
    · exact absurd empty (by simp)
    · rw [Bool.and_eq_true, List.isPrefixOf_iff_prefix, decide_eq_true_iff] at stands
      exact mem_moduleNames_of_directory member stands.1 stands.2
  · cases there

end Files

namespace Surroundings

variable {s : Surroundings} {l l' : Loader}

/-- The names under which modules can be made. -/
def moduleNames (s : Surroundings) : List String :=
  s.files.moduleNames ++ (s.world.early.keys ++ s.world.late.keys)

lemma length_moduleNames (s : Surroundings) : s.moduleNames.length + 1 = s.fuel := by
  rw [moduleNames, fuel, List.length_append, List.length_append, Files.length_moduleNames, OrderedMap.keys,
    OrderedMap.keys, List.length_map, List.length_map, OrderedMap.size, OrderedMap.size]
  omega

/-- What is found for a module has its name among those under which modules can be made. -/
lemma mem_moduleNames_of_search {portions : Portions} {name : String} {found : Found}
    (there : s.search portions name = some found) : name ∈ s.moduleNames := by
  rw [moduleNames, List.mem_append, List.mem_append]
  rw [search] at there
  split at there
  · rename_i o early
    exact .inr (.inl (OrderedMap.mem_keys_iff.2 ⟨o, early⟩))
  obtain among | behind := isSome_of_either there
  · obtain ⟨found', among⟩ := Option.isSome_iff_exists.1 among
    split_ifs at among
    have whole := Files.mem_moduleNames_of_search among
    rw [Loader.dropLast_append_getLastD, Loader.intercalate_parts] at whole
    exact .inl whole
  · obtain ⟨found', behind⟩ := Option.isSome_iff_exists.1 behind
    split_ifs at behind
    obtain ⟨o, late, -⟩ := Option.map_eq_some_iff.1 behind
    exact .inr (.inr (OrderedMap.mem_keys_iff.2 ⟨o, late⟩))

/-! ## What is looked for -/

lemma locate_part {part : String} (single : Loader.IsPart part) : s.locate l part = s.find part (some .top) := by
  rw [locate, if_neg (by simpa [Loader.IsPart] using single)]

lemma locate_inside {parent part : String} {package : Option Portions} (single : Loader.IsPart part)
    (around : l.package? parent = some package) :
    s.locate l (Loader.inside parent part) = s.find (Loader.inside parent part) package := by
  obtain ⟨m, found, rfl⟩ := Option.map_eq_some_iff.1 around
  rw [locate, if_pos (by simp [Loader.toList_inside]), Loader.splitLast_inside single, found, Option.bind_some]

lemma find_eq_ok_iff {name : String} {package : Option Portions} {found : Found} :
    s.find name package = .ok found ↔ ∃ portions, package = some portions ∧ s.search portions name = some found := by
  cases package with
  | none => simp [find]
  | some portions =>
    rw [find]
    cases sought : s.search portions name <;> simp [sought]

/-- What is loaded from the start is loaded still, and every module that is loaded is offered, with its portions. -/
structure Supplied (s : Surroundings) (l : Loader) : Prop where
  kept : ∀ name, s.world.loaded.contains name = true → l.has name = true
  offered : ∀ name package, l.package? name = some package → s.Offers name package

namespace Supplied

lemma of_alike (supplied : s.Supplied l) (alike : ∀ name, l'.package? name = l.package? name) : s.Supplied l' where
  kept name loaded := Loader.within_of_package? alike name (supplied.kept name loaded)
  offered name package loaded := supplied.offered name package ((alike name).symm.trans loaded)

lemma unloaded (supplied : s.Supplied l) {name : String} (unloaded : l.has name = false) :
    s.world.loaded.get? name = none := by
  cases loaded : s.world.loaded.get? name with
  | none => rfl
  | some m =>
    rw [supplied.kept name (OrderedMap.contains_iff.2 ⟨m, loaded⟩)] at unloaded
    cases unloaded

/-- Every module that is loaded is there. -/
lemma has_of_loaded (supplied : s.Supplied l) {name : String} (loaded : l.has name = true) : s.Has name := by
  obtain ⟨package, found⟩ := Option.isSome_iff_exists.1 (Loader.has_iff.1 loaded)
  exact ⟨package, supplied.offered name package found⟩

/-- A module that is found is offered. -/
lemma offers_of_locate (supplied : s.Supplied l) {name : String} (awaits : l.Awaits name) {found : Found}
    (located : s.locate l name = .ok found) : s.Offers name found.package ∧ name ∈ s.moduleNames := by
  have unloaded := supplied.unloaded awaits.unloaded
  obtain single | ⟨parent, part, single, rfl⟩ := Loader.part_or_inside name
  · rw [locate_part single] at located
    obtain ⟨portions, top, there⟩ := find_eq_ok_iff.1 located
    cases top
    exact ⟨.part single unloaded there, mem_moduleNames_of_search there⟩
  · obtain ⟨package, around⟩ := Option.isSome_iff_exists.1 (Loader.has_iff.1 (awaits.package parent part single rfl))
    rw [locate_inside single around] at located
    obtain ⟨portions, rfl, there⟩ := find_eq_ok_iff.1 located
    exact ⟨.inside single unloaded (supplied.offered _ _ around) there, mem_moduleNames_of_search there⟩

/-- A module that is offered is found. -/
lemma exists_of_has (supplied : s.Supplied l) {name : String} (awaits : l.Awaits name) (has : s.Has name) :
    ∃ found, s.locate l name = .ok found := by
  obtain ⟨package, offers⟩ := has
  have unloaded := supplied.unloaded awaits.unloaded
  obtain single | ⟨parent, part, single, rfl⟩ := Loader.part_or_inside name
  · obtain ⟨found, there, -⟩ := offers.of_part single unloaded
    rw [locate_part single]
    exact ⟨found, find_eq_ok_iff.2 ⟨_, rfl, there⟩⟩
  · obtain ⟨portions, found, outer, there, -⟩ := offers.of_inside single unloaded
    obtain ⟨package', around⟩ := Option.isSome_iff_exists.1 (Loader.has_iff.1 (awaits.package parent part single rfl))
    cases (supplied.offered _ _ around).unique outer
    rw [locate_inside single around]
    exact ⟨found, find_eq_ok_iff.2 ⟨_, rfl, there⟩⟩

/-- A module that counts as loaded is made of what is found for it. -/
lemma enter (supplied : s.Supplied l) {name : String} (awaits : l.Awaits name) {found : Found}
    (located : s.locate l name = .ok found) : s.Supplied (l.enter name (.ofFound found)) where
  kept other loaded := Loader.within_enter _ _ _ other (supplied.kept other loaded)
  offered other package loaded := by
    rw [Loader.package?_enter] at loaded
    split_ifs at loaded with same
    · cases loaded
      rw [same, Loader.package_ofFound]
      exact (supplied.offers_of_locate awaits located).1
    · exact supplied.offered other package loaded

/-- A module that was not loaded before can be left again. -/
lemma leave (before : s.Supplied l) {name : String} (unloaded : l.has name = false) (supplied : s.Supplied l') :
    s.Supplied (l'.leave name) where
  kept other loaded := by
    have others : other ≠ name := by
      rintro rfl
      rw [before.kept other loaded] at unloaded
      cases unloaded
    rw [Loader.has_iff, Loader.package?_leave, if_neg others, ← Loader.has_iff]
    exact supplied.kept other loaded
  offered other package loaded := by
    rw [Loader.package?_leave] at loaded
    split_ifs at loaded
    exact supplied.offered other package loaded

end Supplied

/-! ## The fuel -/

/-- The names under which no module has been made. -/
def unmade (s : Surroundings) (l : Loader) : Finset String :=
  s.moduleNames.toFinset.filter fun name => l.has name = false

lemma unmade_alike (alike : ∀ name, l'.package? name = l.package? name) : s.unmade l' = s.unmade l := by
  refine Finset.filter_congr fun name _ => ?_
  have same : l'.has name = l.has name := by
    rw [Bool.eq_iff_iff, Loader.has_iff, Loader.has_iff, alike]
  rw [same]

/-- A module that counts as loaded takes one name away. -/
lemma unmade_enter (supplied : s.Supplied l) {name : String} (awaits : l.Awaits name) {found : Found}
    (located : s.locate l name = .ok found) :
    (s.unmade (l.enter name (.ofFound found))).card < (s.unmade l).card := by
  have named := (supplied.offers_of_locate awaits located).2
  apply Finset.card_lt_card
  rw [Finset.ssubset_iff_of_subset]
  · refine ⟨name, Finset.mem_filter.2 ⟨List.mem_toFinset.2 named, awaits.unloaded⟩, fun member => ?_⟩
    have unloaded := (Finset.mem_filter.1 member).2
    rw [Loader.has_enter] at unloaded
    cases unloaded
  · intro other member
    obtain ⟨there, unloaded⟩ := Finset.mem_filter.1 member
    refine Finset.mem_filter.2 ⟨there, Bool.eq_false_iff.2 fun has => ?_⟩
    rw [Loader.within_enter _ _ _ other has] at unloaded
    cases unloaded

/-- A module that is left adds no name but its own. -/
lemma card_unmade_leave (l : Loader) (name : String) : (s.unmade (l.leave name)).card ≤ (s.unmade l).card + 1 := by
  have within : s.unmade (l.leave name) ⊆ insert name (s.unmade l) := by
    intro other member
    obtain ⟨there, unloaded⟩ := Finset.mem_filter.1 member
    by_cases same : other = name
    · exact Finset.mem_insert.2 (.inl same)
    · refine Finset.mem_insert_of_mem (Finset.mem_filter.2 ⟨there, ?_⟩)
      rw [← unloaded, Bool.eq_iff_iff, Loader.has_iff, Loader.has_iff, Loader.package?_leave, if_neg same]
  exact (Finset.card_le_card within).trans (Finset.card_insert_le ..)

/-- What is loaded is offered, and there is fuel for all modules that can still be made. -/
structure Fuelled (s : Surroundings) (fuel : Nat) (l : Loader) : Prop where
  supplied : s.Supplied l
  enough : (s.unmade l).card < fuel

lemma Fuelled.of_alike {fuel : Nat} (fuelled : s.Fuelled fuel l) (alike : ∀ name, l'.package? name = l.package? name) :
    s.Fuelled fuel l' :=
  ⟨fuelled.supplied.of_alike alike, by rw [unmade_alike alike]; exact fuelled.enough⟩

/-- The module that a fault tells to be missing is not there, unless code says so that raises the fault itself. -/
def Deserves (s : Surroundings) (e : ImportFault) : Prop :=
  ∀ missing, e.missing? = some missing → ¬s.Has missing ∨ ∃ r, e = .raised r ∧ s.Raises r

/-- Where the fuel is enough, it stays so, and only what is not there is told to be missing. -/
lemma fuelled_invariant (s : Surroundings) : s.Invariant s.Fuelled s.Deserves where
  more fuelled := ⟨fuelled.supplied, Nat.lt_succ_of_lt fuelled.enough⟩
  change fuelled c := fuelled.of_alike fun other => Loader.package?_apply _ c other
  declared fuelled _ := fuelled.of_alike fun _ => rfl
  refused _ _ _ := nofun
  raised there _ _ := .inr ⟨_, rfl, _, there⟩
  script _ _ := nofun
  enter fuelled awaits located := by
    refine ⟨fuelled.supplied.enter awaits located, ?_⟩
    have fewer := unmade_enter fuelled.supplied awaits located
    have enough := fuelled.enough
    omega
  leave := by
    intro _ l l' name before unloaded fuelled
    refine ⟨before.supplied.leave unloaded fuelled.supplied, ?_⟩
    have more := s.card_unmade_leave l' name
    have enough := fuelled.enough
    omega
  missing := by
    intro _ l name e fuelled awaits failed missing told
    rw [missing_of_locate failed] at told
    cases told
    refine .inl fun has => ?_
    obtain ⟨found, located⟩ := fuelled.supplied.exists_of_has awaits has
    rw [failed] at located
    cases located
  starved fuelled := absurd fuelled.enough (Nat.not_lt_zero _)

/-- From the start there is fuel for everything that can be made. -/
lemma start_fuelled (s : Surroundings) : s.Fuelled s.fuel s.start := by
  refine ⟨⟨fun name loaded => loaded, fun name package loaded => ?_⟩, ?_⟩
  · obtain ⟨m, there, rfl⟩ := Option.map_eq_some_iff.1 loaded
    exact .loaded there
  · have few : (s.unmade s.start).card ≤ s.moduleNames.length :=
      (Finset.card_filter_le ..).trans (List.toFinset_card_le _)
    have fuel := s.length_moduleNames
    omega

/-! ## What is told to be missing -/

/-- A module that an import reports to be missing is not there. -/
lemma deserves_of_importModule {ref : String} {e : ImportFault} (failed : (s.importModule ref).outcome = .error e) :
    s.Deserves e :=
  (load_brings s.fuelled_invariant s.start_fuelled ref).keeps.fault e (importModule_eq_error.1 failed)

/-- What is behind a module that cannot be loaded is not loaded either. -/
lemma loadBy_of_fault {make : Loader → String → Run} {around behind : List String} {e : ImportFault}
    (failed : (Loader.loadBy make l around).fault? = some e) (unloaded : ∀ a ∈ behind, l.has a = false) :
    (Loader.loadBy make l (behind ++ around)).fault? = some e := by
  induction behind with
  | nil => exact failed
  | cons a behind ih =>
    obtain ⟨own, others⟩ := List.forall_mem_cons.1 unloaded
    have failed := ih others
    rw [List.cons_append, Loader.loadBy, own, if_neg (by decide), Run.andThen_of_fault failed]
    exact failed

section

variable {name : String} (absent : ¬s.Has name)
include absent

/-- A module that is not there is not loaded. -/
lemma Fuelled.unloaded {fuel : Nat} (fuelled : s.Fuelled fuel l) : l.has name = false :=
  Bool.eq_false_iff.2 fun loaded => absent (fuelled.supplied.has_of_loaded loaded)

/-- Nor can it be made, and it is told to be missing. -/
lemma Fuelled.ensure_absent (fuelled : s.Fuelled s.fuel l)
    (around : ∀ parent part, Loader.IsPart part → name = Loader.inside parent part → l.has parent = true) :
    ∃ e, (Loader.ensure (s.make s.fuel) name l).fault? = some e ∧ e.missing? = some name := by
  have unloaded := fuelled.unloaded absent
  rw [Loader.ensure, unloaded, if_neg (by decide), fuel, make]
  cases located : s.locate l name with
  | ok found =>
    have offers := (fuelled.supplied.offers_of_locate ⟨unloaded, around⟩ located).1
    exact absurd ⟨_, offers⟩ absent
  | error e => exact ⟨e, rfl, missing_of_locate located⟩

/-- A module that is not there is told to be missing, where the package around it can be loaded. -/
lemma missing_of_absent
    (around : ∀ parent part, Loader.IsPart part → name = Loader.inside parent part →
      (s.load s.start parent).fault? = none) :
    ∃ e, (s.load s.start name).fault? = some e ∧ e.missing? = some name := by
  have start := s.start_fuelled
  obtain single | ⟨parent, part, single, rfl⟩ := Loader.part_or_inside name
  · rw [load, Loader.ancestry_part single, List.reverse_singleton, Loader.loadBy, start.unloaded absent,
      if_neg (by decide), Loader.loadBy, Run.fault?_andThen rfl]
    refine start.ensure_absent absent fun parent part _ same => ?_
    subst same
    exact absurd single (Loader.not_isPart_inside _ _)
  · have success := around parent part single rfl
    have brings := load_brings s.fuelled_invariant start parent
    have behind : s.load s.start (Loader.inside parent part) =
        (s.load s.start parent).andThen (Loader.ensure (s.make s.fuel) (Loader.inside parent part)) := by
      rw [load, Loader.ancestry_inside single, List.reverse_append, List.reverse_singleton, List.singleton_append,
        Loader.loadBy, start.unloaded absent, if_neg (by decide)]
      rfl
    rw [behind, Run.fault?_andThen success]
    refine brings.keeps.loader.1.ensure_absent absent fun parent' part' single' same => ?_
    obtain ⟨rfl, rfl⟩ := Loader.inside_inj single single' same
    exact brings.loaded success

end

/-- Where the packages in front of a part can be imported, and the part is not there, it is told to be missing. -/
lemma missing_of_importModule (lawful : s.world.Lawful) {ref next : String} {before after : List String}
    (split : Loader.ancestry ref = before ++ next :: after)
    (imports : ∀ a ∈ before, ∃ run, (s.importModule a).outcome = .ok run) (absent : ¬s.Has next) :
    ∃ e, (s.importModule ref).outcome = .error e ∧ e.missing? = some next := by
  have own := Loader.ancestry_of_split split
  have missing : ∃ e, (s.load s.start next).fault? = some e ∧ e.missing? = some next := by
    refine missing_of_absent absent fun parent part single same => ?_
    rw [same, Loader.ancestry_inside single] at own
    obtain ⟨⟨l, m⟩, success⟩ := imports parent ((List.append_inj' own rfl).1 ▸ Loader.self_mem_ancestry parent)
    exact (importModule_eq_ok.1 success).1
  obtain ⟨e, failed, about⟩ := missing
  refine ⟨e, importModule_eq_error.2 ?_, about⟩
  -- What stands behind the part is not there either, so that nothing of it is loaded.
  have unloaded : ∀ a ∈ after.reverse, s.start.has a = false := by
    intro a member
    rw [Bool.eq_false_iff]
    intro loaded
    obtain ⟨package, offers⟩ := s.start_fuelled.supplied.has_of_loaded loaded
    obtain ⟨front, back, rfl⟩ := List.append_of_mem (List.mem_reverse.1 member)
    rw [← List.cons_append, ← List.append_assoc] at split
    have around := Loader.ancestry_of_split split
    exact absent (offers.around lawful next (by simp [around]))
  rw [load, split, List.reverse_append, List.reverse_cons, List.append_assoc]
  rw [load, own, List.reverse_append] at failed
  exact loadBy_of_fault failed unloaded

end Surroundings

namespace Target

variable {s : Surroundings} {target ref name : String}

/-- A reference that is neither to a file nor relative is imported. -/
lemma loadModule_of_module (module : isFileRef ref = false) (absolute : ref.toList.head? ≠ some '.') :
    s.loadModule ref = (s.importModule ref).mapError (importFault ref) := by
  simp [Surroundings.loadModule, module, absolute]

/-- The failure of an import is told as a failure of the target. -/
lemma outcome_of_import {e : ImportFault} (splits : Splits target ref name) (module : isFileRef ref = false)
    (absolute : ref.toList.head? ≠ some '.') (failed : (s.importModule ref).outcome = .error e) :
    (s.resolve target).outcome = .error (importFault ref e) := by
  apply outcome_of_failed splits
  rw [loadModule_of_module module absolute, Attempt.outcome_mapError, failed]
  rfl

/-- A fault of an import is told to be a missing target when it is about a module around the target. -/
lemma importFault_of_around {e : ImportFault} {missing : String} (module : isFileRef ref = false)
    (about : e.missing? = some missing) (around : missing ∈ Loader.ancestry ref) :
    importFault ref e = .moduleNotFound ref := by
  have near := isAround_iff.2 around
  cases e with
  | notFound =>
    cases about
    simp [importFault, module, ImportFault.missing?, near]
  | notPackage =>
    cases about
    simp [importFault, module, ImportFault.missing?, near]
  | raised r =>
    cases r with
    | importError text missing? =>
      cases about
      simp [importFault, module, ImportFault.missing?, Raised.missing?, near]
    | _ => cases about
  | _ => cases about

/-- A fault that is neither raised by code for something else nor one of a class statement is one of the import. -/
def IsImport (e : ImportFault) : Prop := (∀ type text, e ≠ .raised (.other type text)) ∧ ∀ f, e ≠ .definition f

/-- Any other fault of an import is told to be that of an import. -/
lemma importFault_of_foreign {e : ImportFault} (isImport : IsImport e)
    (foreign : ∀ missing, e.missing? = some missing → missing ∉ Loader.ancestry ref) :
    importFault ref e = .cannotImport ref e := by
  have far : (e.missing?.map fun m => isAround m ref) ≠ some true := by
    intro near
    obtain ⟨missing, about, around⟩ := Option.map_eq_some_iff.1 near
    exact foreign missing about (isAround_iff.1 around)
  cases e with
  | raised r =>
    cases r with
    | other type text => exact absurd rfl (isImport.1 type text)
    | _ => simp [importFault, far]
  | definition f => exact absurd rfl (isImport.2 f)
  | _ => simp [importFault, far]

/-- Only a module around the target is told to be the missing target. -/
lemma around_of_importFault {e : ImportFault} {r : String} (told : importFault ref e = .moduleNotFound r) :
    ∃ missing, e.missing? = some missing ∧ missing ∈ Loader.ancestry ref := by
  have near {e : ImportFault} (told : (if !isFileRef ref && (e.missing?.map fun m => isAround m ref) == some true then
      .moduleNotFound ref else .cannotImport ref e : TargetFault) = .moduleNotFound r) :
      ∃ missing, e.missing? = some missing ∧ missing ∈ Loader.ancestry ref := by
    split at told
    · rename_i near
      rw [Bool.and_eq_true, beq_iff_eq] at near
      obtain ⟨missing, about, around⟩ := Option.map_eq_some_iff.1 near.2
      exact ⟨missing, about, isAround_iff.1 around⟩
    · cases told
  cases e with
  | definition f =>
    dsimp only [importFault] at told
    split at told <;> cases told
  | raised r =>
    cases r with
    | other => cases told
    | _ => exact near told
  | _ => exact near told

/-- What a module has under a name is not told to be a missing module. -/
lemma taxonomy_ne_moduleNotFound {l : Loader} {m : Module} {r : String} :
    taxonomy target ref name l m ≠ .error (.moduleNotFound r) := by
  intro told
  rw [taxonomy] at told
  split at told
  · cases told
  · split at told <;> cases told
  · cases told
  · split at told <;> cases told

/-- Where a target is told to be missing, its import has failed for a module around it. -/
lemma around_of_told {r : String} (splits : Splits target ref name) (module : isFileRef ref = false)
    (absolute : ref.toList.head? ≠ some '.') (told : (s.resolve target).outcome = .error (.moduleNotFound r)) :
    ∃ e missing, (s.importModule ref).outcome = .error e ∧ e.missing? = some missing ∧
      missing ∈ Loader.ancestry ref := by
  cases imported : (s.importModule ref).outcome with
  | error e =>
    rw [outcome_of_import splits module absolute imported] at told
    obtain ⟨missing, about, around⟩ := around_of_importFault (Except.error.inj told)
    exact ⟨e, missing, rfl, about, around⟩
  | ok run =>
    have loaded : (s.loadModule ref).outcome = .ok run := by
      rw [loadModule_of_module module absolute, Attempt.outcome_mapError, imported]
      rfl
    rw [outcome_of_loaded splits loaded] at told
    exact absurd told taxonomy_ne_moduleNotFound

/-- A package with one module, whose text cannot be read, and nothing beside it. -/
def shop : Surroundings where
  world := ⟨Script.readProgram, .empty, .empty, .empty, .empty⟩
  files := ⟨[(["shop", "cart.py"], .source "\x00")]⟩
  env := .empty

namespace shop

lemma lawful : shop.world.Lawful where
  formed := fun _ there => absurd there List.not_mem_nil
  closed := fun _ loaded => absurd loaded Bool.false_ne_true

lemma cart_fails : (shop.importModule "shop.cart").outcome =
    .error (.script "cart.py" Script.Expression.nullFault) := rfl

lemma shop_imports : ∃ run, (shop.importModule "shop").outcome = .ok run := ⟨_, rfl⟩

lemma offers_shop : shop.Offers "shop" (some ⟨true, false⟩) :=
  .part (by decide) rfl (show shop.search .top "shop" = some (.directory ⟨true, false⟩) from rfl)

lemma has_cart : ∀ a ∈ Loader.ancestry "shop.cart", shop.Has a := by
  have found : shop.search ⟨true, false⟩ (Loader.inside "shop" "cart") =
      some (.file ["shop", "cart.py"] (.source "\x00") false) := rfl
  have cart : shop.Has (Loader.inside "shop" "cart") := ⟨_, .inside (by decide) rfl offers_shop found⟩
  exact List.forall_mem_cons.2 ⟨⟨_, offers_shop⟩, List.forall_mem_singleton.2 cart⟩

lemma not_has_till : ¬shop.Has "shop.till" := by
  rintro ⟨package, offers⟩
  have inside : shop.Offers (Loader.inside "shop" "till") package := offers
  obtain ⟨portions, found, around, there, -⟩ := inside.of_inside (by decide) rfl
  cases around.unique offers_shop
  cases there

end shop

end Target

end Errata
