import Errata.Class.Source
import Errata.Proofs.Compile.Lookup
import Errata.Proofs.Docs.Components
import Errata.Proofs.Docs.Merging
import Errata.Proofs.Docs.References
import Mathlib

/-!
# Collecting documentation

A source stands for a row of artifacts. Each artifact writes the schemas of its leaves, its own schema
and its response, all under their names, and what is written later hides what was written before:
collected components hold of every name the last (`Components.Hold`).

Two things follow. What an artifact wrote is lost just when a different one of its name is written behind
it, so that nothing at all is lost just when no two artifacts of one name differ (`collect_keeps_iff`).
But whatever hides an artifact has its name, so that every reference still leads somewhere
(`collect_closed`).
-/

namespace Errata

namespace Docs

namespace Artifact

/-- The artifacts whose schemas an artifact writes, in order: its leaves, and itself. -/
def written (a : Artifact) : List Artifact := a.leaves.map .single ++ [a]

lemma mem_written_self (a : Artifact) : a ∈ a.written := by simp [written]

/-- The leaves of what an artifact writes are written as well. -/
lemma single_mem_written {a w : Artifact} (member : w ∈ a.written) {l : Leaf} (leaf : l ∈ w.leaves) :
    .single l ∈ a.written := by
  rcases List.mem_append.1 member with alone | itself
  · obtain ⟨k, -, rfl⟩ := List.mem_map.1 alone
    cases List.mem_singleton.1 leaf
    exact member
  · cases List.mem_singleton.1 itself
    exact List.mem_append_left _ (List.mem_map_of_mem leaf)

end Artifact

/-- The last artifact of a name. -/
def lastNamed (as : List Artifact) (name : String) : Option Artifact :=
  (as.filter fun a => a.name = name).getLast?

lemma lastNamed_append (as bs : List Artifact) (name : String) :
    lastNamed (as ++ bs) name = (lastNamed bs name).or (lastNamed as name) := by
  rw [lastNamed, List.filter_append, List.getLast?_append]
  rfl

/-- An artifact alone is the last of its name. -/
lemma lastNamed_singleton (a : Artifact) (name : String) :
    lastNamed [a] name = if name = a.name then some a else none := by
  unfold lastNamed
  by_cases same : name = a.name
  · rw [if_pos same, List.filter_cons_of_pos (by simpa using same.symm)]
    rfl
  · rw [if_neg same, List.filter_cons_of_neg (by simpa using Ne.symm same)]
    rfl

/-- The last artifact of a name is one of the row, and has the name. -/
lemma mem_of_lastNamed {as : List Artifact} {name : String} {last : Artifact}
    (found : lastNamed as name = some last) : last ∈ as ∧ last.name = name := by
  obtain ⟨member, named⟩ := List.mem_filter.1 (List.mem_of_getLast? found)
  exact ⟨member, by simpa using named⟩

/-- The name of an artifact has a last artifact. -/
lemma exists_lastNamed {as : List Artifact} {a : Artifact} (member : a ∈ as) :
    ∃ last, lastNamed as a.name = some last :=
  ⟨_, List.getLast?_eq_some_getLast (List.ne_nil_of_mem (List.mem_filter.2 ⟨member, by simp⟩))⟩

/-- What the last of every name has is what all have, just when no two of one name differ. -/
lemma forall_lastNamed_iff {α : Type} (as : List Artifact) (f : Artifact → α) :
    (∀ a ∈ as, (lastNamed as a.name).map f = some (f a)) ↔
      ∀ a ∈ as, ∀ b ∈ as, a.name = b.name → f a = f b := by
  constructor
  · intro kept a member b member' same
    have mine := kept a member
    rw [same, kept b member'] at mine
    exact (Option.some.inj mine).symm
  · intro agree a member
    obtain ⟨last, found⟩ := exists_lastNamed member
    obtain ⟨there, named⟩ := mem_of_lastNamed found
    rw [found, Option.map_some, agree last there a member named]

namespace Components

/-- The components hold what a row of artifacts writes, and of every name the last. -/
structure Hold (c : Components) (as : List Artifact) : Prop where
  schema : ∀ name,
    c.schemas.get? name = (lastNamed (as.flatMap Artifact.written) name).map Artifact.schema
  response : ∀ name, c.responses.get? name = (lastNamed as name).map Artifact.response

/-- A reference leads to a schema. -/
def Leads (c : Components) (r schema : Json) : Prop :=
  ∃ name, r = schemaTarget name ∧ c.schemas.get? name = some schema

/-- A reference leads somewhere. -/
def Resolves (c : Components) (r : Json) : Prop := ∃ schema, c.Leads r schema

/-- Only what is a key of the schemas is referred to. -/
lemma Resolves.mem_keys {c : Components} {name : String} (resolves : c.Resolves (schemaTarget name)) :
    name ∈ c.schemas.keys := by
  obtain ⟨schema, name', same, found⟩ := resolves
  rw [schemaTarget_injective same]
  exact OrderedMap.mem_keys_iff.2 ⟨schema, found⟩

/-- The components keep everything that a row of artifacts writes. -/
structure Keep (c : Components) (as : List Artifact) : Prop where
  schema : ∀ a ∈ as.flatMap Artifact.written, c.schemas.get? a.name = some a.schema
  response : ∀ a ∈ as, c.responses.get? a.name = some a.response
  reference : ∀ a ∈ as, ∀ r ∈ a.response.targets, c.Leads r a.schema

namespace Hold

lemma empty : Components.empty.Hold [] := ⟨fun _ => rfl, fun _ => rfl⟩

/-- Components that are set over others hold what both hold, one behind the other. -/
lemma update {c d : Components} {as bs : List Artifact} (first : c.Hold as) (second : d.Hold bs) :
    (c.update d).Hold (as ++ bs) := by
  refine ⟨fun name => ?_, fun name => ?_⟩
  · show (c.schemas.update d.schemas).get? name = _
    rw [OrderedMap.get?_update, first.schema, second.schema, List.flatMap_append, lastNamed_append]
    cases lastNamed (bs.flatMap Artifact.written) name <;> rfl
  · show (c.responses.update d.responses).get? name = _
    rw [OrderedMap.get?_update, first.response, second.response, lastNamed_append]
    cases lastNamed bs name <;> rfl

/-- Components that are joined hold what they hold one by one. -/
lemma join {cs : List Components} {rows : List (List Artifact)} (each : List.Forall₂ Hold cs rows) :
    (Components.join cs).Hold rows.flatten := by
  induction each with
  | nil => exact empty
  | cons next _ ih =>
    rw [join_cons, List.flatten_cons]
    exact next.update ih

/-- The components of an artifact hold what it writes. -/
lemma artifact (a : Artifact) : a.components.Hold [a] := by
  refine ⟨fun name => ?_, fun name => ?_⟩
  · have leaves : (OrderedMap.ofList (a.leaves.map fun l => (l.name, l.schema))).get? name =
        (lastNamed (a.leaves.map .single) name).map Artifact.schema := by
      rw [OrderedMap.get?_ofList, lastNamed, List.filter_map, List.filter_map, List.getLast?_map,
        List.getLast?_map, Option.map_map, Option.map_map]
      simp only [Function.comp_def, Artifact.name_single]
      rfl
    show (OrderedMap.insert _ a.name a.schema).get? name = _
    rw [OrderedMap.get?_insert, leaves, List.flatMap_singleton, Artifact.written, lastNamed_append,
      lastNamed_singleton]
    split_ifs <;> rfl
  · show (OrderedMap.empty.insert a.name a.response).get? name = _
    rw [OrderedMap.get?_insert, lastNamed_singleton]
    split_ifs <;> rfl

/-- The components of a catalogue hold what its artifacts write. -/
lemma catalogue (c : Catalogue) : c.components.Hold c.artifacts.values := by
  have each (as : List Artifact) :
      List.Forall₂ Hold (as.map Artifact.components) (as.map fun a => [a]) := by
    induction as with
    | nil => exact .nil
    | cons a as ih => exact .cons (artifact a) ih
  have joined := join (each c.artifacts.values)
  rwa [← List.flatMap_def, List.flatMap_singleton'] at joined

/-- Everything is kept just when no two artifacts of one name write different things. -/
lemma keep_iff {c : Components} {as : List Artifact} (hold : c.Hold as) :
    c.Keep as ↔
      (∀ a ∈ as.flatMap Artifact.written, ∀ b ∈ as.flatMap Artifact.written,
        a.name = b.name → a.schema = b.schema) ∧
      ∀ a ∈ as, ∀ b ∈ as, a.name = b.name → a.response = b.response := by
  rw [← forall_lastNamed_iff, ← forall_lastNamed_iff]
  simp only [← hold.schema, ← hold.response]
  constructor
  · exact fun keep => ⟨keep.schema, keep.response⟩
  · rintro ⟨schemas, responses⟩
    refine ⟨schemas, responses, fun a member r target => ?_⟩
    rw [Artifact.targets_response, List.mem_singleton] at target
    exact ⟨a.name, target, schemas a (List.mem_flatMap.2 ⟨a, member, a.mem_written_self⟩)⟩

/-- A reference to an artifact that is written leads somewhere. -/
lemma resolves {c : Components} {as : List Artifact} (hold : c.Hold as) {w : Artifact}
    (member : w ∈ as.flatMap Artifact.written) : c.Resolves (schemaTarget w.name) := by
  obtain ⟨last, found⟩ := exists_lastNamed member
  exact ⟨last.schema, w.name, rfl, by rw [hold.schema, found, Option.map_some]⟩

/-- What is found under the name of a schema is the schema of an artifact of that name. -/
lemma exists_of_schema {c : Components} {as : List Artifact} (hold : c.Hold as) {j : Json}
    (member : j ∈ c.schemas.values) : ∃ w ∈ as.flatMap Artifact.written, j = w.schema := by
  obtain ⟨name, found⟩ := OrderedMap.mem_values_iff.1 member
  rw [hold.schema, Option.map_eq_some_iff] at found
  obtain ⟨w, last, rfl⟩ := found
  exact ⟨w, (mem_of_lastNamed last).1, rfl⟩

/-- What a schema that is held refers to is there. -/
lemma resolves_of_schema {c : Components} {as : List Artifact} (hold : c.Hold as) {j : Json}
    (member : j ∈ c.schemas.values) {r : Json} (target : r ∈ j.targets) : c.Resolves r := by
  obtain ⟨w, there, rfl⟩ := hold.exists_of_schema member
  obtain ⟨l, leaf, rfl⟩ := Artifact.exists_leaf_of_mem_targets target
  obtain ⟨a, source, writes⟩ := List.mem_flatMap.1 there
  have written := hold.resolves (List.mem_flatMap.2 ⟨a, source, Artifact.single_mem_written writes leaf⟩)
  rwa [Artifact.name_single] at written

/-- A response that is held has the name of its artifact, and refers to the schema of that name. -/
lemma response_closed {c : Components} {as : List Artifact} (hold : c.Hold as) {name : String} {j : Json}
    (found : c.responses.get? name = some j) :
    name ∈ c.schemas.keys ∧ j.targets = [schemaTarget name] ∧ c.Resolves (schemaTarget name) := by
  rw [hold.response, Option.map_eq_some_iff] at found
  obtain ⟨a, last, rfl⟩ := found
  obtain ⟨member, rfl⟩ := mem_of_lastNamed last
  have resolves := hold.resolves (List.mem_flatMap.2 ⟨a, member, a.mem_written_self⟩)
  exact ⟨resolves.mem_keys, a.targets_response, resolves⟩

end Hold

end Components

/-- Merged responses are responses of the artifacts that are merged. -/
lemma exists_of_mergeResponses {as : List Artifact} {merged : OrderedMap String Json}
    (accepted : mergeResponses as = .ok merged) {j : Json} (member : j ∈ merged.values) :
    ∃ a ∈ as, j = a.response := by
  obtain ⟨-, entries⟩ := mergeResponses_eq_ok_iff.1 accepted
  rw [OrderedMap.values, entries, List.map_map] at member
  obtain ⟨a, there, rfl⟩ := List.mem_map.1 member
  exact ⟨a, there, rfl⟩

end Docs

namespace Subject

open Docs

/-- The artifacts that a source contains; not everything is a source. -/
def artifacts? (t : ClassTable) : Subject → Option (List Artifact)
  | artifact a => some [a]
  | catalogue c => some c.artifacts.values
  | cls c =>
    if t.isTaxonomyClass c then (t.compiled? c).map fun unit => unit.catalogue.artifacts.values else none
  | _ => none

/-- The artifacts that some sources contain. -/
def documented (t : ClassTable) (ss : List Subject) : List Artifact :=
  ss.flatMap fun s => (s.artifacts? t).getD []

variable {t : ClassTable}

/-- The components of a source hold what its artifacts write. -/
lemma components_hold {s : Subject} (source : (s.artifacts? t).isSome) :
    ∃ c, s.components t = .ok c ∧ c.Hold ((s.artifacts? t).getD []) := by
  unfold artifacts? at source ⊢
  cases s with
  | artifact a => exact ⟨_, rfl, .artifact a⟩
  | catalogue c => exact ⟨_, rfl, .catalogue c⟩
  | cls c =>
    dsimp only at source ⊢
    split_ifs at source ⊢ with taxonomy
    · cases unit : t.compiled? c with
      | none => simp [unit] at source
      | some unit' => exact ⟨_, by rw [components, if_pos taxonomy, unit], .catalogue _⟩
    · cases source
  | _ => cases source

/-- The components of sources hold what all their artifacts write, in the order of the sources. -/
lemma collect_hold {ss : List Subject} (sources : ∀ s ∈ ss, (s.artifacts? t).isSome) :
    ∃ c, collect t ss = .ok c ∧ c.Hold (documented t ss) := by
  have each : ∃ cs, ss.mapM (components t) = .ok cs ∧
      List.Forall₂ Components.Hold cs (ss.map fun s => (s.artifacts? t).getD []) := by
    induction ss with
    | nil => exact ⟨[], rfl, .nil⟩
    | cons s ss ih =>
      obtain ⟨c, first, holds⟩ := components_hold (sources s (List.mem_cons_self ..))
      obtain ⟨cs, others, hold⟩ := ih fun s member => sources s (List.mem_cons_of_mem _ member)
      refine ⟨c :: cs, ?_, .cons holds hold⟩
      rw [List.mapM_cons, first, others]
      rfl
  obtain ⟨cs, parts, hold⟩ := each
  refine ⟨_, by rw [collect, parts]; rfl, ?_⟩
  rw [documented, List.flatMap_def]
  exact .join hold

/-- Whatever the sources are, their components can be collected, and hold of every name what the last
artifact of that name writes. Every artifact keeps its schema and its response, and the reference in its
response leads to its schema, just when no two artifacts of one name write different things. -/
theorem collect_keeps_iff (t : ClassTable) (ss : List Subject)
    (sources : ∀ s ∈ ss, (s.artifacts? t).isSome) :
    ∃ c, collect t ss = .ok c ∧ c.Hold (documented t ss) ∧
      (c.Keep (documented t ss) ↔
        (∀ a ∈ (documented t ss).flatMap Artifact.written,
          ∀ b ∈ (documented t ss).flatMap Artifact.written, a.name = b.name → a.schema = b.schema) ∧
        ∀ a ∈ documented t ss, ∀ b ∈ documented t ss, a.name = b.name → a.response = b.response) := by
  obtain ⟨c, collected, hold⟩ := collect_hold sources
  exact ⟨c, collected, hold, hold.keep_iff⟩

/-- A unit with one internal case, and a code of its own for it. -/
def serviceUnit (name code : String) : UnitDecl where
  name := name
  annotation := some ⟨[], .ofList [("internal_code", .text code)]⟩
  cases := [⟨"Broken", true, some ⟨[.text "internal"], .empty⟩⟩]
  reserved := []

/-- That unit, compiled. -/
def service (name code : String) : Compiled :=
  ((serviceUnit name code).taxonomy (serviceUnit name code).readable).compiled .default

/-- The documentation of two services. -/
def serviceSources (first second : Compiled) : List Subject :=
  [.catalogue first.catalogue, .catalogue second.catalogue]

/-- Two units that share the code of their internal cases are documented together without a loss. -/
theorem sameCode_kept :
    ((serviceUnit "Orders" "broken").compile .default).outcome = .ok (service "Orders" "broken") ∧
    ((serviceUnit "Payments" "broken").compile .default).outcome = .ok (service "Payments" "broken") ∧
    let sources := serviceSources (service "Orders" "broken") (service "Payments" "broken")
    ∃ c, collect .empty sources = .ok c ∧ c.Keep (documented .empty sources) := by
  refine ⟨by cbv, by cbv, ?_⟩
  obtain ⟨c, collected, -, keep⟩ := collect_keeps_iff .empty
    (serviceSources (service "Orders" "broken") (service "Payments" "broken")) (by decide)
  refine ⟨c, collected, keep.2 ⟨fun a member b member' _ => ?_, fun a member b member' _ => ?_⟩⟩
  · have same {a : Artifact} (member : a ∈ List.replicate 4 (.single (.internal (.literal "broken")))) :=
      List.eq_of_mem_replicate member
    rw [same member, same member']
  · have same {a : Artifact} (member : a ∈ List.replicate 2 (.single (.internal (.literal "broken")))) :=
      List.eq_of_mem_replicate member
    rw [same member, same member']

/-- Two units that have codes of their own are documented together, and the reference in the response of
the first leads to the schema of the second. -/
theorem ownCodes_lost :
    ((serviceUnit "Orders" "orders").compile .default).outcome = .ok (service "Orders" "orders") ∧
    ((serviceUnit "Payments" "payments").compile .default).outcome = .ok (service "Payments" "payments") ∧
    ∃ c a b,
      collect .empty (serviceSources (service "Orders" "orders") (service "Payments" "payments")) = .ok c ∧
      (service "Orders" "orders").catalogue.get? internalErrorName = some a ∧
      (service "Payments" "payments").catalogue.get? internalErrorName = some b ∧
      a.codes = ["orders"] ∧ b.codes = ["payments"] ∧ a.response.targets = [schemaTarget a.name] ∧
      c.Leads (schemaTarget a.name) b.schema ∧ ¬c.Leads (schemaTarget a.name) a.schema := by
  refine ⟨by cbv, by cbv, _, _, _, rfl, rfl, rfl, rfl, rfl, rfl, ⟨_, rfl, rfl⟩, ?_⟩
  rintro ⟨name, same, found⟩
  cases schemaTarget_injective same
  have code : some (pinned "string" (.str "payments")) = some (pinned "string" (.str "orders")) :=
    congrArg (fun j => j.bind fun j => (j.member? "properties").bind (Json.member? "code")) found
  simp [pinned] at code

/-- The components of sources are closed under references: every response that is collected refers to the
schema of its own name, and whatever the schemas refer to, or responses that are merged from artifacts
of the sources, is a key of the schemas. No name has to be free for that. -/
theorem collect_closed (t : ClassTable) (ss : List Subject)
    (sources : ∀ s ∈ ss, (s.artifacts? t).isSome) :
    ∃ c, collect t ss = .ok c ∧
      (∀ name j, c.responses.get? name = some j →
        name ∈ c.schemas.keys ∧ j.targets = [schemaTarget name] ∧ c.Resolves (schemaTarget name)) ∧
      (∀ j ∈ c.schemas.values, ∀ r ∈ j.targets, c.Resolves r) ∧
      ∀ drawn merged, (∀ a ∈ drawn, a ∈ (documented t ss).flatMap Artifact.written) →
        mergeResponses drawn = .ok merged → ∀ j ∈ merged.values, ∀ r ∈ j.targets, c.Resolves r := by
  obtain ⟨c, collected, hold⟩ := collect_hold sources
  refine ⟨c, collected, fun _ _ => hold.response_closed, fun _ member _ => hold.resolves_of_schema member, ?_⟩
  intro drawn merged written accepted j member r target
  obtain ⟨a, there, rfl⟩ := exists_of_mergeResponses accepted member
  rw [Artifact.targets_response, List.mem_singleton] at target
  rw [target]
  exact hold.resolves (written a there)

/-- Two units that have codes of their own, and behind them their internal errors combined: though a schema
is lost, every reference leads somewhere. -/
theorem ownCodes_closed : ∃ both c merged,
    (Artifact.single (.internal (.literal "orders"))).combine (.single (.internal (.literal "payments"))) =
      .ok both ∧
    collect .empty (serviceSources (service "Orders" "orders") (service "Payments" "payments") ++
      [.artifact both]) = .ok c ∧
    c.schemas.keys = ["InternalError", "InternalErrorOrInternalError"] ∧
    mergeResponses [both] = .ok merged ∧
    ∀ j ∈ c.responses.values ++ c.schemas.values ++ merged.values, ∀ r ∈ j.targets, c.Resolves r := by
  let both : Artifact := ⟨.internal (.literal "orders"), [.internal (.literal "payments")], by decide⟩
  obtain ⟨c, collected, responses, schemas, drawn⟩ := collect_closed .empty
    (serviceSources (service "Orders" "orders") (service "Payments" "payments") ++ [.artifact both])
    (by decide)
  have merges : mergeResponses [both] = .ok (.ofList [("500", both.response)]) := rfl
  refine ⟨both, c, _, rfl, collected, ?_, merges, ?_⟩
  · cases collected
    decide
  · intro j member r target
    rcases List.mem_append.1 member with member | member
    · rcases List.mem_append.1 member with member | member
      · obtain ⟨name, found⟩ := OrderedMap.mem_values_iff.1 member
        obtain ⟨-, targets, resolves⟩ := responses name j found
        rw [targets, List.mem_singleton] at target
        exact target ▸ resolves
      · exact schemas j member r target
    · refine drawn [both] _ ?_ merges j member r target
      intro a there
      cases List.mem_singleton.1 there
      exact List.mem_flatMap.2 ⟨both, by simp [documented, serviceSources, artifacts?], both.mem_written_self⟩

end Subject

end Errata
