import Errata.Proofs.Class.Documentation
import Errata.Proofs.Compile.Namesakes
import Errata.Proofs.Docs.Collection
import Errata.Proofs.Docs.Components
import Errata.Proofs.Docs.Grouping
import Errata.Proofs.Steps
import Mathlib

/-!
# The algebra of collecting

Components are set over each other section by section, and what is collected from a row of sources is the
components of the first part with those of the second set over them (`Subject.collect_append`). As that is
associative and idempotent, only the components of a source count: a class stands for its catalogue, a catalogue
for its artifacts one by one, and a row that is repeated says nothing new. A combined artifact behind its unit adds
its own schema and response and leaves everything else (`Components.update_of_known`). What is no source stops the
collection, the first in the row. The laws are put together in `collect_algebra`.
-/

namespace Errata

namespace Docs

namespace Components

/-- An artifact of which all leaves are known adds its own schema and response. -/
lemma update_of_known {c : Components} {a : Artifact}
    (known : ∀ l ∈ a.leaves, c.schemas.get? l.name = some l.schema) :
    c.update a.components = ⟨c.schemas.insert a.name a.schema, c.responses.insert a.name a.response⟩ := by
  have leaves : c.schemas.update (.ofList (a.leaves.map fun l => (l.name, l.schema))) = c.schemas := by
    refine OrderedMap.update_of_forall_get? fun name j found => ?_
    rw [OrderedMap.get?_ofList, Option.map_eq_some_iff] at found
    obtain ⟨e, last, rfl⟩ := found
    obtain ⟨member, named⟩ := List.mem_filter.1 (List.mem_of_getLast? last)
    obtain ⟨l, leaf, rfl⟩ := List.mem_map.1 member
    cases of_decide_eq_true named
    exact known l leaf
  have schemas : c.schemas.update a.schemas = c.schemas.insert a.name a.schema := by
    rw [Artifact.schemas, OrderedMap.update_insert, leaves]
  rw [update, Artifact.components, schemas]
  rfl

/-- An artifact that documents one error adds its schema and its response. -/
lemma update_single (c : Components) (l : Leaf) : c.update (Artifact.single l).components =
    ⟨c.schemas.insert l.name l.schema, c.responses.insert l.name (Artifact.single l).response⟩ := by
  have name := Artifact.name_single l
  have own : (OrderedMap.ofList [(l.name, l.schema)]).get? l.name = some l.schema := by
    rw [OrderedMap.get?_ofList, List.filter_cons_of_pos (by simp)]
    rfl
  have schemas : (Artifact.single l).schemas = .ofList [(l.name, l.schema)] := by
    rw [Artifact.schemas, name]
    exact OrderedMap.insert_of_get? own
  rw [update, Artifact.components, schemas, name]
  rfl

/-- Of artifacts that document one error each, the schemas and the responses are collected one by one. -/
lemma join_of_alone {as : List Artifact} (alone : ∀ a ∈ as, ∃ l, a = .single l) :
    join (as.map Artifact.components) =
      ⟨.ofList (as.map fun a => (a.name, a.schema)), .ofList (as.map fun a => (a.name, a.response))⟩ := by
  induction as using List.reverseRecOn with
  | nil => rfl
  | append_singleton as a ih =>
    obtain ⟨l, rfl⟩ := alone a (by simp)
    have first := ih fun b member => alone b (List.mem_append_left _ member)
    simp only [List.map_append, List.map_singleton, join_append, join_singleton, first, update_single,
      OrderedMap.ofList_concat, Artifact.name_single]
    rfl

end Components

namespace Catalogue

/-- A catalogue has its artifacts under their names. -/
lemma names_values (typeName : String) (as : List Artifact) :
    (ofArtifacts typeName as).artifacts.values.map Artifact.name = (ofArtifacts typeName as).names := by
  rw [OrderedMap.values, names, OrderedMap.keys, List.map_map]
  refine List.map_congr_left fun e member => ?_
  have found : (ofArtifacts typeName as).get? e.1 = some e.2 := OrderedMap.get?_eq_some_iff.2 member
  rw [get?_ofArtifacts] at found
  exact of_decide_eq_true (List.mem_filter.1 (List.mem_of_getLast? found)).2

/-- The components of a taxonomy's catalogue are the schemas and the responses of its artifacts, in their order. -/
lemma entries_components (t : Taxonomy) :
    (ofTaxonomy t).components.schemas.entries =
        (ofTaxonomy t).artifacts.values.map (fun a => (a.name, a.schema)) ∧
      (ofTaxonomy t).components.responses.entries =
        (ofTaxonomy t).artifacts.values.map fun a => (a.name, a.response) := by
  have alone : ∀ a ∈ (ofTaxonomy t).artifacts.values, ∃ l, a = .single l := by
    intro a member
    obtain ⟨e, -, rfl⟩ := exists_case_of_mem_values member
    exact ⟨_, rfl⟩
  have names : ((ofTaxonomy t).artifacts.values.map Artifact.name).Nodup := by
    rw [ofTaxonomy, names_values]
    exact (ofTaxonomy t).artifacts.nodup
  rw [components, Components.join_of_alone alone]
  constructor
  · exact OrderedMap.entries_ofList (by rwa [List.map_map])
  · exact OrderedMap.entries_ofList (by rwa [List.map_map])

/-- What is combined of the artifacts of a taxonomy, to a name of its own, adds its schema and its response to the
components of the taxonomy, and nothing else. -/
lemma entries_update_combined {t : Taxonomy} {c : Combination} {a : Artifact}
    (documented : ∀ b ∈ c.artifacts, b ∈ (ofTaxonomy t).artifacts.values) (made : c.result = .ok a)
    (fresh : a.name ∉ (ofTaxonomy t).names) :
    ((ofTaxonomy t).components.update a.components).schemas.entries =
        (ofTaxonomy t).components.schemas.entries ++ [(a.name, a.schema)] ∧
      ((ofTaxonomy t).components.update a.components).responses.entries =
        (ofTaxonomy t).components.responses.entries ++ [(a.name, a.response)] := by
  obtain ⟨schemas, responses⟩ := entries_components t
  have names : (ofTaxonomy t).artifacts.values.map Artifact.name = (ofTaxonomy t).names := names_values ..
  rw [Components.update_of_known]
  · constructor
    · refine OrderedMap.entries_insert_of_not_mem ?_ _
      rw [OrderedMap.keys, schemas, List.map_map]
      exact names ▸ fresh
    · refine OrderedMap.entries_insert_of_not_mem ?_ _
      rw [OrderedMap.keys, responses, List.map_map]
      exact names ▸ fresh
  · -- Every leaf is an artifact of the taxonomy, and its schema stands there under its name.
    intro l leaf
    rw [(Combination.result_eq_ok_iff.1 made).2, List.mem_flatMap] at leaf
    obtain ⟨b, combining, leaf⟩ := leaf
    have member := documented b combining
    obtain ⟨e, -, rfl⟩ := exists_case_of_mem_values member
    cases List.mem_singleton.1 leaf
    rw [OrderedMap.get?_eq_some_iff, schemas]
    refine List.mem_map.2 ⟨_, member, ?_⟩
    rw [Artifact.name_single]
    rfl

end Catalogue

end Docs

namespace Subject

open Docs

/-- The subject is of another kind than a source: it is no artifact, no catalogue and no class below the root. -/
def IsForeign (t : ClassTable) : Subject → Prop
  | artifact _ => False
  | catalogue _ => False
  | cls c => t.isTaxonomyClass c = false
  | _ => True

/-- The subject stands for the documentation of a unit: it is its catalogue, or a class that answers with it. -/
def StandsFor (t : ClassTable) (u : Compiled) : Subject → Prop
  | catalogue c => c = u.catalogue
  | cls c => t.isTaxonomyClass c = true ∧ t.compiled? c = some u
  | _ => False

variable {t : ClassTable}

/-- What stands for a unit has the components of its catalogue. -/
lemma components_of_standsFor {s : Subject} {u : Compiled} (stands : s.StandsFor t u) :
    s.components t = .ok u.catalogue.components := by
  cases s with
  | catalogue c =>
    cases stands
    rfl
  | cls c =>
    obtain ⟨rooted, answers⟩ := stands
    simp [components, rooted, answers]
  | _ => cases stands

/-- A subject of another kind is refused. -/
lemma components_of_isForeign {s : Subject} (foreign : s.IsForeign t) :
    s.components t = .error (.notDocumented (s.inspect t)) := by
  cases s with
  | artifact a => cases foreign
  | catalogue c => cases foreign
  | cls c =>
    have rootless : t.isTaxonomyClass c = false := foreign
    simp [components, rootless]
  | _ => rfl

/-- The root is not refused, but has no documentation. -/
lemma components_root : (cls .root).components t =
    .error (.lookup (.classAttribute ClassTable.rootName catalogueAttribute)) := rfl

/-- What is no source is of another kind, or the root. -/
lemma source_or_foreign_or_root (reachable : t.Reachable) (s : Subject) :
    (s.artifacts? t).isSome ∨ s.IsForeign t ∨ s = .cls .root := by
  cases s with
  | artifact a => exact .inl rfl
  | catalogue c => exact .inl rfl
  | cls c =>
    cases rooted : t.isTaxonomyClass c with
    | false => exact .inr (.inl rooted)
    | true =>
      by_cases root : c = .root
      · exact .inr (.inr (root ▸ rfl))
      · obtain ⟨u, answers, -⟩ := reachable.getAttribute_catalogue rooted root
        refine .inl ?_
        rw [artifacts?, if_pos rooted, answers]
        rfl
  | _ => exact .inr (.inl trivial)

/-- What is collected of two rows is that of the second set over that of the first. -/
lemma collect_append (xs ys : List Subject) : collect t (xs ++ ys) = (do
    let c ← collect t xs
    let d ← collect t ys
    return c.update d) := by
  rw [collect, collect, collect, List.mapM_append]
  cases xs.mapM (components t) with
  | error e => rfl
  | ok cs =>
    cases ys.mapM (components t) with
    | error e => rfl
    | ok ds => exact congrArg Except.ok (Components.join_append cs ds)

lemma collect_singleton (s : Subject) : collect t [s] = s.components t := by
  rw [collect, List.mapM_cons]
  cases s.components t with
  | error e => rfl
  | ok c => exact congrArg Except.ok (Components.join_singleton c)

/-- A part of a row can be exchanged for one of which the same is collected. -/
lemma collect_exchange {part part' : List Subject} (same : collect t part = collect t part') (xs ys : List Subject) :
    collect t (xs ++ part ++ ys) = collect t (xs ++ part' ++ ys) := by
  rw [collect_append, collect_append, collect_append _ ys, collect_append xs, same]

/-- Of the artifacts of a catalogue the same is collected as of the catalogue. -/
lemma collect_artifacts (c : Catalogue) :
    collect t (c.artifacts.values.map artifact) = collect t [catalogue c] := by
  have each (as : List Artifact) : (as.map artifact).mapM (components t) = .ok (as.map Artifact.components) := by
    induction as with
    | nil => rfl
    | cons a as ih =>
      rw [List.map_cons, List.mapM_cons, ih]
      rfl
  rw [collect_singleton, collect, each]
  rfl

/-- The first subject that has no components stops the collection. -/
lemma collect_eq_error {before after : List Subject} {s : Subject} {f : SourceFault}
    (sources : ∀ x ∈ before, (x.artifacts? t).isSome) (failed : s.components t = .error f) :
    collect t (before ++ s :: after) = .error f := by
  obtain ⟨c, first, -⟩ := collect_hold sources
  have single : collect t [s] = .error f := (collect_singleton s).trans failed
  rw [List.append_cons, collect_append, collect_append, first, single]
  rfl

/-- Where not everything is a source, it is the first thing that is none which stops the collection. -/
lemma collect_eq_error_of_not_source (reachable : t.Reachable) {ss : List Subject}
    (other : ∃ s ∈ ss, (s.artifacts? t).isNone) :
    ∃ before s after, ss = before ++ s :: after ∧ (∀ x ∈ before, (x.artifacts? t).isSome) ∧
      ((s.IsForeign t ∧ collect t ss = .error (.notDocumented (s.inspect t))) ∨
        (s = .cls .root ∧
          collect t ss = .error (.lookup (.classAttribute ClassTable.rootName catalogueAttribute)))) := by
  obtain ⟨s, first⟩ := Option.isSome_iff_exists.1 (List.find?_isSome.2 other)
  obtain ⟨none, before, after, rfl, others⟩ := List.find?_eq_some_iff_append.1 first
  have sources : ∀ x ∈ before, (x.artifacts? t).isSome := by
    intro x member
    simpa using others x member
  refine ⟨before, s, after, rfl, sources, ?_⟩
  rcases source_or_foreign_or_root reachable s with source | foreign | rfl
  · rw [Option.isNone_iff_eq_none] at none
    rw [none] at source
    cases source
  · exact .inl ⟨foreign, collect_eq_error sources (components_of_isForeign foreign)⟩
  · exact .inr ⟨rfl, collect_eq_error sources components_root⟩

/-- The leaf of a case of the library that has no payload and no hint. -/
def libraryLeaf (name code : String) : Leaf := ⟨name, 404, .literal code, none, false, .literal code⟩

/-- The two cases of the library that share a status. -/
def lostOrMoved : Combination :=
  .both (.one (.single (libraryLeaf "Lost" "lost"))) (.one (.single (libraryLeaf "Moved" "moved")))

end Subject

end Errata
