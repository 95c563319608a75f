import Errata.Proofs.Docs.Bracketing
import Errata.Proofs.Docs.Merging
import Errata.Proofs.Steps
import Mathlib

/-!
# Documenting a whole unit

Responses can be merged when no status comes twice, and artifacts can be combined when they share one. So every
row of artifacts can be documented as a whole: it is grouped by status (`GroupsByStatus`), as `byStatus` does,
each group is combined, in whatever order of brackets, and the results are merged. What is merged has one
response for each status, and it documents just the leaves of the artifacts of that status
(`GroupsByStatus.documents`).
-/

namespace Errata.Docs

namespace Combination

/-- The status of the first artifact that is combined. -/
def status : Combination → Int
  | one a => a.status
  | both c _ => c.status

/-- It is the status of an artifact that is combined. -/
lemma exists_status (c : Combination) : ∃ a ∈ c.artifacts, a.status = c.status := by
  induction c with
  | one a => exact ⟨a, List.mem_singleton_self a, rfl⟩
  | both c d first _ =>
    obtain ⟨a, member, same⟩ := first
    exact ⟨a, List.mem_append_left _ member, same⟩

/-- What is combined has that status. -/
lemma status_of_result {c : Combination} {a : Artifact} (made : c.result = .ok a) : a.status = c.status := by
  obtain ⟨b, member, same⟩ := c.exists_status
  exact ((result_eq_ok_iff.1 made).1 b member).symm.trans same

end Combination

/-- Combinations that group artifacts by status: together they combine all of them, each combines artifacts of
one status, and no two have the same status. -/
structure GroupsByStatus (cs : List Combination) (as : List Artifact) : Prop where
  together : (cs.flatMap Combination.artifacts).Perm as
  shared : ∀ c ∈ cs, ∀ a ∈ c.artifacts, a.status = c.status
  apart : (cs.map Combination.status).Nodup

/-- Combines an artifact with the group of its status, or begins a group with it. -/
def addToGroup (cs : List Combination) (a : Artifact) : List Combination :=
  match cs with
  | [] => [.one a]
  | c :: cs => if c.status = a.status then .both c (.one a) :: cs else c :: addToGroup cs a

/-- Groups artifacts by status, one after the other. -/
def byStatus (as : List Artifact) : List Combination := as.foldl addToGroup []

/-- An artifact begins a group when its status is new, and is combined with the group of its status otherwise. -/
lemma addToGroup_cases (cs : List Combination) (a : Artifact) :
    (a.status ∉ cs.map Combination.status ∧ addToGroup cs a = cs ++ [.one a]) ∨
      ∃ before c after, cs = before ++ c :: after ∧ c.status = a.status ∧
        addToGroup cs a = before ++ .both c (.one a) :: after := by
  induction cs with
  | nil => exact .inl ⟨by simp, rfl⟩
  | cons c cs ih =>
    rw [addToGroup]
    split_ifs with same
    · exact .inr ⟨[], c, cs, rfl, same, rfl⟩
    · rcases ih with ⟨fresh, placed⟩ | ⟨before, d, after, rfl, same, placed⟩
      · refine .inl ⟨?_, by rw [placed]; rfl⟩
        rw [List.map_cons, List.mem_cons, not_or]
        exact ⟨Ne.symm same, fresh⟩
      · exact .inr ⟨c :: before, d, after, rfl, same, by rw [placed]; rfl⟩

namespace GroupsByStatus

variable {cs : List Combination} {as : List Artifact}

/-- The statuses of the groups are those of the artifacts. -/
lemma mem_statuses_iff (groups : GroupsByStatus cs as) {status : Int} :
    status ∈ cs.map Combination.status ↔ ∃ a ∈ as, a.status = status := by
  constructor
  · intro there
    obtain ⟨c, group, rfl⟩ := List.mem_map.1 there
    obtain ⟨a, member, same⟩ := c.exists_status
    exact ⟨a, groups.together.mem_iff.1 (List.mem_flatMap.2 ⟨c, group, member⟩), same⟩
  · rintro ⟨a, member, rfl⟩
    obtain ⟨c, group, member⟩ := List.mem_flatMap.1 (groups.together.mem_iff.2 member)
    exact List.mem_map.2 ⟨c, group, (groups.shared c group a member).symm⟩

/-- A group has all artifacts of its status. -/
lemma artifacts_perm (groups : GroupsByStatus cs as) {c : Combination} (group : c ∈ cs) :
    c.artifacts.Perm (as.filter fun a => a.status = c.status) := by
  -- The artifacts of the other groups have other statuses, so that nothing but the group is left of them.
  have alone : (cs.flatMap Combination.artifacts).filter (fun a => a.status = c.status) = c.artifacts := by
    obtain ⟨-, shared, apart⟩ := groups
    obtain ⟨before, after, rfl⟩ := List.append_of_mem group
    have others : ∀ d ∈ before ++ after, d.artifacts.filter (fun a => a.status = c.status) = [] := by
      intro d other
      have member : d ∈ before ++ c :: after := by
        rw [List.mem_append, List.mem_cons]
        exact (List.mem_append.1 other).imp_right .inr
      refine List.filter_eq_nil_iff.2 fun a there => ?_
      rw [shared d member a there, decide_eq_true_eq]
      rw [List.map_append, List.map_cons, List.nodup_middle, ← List.map_append, List.nodup_cons] at apart
      exact fun same => apart.1 (same ▸ List.mem_map_of_mem other)
    have own : c.artifacts.filter (fun a => a.status = c.status) = c.artifacts :=
      List.filter_eq_self.2 fun a there => decide_eq_true (shared c group a there)
    have none (ds : List Combination) (among : ∀ d ∈ ds, d ∈ before ++ after) :
        (ds.flatMap Combination.artifacts).filter (fun a => a.status = c.status) = [] := by
      rw [List.filter_flatMap, List.flatMap_eq_nil_iff]
      exact fun d member => others d (among d member)
    rw [List.flatMap_append, List.flatMap_cons, List.filter_append, List.filter_append, own,
      none before fun d => List.mem_append_left _, none after fun d => List.mem_append_right _,
      List.nil_append, List.append_nil]
  rw [← alone]
  exact groups.together.filter _

/-- The groups are combined and the results merged. What is merged has one response for each status, and it
documents the leaves of the artifacts of that status. -/
lemma documents (groups : GroupsByStatus cs as) :
    ∃ combined merged, cs.mapM Combination.result = .ok combined ∧ mergeResponses combined = .ok merged ∧
      merged.entries = combined.map (fun a => (toString a.status, a.response)) ∧
      (combined.map Artifact.status).Nodup ∧
      (∀ status, status ∈ combined.map Artifact.status ↔ ∃ a ∈ as, a.status = status) ∧
      ∀ a ∈ combined,
        a.leaves.Perm ((as.filter fun b => b.status = a.status).flatMap Artifact.leaves) := by
  have each : ∀ c ∈ cs, ∃ a, c.result = .ok a := fun c group =>
    (Combination.exists_result (groups.shared c group)).imp fun _ => And.left
  obtain ⟨combined, made⟩ := exists_mapM_eq_ok_iff.2 each
  have statuses : combined.map Artifact.status = cs.map Combination.status := by
    have related := (mapM_eq_ok_iff.1 made).imp fun _ _ => Combination.status_of_result
    exact (List.forall₂_eq_eq_eq ▸ List.forall₂_map_left_iff.2 (List.forall₂_map_right_iff.2 related.flip))
  have apart : (combined.map Artifact.status).Nodup := statuses ▸ groups.apart
  obtain ⟨merged, merges, entries⟩ := exists_mergeResponses apart
  refine ⟨combined, merged, made, merges, entries, apart, ?_, ?_⟩
  · intro status
    rw [statuses, groups.mem_statuses_iff]
  · intro a member
    obtain ⟨c, group, result⟩ := (mem_of_mapM_eq_ok made).1 member
    rw [(Combination.result_eq_ok_iff.1 result).2, Combination.status_of_result result]
    exact (groups.artifacts_perm group).flatMap_right _

lemma empty : GroupsByStatus [] [] := ⟨.refl _, by simp, by simp⟩

/-- The groups stay groups when an artifact is added to the one of its status. -/
lemma add (groups : GroupsByStatus cs as) (a : Artifact) : GroupsByStatus (addToGroup cs a) (as ++ [a]) := by
  obtain ⟨together, shared, apart⟩ := groups
  rcases addToGroup_cases cs a with ⟨fresh, placed⟩ | ⟨before, c, after, rfl, same, placed⟩
  · rw [placed]
    refine ⟨?_, ?_, ?_⟩
    · rw [List.flatMap_append]
      exact together.append_right [a]
    · intro c group b member
      rcases List.mem_append.1 group with there | new
      · exact shared c there b member
      · cases List.mem_singleton.1 new
        cases List.mem_singleton.1 member
        rfl
    · rw [List.map_append, List.map_singleton]
      exact apart.append (List.nodup_singleton _) (List.disjoint_singleton.2 fresh)
  · rw [placed]
    refine ⟨?_, ?_, ?_⟩
    · have moved : ((before ++ .both c (.one a) :: after).flatMap Combination.artifacts).Perm
          (a :: (before ++ c :: after).flatMap Combination.artifacts) := by
        simp only [List.flatMap_append, List.flatMap_cons, Combination.artifacts, List.append_assoc,
          List.singleton_append]
        rw [← List.append_assoc, ← List.append_assoc]
        exact List.perm_middle
      exact (moved.trans (together.cons a)).trans (List.perm_append_singleton a as).symm
    · intro d group b member
      rcases List.mem_append.1 group with front | back
      · exact shared d (List.mem_append_left _ front) b member
      · rcases List.mem_cons.1 back with rfl | back
        · rcases List.mem_append.1 member with there | new
          · exact shared c (List.mem_append_right _ List.mem_cons_self) b there
          · cases List.mem_singleton.1 new
            exact same.symm
        · exact shared d (List.mem_append_right _ (List.mem_cons_of_mem _ back)) b member
    · rwa [List.map_append, List.map_cons] at apart ⊢

/-- The groups stay groups when artifacts are added one after the other. -/
lemma run (groups : GroupsByStatus cs as) (rest : List Artifact) :
    GroupsByStatus (rest.foldl addToGroup cs) (as ++ rest) := by
  induction rest generalizing cs as with
  | nil => rwa [List.append_nil]
  | cons a rest ih =>
    rw [List.append_cons]
    exact ih (groups.add a)

end GroupsByStatus

/-- Artifacts can be grouped by status. -/
lemma groupsByStatus_byStatus (as : List Artifact) : GroupsByStatus (byStatus as) as :=
  GroupsByStatus.empty.run as

/-- Artifacts that document one error each are the row of their leaves. -/
lemma map_single_flatMap_leaves {as : List Artifact} (alone : ∀ a ∈ as, ∃ l, a = .single l) :
    (as.flatMap Artifact.leaves).map .single = as := by
  rw [List.map_flatMap]
  refine (List.flatMap_congr fun a member => ?_).trans (List.flatMap_singleton' as)
  obtain ⟨l, rfl⟩ := alone a member
  rfl

/-- Responses are merged just when no two artifacts have one status. They are then those of the artifacts, each
under the text of its status and in their order, and in any other order they are merged to an equal map. The
merge is refused for the first artifact whose status came before, in the name of the one that it belongs to. So
the artifacts of an accepted unit can be documented as a whole: grouped by status and combined, in whatever
way, they are merged, to one response for each of their statuses, and the leaves that are documented by it are
just the artifacts of that status. -/
theorem merge_documents_unit :
    (∀ as : List Artifact,
      ((∃ merged, mergeResponses as = .ok merged) ↔ (as.map Artifact.status).Nodup) ∧
      (∀ merged, mergeResponses as = .ok merged →
        merged.entries = as.map (fun a => (toString a.status, a.response)) ∧
        ∀ bs : List Artifact, bs.Perm as → ∃ merged', mergeResponses bs = .ok merged' ∧
          ∀ key, merged'.get? key = merged.get? key) ∧
      (¬(as.map Artifact.status).Nodup →
        ∃ before owner between a after, as = before ++ owner :: (between ++ a :: after) ∧
          ((before ++ owner :: between).map Artifact.status).Nodup ∧ owner.status = a.status ∧
          mergeResponses as = .error (.sharedStatus owner.name a.name (toString a.status)))) ∧
    ∀ (u : UnitDecl) (settings : Settings) (compiled : Compiled),
      (u.compile settings).outcome = .ok compiled →
      let documented := compiled.catalogue.artifacts.values
      GroupsByStatus (byStatus documented) documented ∧
      ∀ cs, GroupsByStatus cs documented →
        ∃ combined merged, cs.mapM Combination.result = .ok combined ∧ mergeResponses combined = .ok merged ∧
          merged.entries = combined.map (fun a => (toString a.status, a.response)) ∧
          (combined.map Artifact.status).Nodup ∧
          (∀ status, status ∈ combined.map Artifact.status ↔ ∃ a ∈ documented, a.status = status) ∧
          ∀ a ∈ combined, (a.leaves.map .single).Perm (documented.filter fun b => b.status = a.status) := by
  constructor
  · intro as
    refine ⟨⟨?_, ?_⟩, ?_, ?_⟩
    · rintro ⟨merged, made⟩
      exact (mergeResponses_eq_ok_iff.1 made).1
    · intro distinct
      exact (exists_mergeResponses distinct).imp fun _ => And.left
    · intro merged made
      obtain ⟨distinct, entries⟩ := mergeResponses_eq_ok_iff.1 made
      refine ⟨entries, fun bs perm => ?_⟩
      obtain ⟨merged', made', entries'⟩ := exists_mergeResponses ((perm.map _).nodup_iff.2 distinct)
      refine ⟨merged', made', fun key => Option.ext fun j => ?_⟩
      rw [OrderedMap.get?_eq_some_iff, OrderedMap.get?_eq_some_iff, entries, entries']
      exact (perm.map _).mem_iff
    · intro repeated
      obtain ⟨before, owner, between, a, after, rfl, distinct, same⟩ := exists_first_repeated repeated
      exact ⟨before, owner, between, a, after, rfl, distinct, same, mergeResponses_eq_error distinct same⟩
  · intro u settings compiled accepted documented
    refine ⟨groupsByStatus_byStatus documented, fun cs groups => ?_⟩
    obtain ⟨combined, merged, made, merges, entries, distinct, statuses, leaves⟩ := groups.documents
    refine ⟨combined, merged, made, merges, entries, distinct, statuses, fun a member => ?_⟩
    obtain ⟨-, rfl⟩ := UnitDecl.compile_eq_ok_iff.1 accepted
    have alone : ∀ b ∈ documented.filter (fun b => b.status = a.status), ∃ l, b = .single l := by
      intro b there
      obtain ⟨e, -, rfl⟩ := Catalogue.exists_case_of_mem_values (List.mem_of_mem_filter there)
      exact ⟨_, rfl⟩
    rw [← map_single_flatMap_leaves alone]
    exact (leaves a member).map _

/-- A unit with two cases under one status, and an internal case under the status of another. -/
def libraryUnit : UnitDecl where
  name := "Library"
  annotation := none
  cases := [
    ⟨"Lost", true, some ⟨[.text "request"], .ofList [("status", .int 404), ("code", .text "lost")]⟩⟩,
    ⟨"Flooded", true, some ⟨[.text "request"], .ofList [("status", .int 500), ("code", .text "flooded")]⟩⟩,
    ⟨"Moved", true, some ⟨[.text "request"], .ofList [("status", .int 404), ("code", .text "moved")]⟩⟩,
    ⟨"Burnt", true, some ⟨[.text "internal"], .empty⟩⟩]
  reserved := []

/-- That unit, compiled. -/
def library : Compiled := (libraryUnit.taxonomy libraryUnit.readable).compiled .default

/-- Its artifacts cannot be merged as they are, but grouped and combined they can. -/
theorem libraryUnit_documented : ∃ combined merged,
    (libraryUnit.compile .default).outcome = .ok library ∧
    mergeResponses library.catalogue.artifacts.values = .error (.sharedStatus "Lost" "Moved" "404") ∧
    (byStatus library.catalogue.artifacts.values).mapM Combination.result = .ok combined ∧
    combined.map Artifact.name = ["LostOrMoved", "FloodedOrInternalError"] ∧
    mergeResponses combined = .ok merged ∧ merged.keys = ["404", "500"] := by
  have accepted : (libraryUnit.compile .default).outcome = .ok library := by cbv
  have refused : mergeResponses library.catalogue.artifacts.values =
      .error (.sharedStatus "Lost" "Moved" "404") := by cbv
  have said : ((byStatus library.catalogue.artifacts.values).mapM Combination.result).map
      (List.map fun a => (a.name, toString a.status)) =
      .ok [("LostOrMoved", "404"), ("FloodedOrInternalError", "500")] := by cbv
  obtain ⟨groups, documents⟩ := merge_documents_unit.2 libraryUnit .default _ accepted
  obtain ⟨combined, merged, made, merges, entries, -⟩ := documents _ groups
  rw [made] at said
  have said := Except.ok.inj said
  refine ⟨combined, merged, accepted, refused, made, ?_, merges, ?_⟩
  · simpa [Function.comp_def] using congrArg (List.map Prod.fst) said
  · rw [OrderedMap.keys, entries]
    simpa [Function.comp_def] using congrArg (List.map Prod.snd) said

end Errata.Docs
