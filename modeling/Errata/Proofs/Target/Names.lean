import Errata.Target.Resolve
import Mathlib

/-!
# Dotted names

A name is a single part, or the name of a package with a part behind its last dot (`dotted_induction`). The names
that are loaded for it follow this: a part is loaded by itself, and any other name after those that are loaded for
the package (`ancestry_inside`). So whatever is loaded on the way to a module is loaded after what its own name asks
for (`ancestry_of_split`), and these are the names that are around the module (`Target.isAround_iff`).
-/

namespace Errata

/-- What stands behind the last `c` of a list comes first from behind. -/
lemma takeWhile_reverse_of_not_mem {c : Char} {first last : List Char} (clean : c ∉ last) :
    (first ++ c :: last).reverse.takeWhile (fun d => decide (d ≠ c)) = last.reverse := by
  have all : ∀ d ∈ last.reverse, decide (d ≠ c) = true := by
    intro d member
    have there := List.mem_reverse.1 member
    exact decide_eq_true fun same => clean (same ▸ there)
  rw [List.reverse_append, List.reverse_cons, List.append_assoc, List.takeWhile_append_of_pos all]
  simp

namespace Loader

/-- A single part of a name. -/
def IsPart (name : String) : Prop := '.' ∉ name.toList

instance (name : String) : Decidable (IsPart name) := inferInstanceAs (Decidable ('.' ∉ name.toList))

/-- The name of a part of a package. -/
def inside (parent part : String) : String := parent ++ "." ++ part

lemma toList_inside (parent part : String) : (inside parent part).toList = parent.toList ++ '.' :: part.toList := by
  simp [inside]

lemma splitLast_part {part : String} (single : IsPart part) : (splitLast part).2 = part := by
  have all : ∀ c ∈ part.toList.reverse, decide (c ≠ '.') = true := by
    intro c member
    have there := List.mem_reverse.1 member
    exact decide_eq_true fun same => single (same ▸ there)
  simp only [splitLast]
  rw [List.takeWhile_eq_self_iff.2 all, List.reverse_reverse, String.ofList_toList]

lemma splitLast_inside {parent part : String} (single : IsPart part) :
    splitLast (inside parent part) = (parent, part) := by
  have before : (inside parent part).length - part.toList.length - 1 = parent.toList.length := by
    rw [← String.length_toList, toList_inside, List.length_append, List.length_cons]
    omega
  simp only [splitLast, toList_inside, takeWhile_reverse_of_not_mem single, List.reverse_reverse, before,
    List.take_left, String.ofList_toList]

/-- A name is a part, or stands in a package. -/
lemma part_or_inside (name : String) : IsPart name ∨ ∃ parent part, IsPart part ∧ name = inside parent part := by
  by_cases dotted : '.' ∈ name.toList.reverse
  · -- The last dot is the first one from behind.
    obtain ⟨behind, before, reversed, clean⟩ := List.eq_append_cons_of_mem dotted
    refine .inr ⟨String.ofList before.reverse, String.ofList behind.reverse, ?_, ?_⟩
    · simpa [IsPart] using clean
    · rw [← String.toList_inj, toList_inside, ← List.reverse_inj, reversed]
      simp
  · exact .inl fun member => dotted (List.mem_reverse.2 member)

/-- Induction along the parts of a name. -/
@[elab_as_elim]
lemma dotted_induction {motive : String → Prop} (part : ∀ part, IsPart part → motive part)
    (inside : ∀ parent part, IsPart part → motive parent → motive (inside parent part)) (name : String) :
    motive name := by
  induction h : name.toList.length using Nat.strong_induction_on generalizing name with
  | _ n ih =>
    obtain single | ⟨parent, last, single, rfl⟩ := part_or_inside name
    · exact part name single
    · refine inside parent last single (ih _ ?_ parent rfl)
      rw [← h, toList_inside, List.length_append, List.length_cons]
      omega

lemma not_isPart_inside (parent part : String) : ¬IsPart (inside parent part) := by
  intro single
  rw [IsPart, toList_inside] at single
  exact single (List.mem_append_right _ List.mem_cons_self)

/-- The package and the part of a name are determined. -/
lemma inside_inj {parent parent' part part' : String} (single : IsPart part) (single' : IsPart part')
    (same : inside parent part = inside parent' part') : parent = parent' ∧ part = part' := by
  have split : splitLast (inside parent part) = (parent, part) := splitLast_inside single
  rw [same, splitLast_inside single'] at split
  cases split
  exact ⟨rfl, rfl⟩

/-! ## What is loaded for a name -/

/-- The places of the dots of a name. -/
def dots (cs : List Char) : List Nat := (List.range cs.length).filter fun i => cs[i]? == some '.'

lemma dots_of_not_mem {cs : List Char} (clean : '.' ∉ cs) : dots cs = [] := by
  refine List.filter_eq_nil_iff.2 fun i _ dot => ?_
  exact clean (List.mem_of_getElem? (beq_iff_eq.1 dot))

lemma dots_append_cons {first last : List Char} (clean : '.' ∉ last) :
    dots (first ++ '.' :: last) = dots first ++ [first.length] := by
  have before : (List.range first.length).filter (fun i => (first ++ '.' :: last)[i]? == some '.') = dots first := by
    refine List.filter_congr fun i member => ?_
    rw [List.getElem?_append_left (List.mem_range.1 member)]
  have behind : (List.range (last.length + 1)).filter (fun i => ('.' :: last)[i]? == some '.') = [0] := by
    rw [List.range_succ_eq_map, List.filter_cons_of_pos rfl, List.filter_map]
    have none := dots_of_not_mem clean
    exact congrArg (fun is => 0 :: is.map Nat.succ) none
  rw [dots, List.length_append, List.range_add, List.filter_append, before, List.filter_map, List.length_cons]
  have moved : (fun i => (first ++ '.' :: last)[i]? == some '.') ∘ (first.length + ·) =
      fun i => ('.' :: last)[i]? == some '.' := by
    funext i
    rw [Function.comp_apply, List.getElem?_append_right (Nat.le_add_right _ _), Nat.add_sub_cancel_left]
  rw [moved, behind]
  rfl

lemma ancestry_eq (name : String) :
    ancestry name = (dots name.toList).map (fun i => String.ofList (name.toList.take i)) ++ [name] := rfl

lemma ancestry_part {part : String} (single : IsPart part) : ancestry part = [part] := by
  rw [ancestry_eq, dots_of_not_mem single]
  rfl

lemma ancestry_inside {parent part : String} (single : IsPart part) :
    ancestry (inside parent part) = ancestry parent ++ [inside parent part] := by
  have outer : ∀ i ∈ dots parent.toList, String.ofList ((inside parent part).toList.take i) =
      String.ofList (parent.toList.take i) := by
    intro i member
    have below := List.mem_range.1 (List.mem_of_mem_filter member)
    rw [toList_inside, List.take_append_of_le_length (Nat.le_of_lt below)]
  rw [ancestry_eq, ancestry_eq, toList_inside, dots_append_cons single, List.map_append, List.map_singleton,
    List.take_left, String.ofList_toList, ← toList_inside, List.map_congr_left outer]

lemma self_mem_ancestry (name : String) : name ∈ ancestry name := by
  rw [ancestry_eq]
  exact List.mem_append_right _ (List.mem_singleton_self _)

lemma parts_part {part : String} (single : IsPart part) : parts part = [part] := by
  rw [parts, ancestry_part single, List.map_singleton, splitLast_part single]

lemma parts_inside {parent part : String} (single : IsPart part) :
    parts (inside parent part) = parts parent ++ [part] := by
  rw [parts, ancestry_inside single, List.map_append, List.map_singleton, splitLast_inside single]
  rfl

lemma parts_ne_nil (name : String) : parts name ≠ [] := by
  rw [parts, ancestry_eq, List.map_append]
  simp

/-- A name is its parts with dots between them. -/
lemma intercalate_parts (name : String) : ".".intercalate (parts name) = name := by
  induction name using dotted_induction with
  | part part single =>
    rw [parts_part single]
    rfl
  | inside parent part single ih =>
    rw [parts_inside single, String.intercalate_append_of_ne_nil (parts_ne_nil parent) (by simp), ih]
    rfl

lemma dropLast_append_getLastD (name : String) :
    (parts name).dropLast ++ [(parts name).getLastD ""] = parts name := by
  rw [List.getLastD_eq_getLast?, List.getLast?_eq_some_getLast (parts_ne_nil name), Option.getD_some,
    List.dropLast_concat_getLast]

/-- What is loaded before a name on the way to another is what is loaded before it on its own way. -/
lemma ancestry_of_split {ref name : String} {before after : List String}
    (split : ancestry ref = before ++ name :: after) : ancestry name = before ++ [name] := by
  induction ref using dotted_induction generalizing after with
  | part ref single =>
    rw [ancestry_part single] at split
    cases before with
    | nil =>
      cases split
      exact ancestry_part single
    | cons a before => simp at split
  | inside parent part single ih =>
    rw [ancestry_inside single] at split
    obtain rfl | ⟨rest, last, rfl⟩ := List.eq_nil_or_concat after
    · -- It is the name itself.
      obtain ⟨rfl, same⟩ := List.append_inj' split rfl
      cases same
      exact ancestry_inside single
    · rw [List.concat_eq_append, ← List.cons_append, ← List.append_assoc] at split
      exact ih (List.append_inj' split rfl).1

end Loader

/-- The names around a module are those that are loaded for it. -/
lemma Target.isAround_iff {missing ref : String} : isAround missing ref = true ↔ missing ∈ Loader.ancestry ref := by
  rw [isAround, Bool.or_eq_true, decide_eq_true_iff, List.isPrefixOf_iff_prefix, Loader.ancestry_eq, List.mem_append,
    List.mem_map, List.mem_singleton, or_comm]
  refine or_congr_left ?_
  constructor
  · rintro ⟨rest, whole⟩
    have short : missing.toList.length < ref.toList.length := by
      rw [← whole, List.length_append, List.length_append, List.length_singleton]
      omega
    refine ⟨missing.toList.length, List.mem_filter.2 ⟨List.mem_range.2 short, ?_⟩, ?_⟩
    · simp [← whole]
    · rw [← whole, List.append_assoc, List.take_left, String.ofList_toList]
  · rintro ⟨i, dot, rfl⟩
    have there := beq_iff_eq.1 (List.mem_filter.1 dot).2
    obtain ⟨bound, there⟩ := List.getElem?_eq_some_iff.1 there
    refine ⟨ref.toList.drop (i + 1), ?_⟩
    rw [String.toList_ofList, List.append_assoc, List.singleton_append, ← there, List.getElem_cons_drop,
      List.take_append_drop]

end Errata
