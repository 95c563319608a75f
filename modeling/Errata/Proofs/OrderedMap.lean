import Errata.OrderedMap
import Mathlib

/-!
# Updating ordered maps

A map is told by its keys in order and by what is found at each (`OrderedMap.ext`). Under an update every key
keeps the place where it first came (`keys_update`) and takes the value with which it came last (`get?_update`).
So updates are associative, the empty map changes nothing, and neither does a map that is set over itself.
-/

namespace Errata.OrderedMap

variable {α : Type u} {β : Type v} [DecidableEq α]

/-- Where no two entries have one key, each is found by its own. -/
lemma lookup_of_mem {l : List (α × β)} {k : α} {v : β}
    (distinct : (l.map Prod.fst).Nodup) (member : (k, v) ∈ l) : l.lookup k = some v := by
  obtain ⟨before, after, rfl⟩ := List.append_of_mem member
  rw [List.map_append, List.map_cons] at distinct
  refine List.lookup_eq_some_iff.2 ⟨before, after, rfl, fun p there => ?_⟩
  have apart := List.disjoint_of_nodup_append distinct (List.mem_map_of_mem there)
  exact bne_iff_ne.2 fun same => apart (same ▸ List.mem_cons_self)

/-- Nothing is found where no entry has the key. -/
lemma lookup_eq_none {l : List (α × β)} {k : α} : l.lookup k = none ↔ k ∉ l.map Prod.fst := by
  rw [List.lookup_eq_none_iff, List.mem_map]
  simp only [not_exists, not_and, bne_iff_ne, ne_eq, eq_comm (a := k)]

/-- What is found is one of the entries. -/
lemma mem_of_lookup {l : List (α × β)} {k : α} {v : β} (found : l.lookup k = some v) : (k, v) ∈ l := by
  obtain ⟨before, after, rfl, -⟩ := List.lookup_eq_some_iff.1 found
  exact List.mem_append_right _ List.mem_cons_self

/-- Nothing is found at what is no key. -/
lemma get?_eq_none_iff {m : OrderedMap α β} {k : α} : m.get? k = none ↔ k ∉ m.keys := by
  rw [mem_keys_iff, not_exists, Option.eq_none_iff_forall_ne_some]

/-- The entries of a map are its keys with what is found at them. -/
lemma contains_ofList {es : List (α × β)} {k : α} : (ofList es).contains k = true ↔ k ∈ es.map Prod.fst := by
  rw [contains_iff]
  simp only [get?_ofList, Option.map_eq_some_iff]
  constructor
  · rintro ⟨v, e, last, rfl⟩
    obtain ⟨there, same⟩ := List.mem_filter.1 (List.mem_of_getLast? last)
    exact List.mem_map.2 ⟨e, there, of_decide_eq_true same⟩
  · intro there
    obtain ⟨e, member, rfl⟩ := List.mem_map.1 there
    have found : e ∈ es.filter fun e' => e'.1 = e.1 := List.mem_filter.2 ⟨member, decide_eq_true rfl⟩
    exact ⟨_, _, List.getLast?_eq_some_getLast (List.ne_nil_of_mem found), rfl⟩

lemma entries_eq (m : OrderedMap α β) : m.entries = m.keys.filterMap fun k => (m.get? k).map fun v => (k, v) := by
  rw [keys, List.filterMap_map]
  refine (List.filterMap_some.symm.trans (List.filterMap_congr fun e member => ?_))
  show some e = (m.get? e.1).map fun v => (e.1, v)
  rw [get?_eq_some_iff.2 member]
  rfl

/-- Maps with the same keys in the same order, and with the same values at them, are the same. -/
lemma ext {m n : OrderedMap α β} (keys : m.keys = n.keys) (values : ∀ k, m.get? k = n.get? k) : m = n := by
  have entries : m.entries = n.entries := by
    rw [entries_eq m, entries_eq n, keys]
    simp only [values]
  rw [← ofList_entries m, entries, ofList_entries]

/-- A key that comes again keeps its place, and a new key comes at the end. -/
lemma keys_insert (m : OrderedMap α β) (k : α) (v : β) :
    (m.insert k v).keys = m.keys ++ if k ∈ m.keys then [] else [k] := by
  show (put k v m.entries).map Prod.fst = m.entries.map Prod.fst ++ if k ∈ m.entries.map Prod.fst then [] else [k]
  induction m.entries with
  | nil => rfl
  | cons e es ih =>
    by_cases same : e.1 = k
    · simp [put, same]
    · rw [put, if_neg same, List.map_cons, ih, List.map_cons, List.cons_append]
      simp only [List.mem_cons, Ne.symm same, false_or]

/-- The keys that are set one after the other come at the end, as far as they are new. -/
lemma keys_insertMany (m : OrderedMap α β) {es : List (α × β)} (nodup : (es.map Prod.fst).Nodup) :
    (m.insertMany es).keys = m.keys ++ (es.map Prod.fst).filter fun k => k ∉ m.keys := by
  induction es generalizing m with
  | nil => simp [insertMany]
  | cons e es ih =>
    obtain ⟨fresh, nodup⟩ := List.nodup_cons.1 nodup
    show ((m.insert e.1 e.2).insertMany es).keys = _
    rw [ih _ nodup, keys_insert, List.map_cons]
    by_cases known : e.1 ∈ m.keys
    · rw [if_pos known, List.append_nil, List.filter_cons_of_neg (by simpa using known)]
    · -- The new key comes no more, so that it makes no difference to the others.
      have others : (es.map Prod.fst).filter (fun k => k ∉ m.keys ++ [e.1]) =
          (es.map Prod.fst).filter fun k => k ∉ m.keys := by
        refine List.filter_congr fun k member => ?_
        have differ : k ≠ e.1 := fun same => fresh (same ▸ member)
        simp [differ]
      rw [if_neg known, others, List.filter_cons_of_pos (by simpa using known), List.append_assoc]
      rfl

/-- The keys of an update: those that were there, and behind them the new ones. -/
lemma keys_update (m n : OrderedMap α β) :
    (m.update n).keys = m.keys ++ n.keys.filter fun k => k ∉ m.keys :=
  keys_insertMany m n.nodup

/-- Updates are associative. -/
lemma update_assoc (l m n : OrderedMap α β) : (l.update m).update n = l.update (m.update n) := by
  refine ext ?_ fun k => ?_
  · simp only [keys_update, List.filter_append, List.append_assoc, List.filter_filter, List.mem_append,
      List.mem_filter]
    congr 2
    refine List.filter_congr fun k _ => ?_
    by_cases k ∈ l.keys <;> simp_all
  · simp only [get?_update, Option.or_assoc]

/-- A map that has nothing new changes nothing. -/
lemma update_of_forall_get? {m n : OrderedMap α β} (known : ∀ k v, n.get? k = some v → m.get? k = some v) :
    m.update n = m := by
  refine ext ?_ fun k => ?_
  · have there : ∀ k ∈ n.keys, ¬decide (k ∉ m.keys) = true := by
      intro k member
      obtain ⟨v, found⟩ := mem_keys_iff.1 member
      simpa using mem_keys_iff.2 ⟨v, known k v found⟩
    rw [keys_update, List.filter_eq_nil_iff.2 there, List.append_nil]
  · rw [get?_update]
    cases found : n.get? k with
    | none => rfl
    | some v => rw [known k v found, Option.some_or]

/-- A map that is set over itself stays as it is. -/
lemma update_self (m : OrderedMap α β) : m.update m = m := update_of_forall_get? fun _ _ found => found

lemma empty_update (m : OrderedMap α β) : empty.update m = m := ofList_entries m

/-- What is set again as it is makes no difference. -/
lemma insert_of_get? {m : OrderedMap α β} {k : α} {v : β} (found : m.get? k = some v) : m.insert k v = m := by
  refine ext ?_ fun x => ?_
  · rw [keys_insert, if_pos (mem_keys_iff.2 ⟨v, found⟩), List.append_nil]
  · rw [get?_insert]
    split_ifs with same
    · rw [same, found]
    · rfl

/-- The entry that is set last is set in the map of the others. -/
lemma ofList_concat (es : List (α × β)) (e : α × β) : ofList (es ++ [e]) = (ofList es).insert e.1 e.2 :=
  List.foldl_append

/-- A new key comes behind all entries. -/
lemma entries_insert_of_not_mem {m : OrderedMap α β} {k : α} (fresh : k ∉ m.keys) (v : β) :
    (m.insert k v).entries = m.entries ++ [(k, v)] :=
  put_of_not_mem fresh

/-- What is set in the map that is set over another is set in the result. -/
lemma update_insert (m n : OrderedMap α β) (k : α) (v : β) :
    m.update (n.insert k v) = (m.update n).insert k v := by
  have alone : n.insert k v = n.update (ofList [(k, v)]) := rfl
  rw [alone, ← update_assoc]
  rfl

/-- A map is another one with a third set over it: every key keeps the place where it first comes, and has the
value with which it comes last. -/
structure IsUpdate (r m n : OrderedMap α β) : Prop where
  keys : r.keys = m.keys ++ n.keys.filter fun k => k ∉ m.keys
  values : ∀ k, r.get? k = (n.get? k).or (m.get? k)

lemma isUpdate_update (m n : OrderedMap α β) : (m.update n).IsUpdate m n := ⟨keys_update m n, get?_update m n⟩

end Errata.OrderedMap
