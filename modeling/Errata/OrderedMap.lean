/-!
# Ordered maps

A finite map that remembers the order in which its keys first came. A key that comes again keeps its
place and takes the new value.
-/

namespace Errata

/-- A finite map with its keys in the order of their first insertion. -/
structure OrderedMap (α : Type u) (β : Type v) [DecidableEq α] where
  entries : List (α × β)
  nodup : (entries.map Prod.fst).Nodup

namespace OrderedMap

variable {α : Type u} {β : Type v} [DecidableEq α]

/-- Replaces the value at a key, or adds the entry at the end. -/
def put (k : α) (v : β) : List (α × β) → List (α × β)
  | [] => [(k, v)]
  | e :: es => if e.1 = k then (k, v) :: es else e :: put k v es

theorem mem_keys_put {k x : α} {v : β} {es : List (α × β)} :
    x ∈ (put k v es).map Prod.fst ↔ x = k ∨ x ∈ es.map Prod.fst := by
  induction es with
  | nil => simp [put]
  | cons e es ih =>
    by_cases h : e.1 = k
    · simp [put, h]
    · simp only [put, h, if_false, List.map_cons, List.mem_cons, ih]
      grind

theorem nodup_put {k : α} {v : β} {es : List (α × β)} (h : (es.map Prod.fst).Nodup) :
    ((put k v es).map Prod.fst).Nodup := by
  induction es with
  | nil => simp [put]
  | cons e es ih =>
    rw [List.map_cons, List.nodup_cons] at h
    by_cases hk : e.1 = k
    · subst hk
      simpa [put] using h
    · rw [put, if_neg hk, List.map_cons, List.nodup_cons, mem_keys_put]
      exact ⟨fun hm => hm.elim hk h.1, ih h.2⟩

/-- The map without entries. -/
def empty : OrderedMap α β := ⟨[], by simp⟩

instance : Inhabited (OrderedMap α β) := ⟨empty⟩

/-- Sets the value at a key. -/
def insert (m : OrderedMap α β) (k : α) (v : β) : OrderedMap α β :=
  ⟨put k v m.entries, nodup_put m.nodup⟩

/-- Sets the values at a list of keys, one after the other. -/
def insertMany (m : OrderedMap α β) (es : List (α × β)) : OrderedMap α β :=
  es.foldl (fun m e => m.insert e.1 e.2) m

/-- The map of a list of entries. -/
def ofList (es : List (α × β)) : OrderedMap α β :=
  empty.insertMany es

/-- Sets every entry of another map. -/
def update (m n : OrderedMap α β) : OrderedMap α β :=
  m.insertMany n.entries

/-- Removes a key with its value. -/
def erase (m : OrderedMap α β) (k : α) : OrderedMap α β :=
  ⟨m.entries.filter fun e => e.1 ≠ k, (List.filter_sublist.map Prod.fst).nodup m.nodup⟩

/-- The value at a key. -/
def get? (m : OrderedMap α β) (k : α) : Option β :=
  (m.entries.find? fun e => e.1 = k).map Prod.snd

/-- The keys in order. -/
def keys (m : OrderedMap α β) : List α := m.entries.map Prod.fst

/-- The values in the order of their keys. -/
def values (m : OrderedMap α β) : List β := m.entries.map Prod.snd

/-- The number of keys. -/
def size (m : OrderedMap α β) : Nat := m.entries.length

/-- The map has a value at the key. -/
def contains (m : OrderedMap α β) (k : α) : Bool := m.entries.any fun e => e.1 = k

/-- Applies a function to every value. -/
def mapValues {γ : Type w} (f : β → γ) (m : OrderedMap α β) : OrderedMap α γ :=
  ⟨m.entries.map fun e => (e.1, f e.2), by
    have h : (m.entries.map fun e => (e.1, f e.2)).map Prod.fst = m.entries.map Prod.fst := by
      simp [Function.comp_def]
    exact h ▸ m.nodup⟩

theorem find?_put {k x : α} {v : β} {es : List (α × β)} :
    ((put k v es).find? fun e => e.1 = x).map Prod.snd =
      if x = k then some v else (es.find? fun e => e.1 = x).map Prod.snd := by
  induction es with
  | nil => by_cases h : x = k <;> simp [put, h, eq_comm]
  | cons e es ih => grind [put]

/-- The last value set at a key is the one found there. -/
@[simp] theorem get?_insert (m : OrderedMap α β) (k x : α) (v : β) :
    (m.insert k v).get? x = if x = k then some v else m.get? x :=
  find?_put

@[simp] theorem get?_empty (k : α) : (empty : OrderedMap α β).get? k = none := rfl

/-- What is found at a key is the entry with that key. -/
theorem get?_eq_some_iff {m : OrderedMap α β} {k : α} {v : β} :
    m.get? k = some v ↔ (k, v) ∈ m.entries := by
  obtain ⟨es, nodup⟩ := m
  simp only [get?]
  induction es with
  | nil => simp
  | cons e es ih =>
    rw [List.map_cons, List.nodup_cons] at nodup
    rw [List.find?_cons, List.mem_cons]
    by_cases hk : e.1 = k
    · subst hk
      have fresh : (e.1, v) ∉ es := fun h => nodup.1 (List.mem_map.2 ⟨_, h, rfl⟩)
      simp [fresh, Prod.ext_iff, eq_comm]
    · have other : (k, v) ≠ e := fun h => hk (h ▸ rfl)
      simp [hk, other, ih nodup.2]

/-- A key that is removed has no value, and the others keep theirs. -/
@[simp] theorem get?_erase (m : OrderedMap α β) (k x : α) :
    (m.erase k).get? x = if x = k then none else m.get? x := by
  have others : ∀ v, (m.erase k).get? x = some v ↔ m.get? x = some v ∧ x ≠ k := by
    intro v
    rw [get?_eq_some_iff, get?_eq_some_iff, erase, List.mem_filter]
    simp
  refine Option.ext fun v => ?_
  rw [others]
  by_cases same : x = k <;> simp [same]

/-- A new key comes at the end. -/
theorem put_of_not_mem {k : α} {v : β} {es : List (α × β)} (fresh : k ∉ es.map Prod.fst) :
    put k v es = es ++ [(k, v)] := by
  induction es with
  | nil => rfl
  | cons e es ih =>
    rw [List.map_cons, List.mem_cons, not_or] at fresh
    rw [put, if_neg (Ne.symm fresh.1), ih fresh.2]
    rfl

/-- Keys that are new and distinct come at the end, in their order. -/
theorem entries_insertMany {m : OrderedMap α β} {es : List (α × β)}
    (nodup : ((m.entries ++ es).map Prod.fst).Nodup) : (m.insertMany es).entries = m.entries ++ es := by
  induction es generalizing m with
  | nil => simp [insertMany]
  | cons e es ih =>
    have fresh : e.1 ∉ m.entries.map Prod.fst := by
      intro there
      rw [List.map_append, List.nodup_append] at nodup
      exact nodup.2.2 _ there e.1 (by simp) rfl
    have step : (m.insert e.1 e.2).entries = m.entries ++ [e] := put_of_not_mem fresh
    show ((m.insert e.1 e.2).insertMany es).entries = _
    rw [ih (by simpa [step] using nodup), step, List.append_assoc]
    rfl

/-- Distinct keys all stay as they are. -/
theorem entries_ofList {es : List (α × β)} (nodup : (es.map Prod.fst).Nodup) :
    (ofList es).entries = es :=
  entries_insertMany (m := empty) nodup

theorem contains_iff {m : OrderedMap α β} {k : α} : m.contains k = true ↔ ∃ v, m.get? k = some v := by
  simp [contains, get?_eq_some_iff]

theorem mem_keys_iff {m : OrderedMap α β} {k : α} : k ∈ m.keys ↔ ∃ v, m.get? k = some v := by
  simp [keys, get?_eq_some_iff]

theorem mem_values_iff {m : OrderedMap α β} {v : β} : v ∈ m.values ↔ ∃ k, m.get? k = some v := by
  simp [values, get?_eq_some_iff]

/-- Of the values that are set at a key one after the other, the last is found there. -/
theorem get?_insertMany (m : OrderedMap α β) (es : List (α × β)) (k : α) :
    (m.insertMany es).get? k =
      ((es.filter fun e => e.1 = k).getLast?.map Prod.snd).or (m.get? k) := by
  induction es generalizing m with
  | nil => rfl
  | cons e es ih =>
    show ((m.insert e.1 e.2).insertMany es).get? k = _
    rw [ih, get?_insert]
    by_cases same : e.1 = k
    · rw [List.filter_cons_of_pos (by simpa using same), List.getLast?_cons, if_pos same.symm]
      cases (es.filter fun e => e.1 = k).getLast? <;> rfl
    · rw [List.filter_cons_of_neg (by simpa using same), if_neg (Ne.symm same)]

theorem get?_ofList (es : List (α × β)) (k : α) :
    (ofList es).get? k = (es.filter fun e => e.1 = k).getLast?.map Prod.snd := by
  rw [ofList, get?_insertMany, get?_empty, Option.or_none]

/-- The values of the map of a list of entries are values of the list. -/
theorem mem_of_mem_values_ofList {es : List (α × β)} {v : β} (member : v ∈ (ofList es).values) :
    v ∈ es.map Prod.snd := by
  obtain ⟨k, found⟩ := mem_values_iff.1 member
  rw [get?_ofList, Option.map_eq_some_iff] at found
  obtain ⟨e, last, rfl⟩ := found
  exact List.mem_map_of_mem (List.mem_filter.1 (List.mem_of_getLast? last)).1

/-- Where no key comes twice, it does not matter in which order the entries are set. -/
theorem get?_ofList_perm {es es' : List (α × β)} (perm : es.Perm es') (nodup : (es.map Prod.fst).Nodup)
    (k : α) : (ofList es).get? k = (ofList es').get? k := by
  have nodup' : (es'.map Prod.fst).Nodup := (perm.map Prod.fst).nodup_iff.1 nodup
  refine Option.ext fun v => ?_
  rw [get?_eq_some_iff, get?_eq_some_iff, entries_ofList nodup, entries_ofList nodup']
  exact perm.mem_iff

/-- A map is that of its entries. -/
theorem ofList_entries (m : OrderedMap α β) : ofList m.entries = m := by
  have same := entries_ofList m.nodup
  obtain ⟨es, nodup⟩ := m
  cases made : ofList es with
  | mk es' nodup' =>
    rw [made] at same
    cases same
    rfl

/-- What another map has at a key hides what was there before. -/
theorem get?_update (m n : OrderedMap α β) (k : α) :
    (m.update n).get? k = (n.get? k).or (m.get? k) := by
  have found := get?_ofList n.entries k
  rw [ofList_entries] at found
  rw [update, get?_insertMany, found]

end OrderedMap

end Errata
