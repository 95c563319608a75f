import Errata.Docs.Attribute
import Errata.Proofs.Compile.Lookup
import Errata.Proofs.OrderedMap

/-!
# Reaching an artifact by name

An artifact is an entry of its catalogue, and an attribute as well unless the catalogue has an attribute of that name
of its own. Of its own attributes some have public names, and the others are hidden (`public_or_hidden`). So where no
case has a name of either kind, both ways lead to the same artifact for every documented name, and any name that is
neither documented nor an attribute of catalogues is not found (`accessible_ofTaxonomy`).
-/

namespace Errata.Docs.Catalogue

/-- The attributes that every catalogue has of its own. -/
def ownAttributes : List String :=
  publicAttributes ++ operatorMethods ++ emptyAttributes ++ descriptions.map Prod.fst ++ plainAttributes.map Prod.fst

/-- The attributes of catalogues have public names, or are hidden. -/
lemma public_or_hidden : ∀ name ∈ ownAttributes, name ∈ publicAttributes ∨ isHidden name = true := by
  decide

/-- Every artifact is both an entry and an attribute, what catalogues have of their own is neither hidden by an artifact
nor hides one, and any other name is not found. -/
structure Accessible (c : Catalogue) : Prop where
  entry : ∀ name a, c.getAttribute name = .ok (.artifact a) ↔ c.entry name = .ok a
  named : ∀ name a, c.entry name = .ok a → name ∈ c.names ∧ a.name = name
  own : ∀ name ∈ ownAttributes, name ∉ c.names ∧ ∃ x, c.getAttribute name = .ok x ∧ ∀ a, x ≠ .artifact a
  methods : ∀ name ∈ publicMethods, c.getAttribute name = .ok (.method name)
  typeName : c.getAttribute typeNameAttribute = .ok (.text c.typeName)
  missing : ∀ name, name ∉ c.names → name ∉ ownAttributes →
    c.getAttribute name = .error (if isHidden name then .hidden name else .undocumented c.typeName name)

variable {c : Catalogue} {name : String}

/-- A catalogue answers a name itself, if it has an attribute of that name of its own. Any other name is looked up among
the artifacts, unless it is hidden. -/
lemma getAttribute_cases (c : Catalogue) (name : String) :
    (name ∈ ownAttributes ∧ ∃ x, c.getAttribute name = .ok x ∧ ∀ a, x ≠ .artifact a) ∨
      name ∉ ownAttributes ∧ c.getAttribute name =
        if isHidden name then .error (.hidden name)
        else
          match c.get? name with
          | some a => .ok (.artifact a)
          | none => .error (.undocumented c.typeName name) := by
  have own : name ∈ ownAttributes ↔
      (publicMethods.contains name || operatorMethods.contains name) = true ∨ name = typeNameAttribute ∨
        emptyAttributes.contains name = true ∨ name ∈ descriptions.map Prod.fst ∨
          name ∈ plainAttributes.map Prod.fst := by
    simp only [ownAttributes, publicAttributes, List.mem_append, List.mem_cons, Bool.or_eq_true, List.contains_iff_mem]
    tauto
  rw [own]
  by_cases method : (publicMethods.contains name || operatorMethods.contains name) = true
  · refine .inl ⟨.inl method, .method name, ?_, nofun⟩
    rw [getAttribute, if_pos method]
  by_cases typed : name = typeNameAttribute
  · refine .inl ⟨.inr (.inl typed), .text c.typeName, ?_, nofun⟩
    rw [getAttribute, if_neg method, if_pos typed]
  by_cases empty : emptyAttributes.contains name = true
  · refine .inl ⟨.inr (.inr (.inl empty)), .nothing, ?_, nofun⟩
    rw [getAttribute, if_neg method, if_neg typed, if_pos empty]
  rw [getAttribute, if_neg method, if_neg typed, if_neg empty]
  cases described : descriptions.lookup name with
  | some s =>
    exact .inl ⟨.inr (.inr (.inr (.inl (List.mem_map_of_mem (OrderedMap.mem_of_lookup described))))), .text s, rfl, nofun⟩
  | none =>
    have undescribed := OrderedMap.lookup_eq_none.1 described
    cases plain : plainAttributes.lookup name with
    | some type =>
      exact .inl ⟨.inr (.inr (.inr (.inr (List.mem_map_of_mem (OrderedMap.mem_of_lookup plain))))), .plain type, rfl, nofun⟩
    | none =>
      have unlisted := OrderedMap.lookup_eq_none.1 plain
      refine .inr ⟨?_, rfl⟩
      rintro (taken | taken | taken | taken | taken)
      · exact method taken
      · exact typed taken
      · exact empty taken
      · exact undescribed taken
      · exact unlisted taken

/-- An entry is found under a documented name. -/
lemma entry_eq_ok_iff {a : Artifact} : c.entry name = .ok a ↔ c.get? name = some a := by
  unfold entry
  cases c.get? name with
  | some b => simp
  | none => exact ⟨nofun, nofun⟩

/-- Every artifact is within reach where each has its own name, and catalogues have no attribute of it. -/
lemma accessible_of_shown (named : ∀ name a, c.get? name = some a → a.name = name)
    (shown : ∀ name ∈ c.names, isHidden name = false) (free : ∀ name ∈ c.names, name ∉ publicAttributes) :
    c.Accessible := by
  have apart : ∀ name ∈ ownAttributes, name ∉ c.names := by
    intro name own documented
    obtain taken | hidden := public_or_hidden name own
    · exact free name documented taken
    · simp [shown name documented] at hidden
  constructor
  · intro name a
    rw [entry_eq_ok_iff]
    obtain ⟨own, x, answered, other⟩ | ⟨-, looked⟩ := getAttribute_cases c name
    · have undocumented : c.get? name = none := OrderedMap.get?_eq_none_iff.2 (apart name own)
      simp [answered, undocumented, other a]
    · rw [looked]
      cases found : c.get? name with
      | some b =>
        rw [if_neg (by simp [shown name (OrderedMap.mem_keys_iff.2 ⟨b, found⟩)])]
        simp
      | none =>
        split_ifs <;> exact ⟨nofun, nofun⟩
  · intro name a found
    rw [entry_eq_ok_iff] at found
    exact ⟨OrderedMap.mem_keys_iff.2 ⟨a, found⟩, named name a found⟩
  · intro name own
    obtain ⟨-, answered⟩ | ⟨other, -⟩ := getAttribute_cases c name
    · exact ⟨apart name own, answered⟩
    · exact absurd own other
  · intro name method
    have listed : publicMethods.contains name = true := List.contains_iff_mem.2 method
    rw [getAttribute, listed]
    rfl
  · rw [getAttribute, if_neg (by decide), if_pos rfl]
  · intro name undocumented other
    obtain ⟨own, -⟩ | ⟨-, looked⟩ := getAttribute_cases c name
    · exact absurd own other
    · have absent : c.get? name = none := OrderedMap.get?_eq_none_iff.2 undocumented
      rw [looked, absent]
      split_ifs <;> rfl

/-- Only artifacts of a taxonomy are documented, each under its own name. -/
lemma get?_ofTaxonomy_eq_some {t : Taxonomy} {a : Artifact} (found : (ofTaxonomy t).get? name = some a) :
    a ∈ artifactsOf t ∧ a.name = name := by
  change (OrderedMap.ofList ((artifactsOf t).map fun a => (a.name, a))).get? name = some a at found
  rw [OrderedMap.get?_ofList, Option.map_eq_some_iff] at found
  obtain ⟨e, last, rfl⟩ := found
  obtain ⟨member, same⟩ := List.mem_filter.1 (List.mem_of_getLast? last)
  obtain ⟨b, there, rfl⟩ := List.mem_map.1 member
  exact ⟨there, by simpa using same⟩

/-- Where no case has a hidden name or that of an attribute, every artifact of a taxonomy is within reach. -/
lemma accessible_ofTaxonomy {t : Taxonomy} (shown : ∀ e ∈ t.cases, isHidden e.name = false)
    (free : ∀ e ∈ t.cases, e.name ∉ publicAttributes) : (ofTaxonomy t).Accessible := by
  have documented : ∀ name ∈ (ofTaxonomy t).names, (∃ e ∈ t.cases, e.name = name) ∨ name = internalErrorName := by
    intro name member
    obtain ⟨a, found⟩ := OrderedMap.mem_keys_iff.1 member
    obtain ⟨there, rfl⟩ := get?_ofTaxonomy_eq_some found
    have listed := List.mem_map_of_mem (f := Artifact.name) there
    rw [names_artifactsOf, List.mem_append] at listed
    rcases listed with client | shared
    · obtain ⟨e, own, same⟩ := List.mem_map.1 client
      exact .inl ⟨e, (List.mem_filter.1 own).1, same⟩
    · split_ifs at shared
      · exact absurd shared List.not_mem_nil
      · exact .inr (List.mem_singleton.1 shared)
  refine accessible_of_shown (fun name a found => (get?_ofTaxonomy_eq_some found).2) ?_ ?_
  · intro name member
    obtain ⟨e, own, rfl⟩ | rfl := documented name member
    · exact shown e own
    · decide
  · intro name member
    obtain ⟨e, own, rfl⟩ | rfl := documented name member
    · exact free e own
    · decide

end Errata.Docs.Catalogue
