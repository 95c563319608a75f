import Errata.Docs.Schema
import Errata.Reply.Body
import Mathlib.Tactic.Common

/-!
# Validation

Which documents a schema admits, for the keywords that the documentation of an error is written with:
the type, the values that are listed, the members that are described, and those that are required. Any
other keyword says nothing about a document. The schema of one error admits the bodies with its own
status and code, and with its hint if it has one, as far as their content is an object where one is
carried (`Leaf.admits_json_iff`).
-/

namespace Errata

namespace Json

/-- The types that a document has. A whole number has two, however it is written. -/
def types : Json → List String
  | null => ["null"]
  | bool _ => ["boolean"]
  | int _ => ["integer", "number"]
  | real d => if d.integer?.isSome then ["integer", "number"] else ["number"]
  | str _ => ["string"]
  | arr _ => ["array"]
  | obj _ => ["object"]

mutual

/-- The schema admits a document. -/
def Admits : Json → Json → Prop
  | obj keywords, doc => KeywordsAdmit keywords doc
  | bool b, _ => b
  | _, _ => False

/-- Every keyword of a schema admits a document. -/
def KeywordsAdmit : List (String × Json) → Json → Prop
  | [], _ => True
  | (key, value) :: keywords, doc => KeywordAdmits key value doc ∧ KeywordsAdmit keywords doc

/-- A keyword admits a document. -/
def KeywordAdmits (key : String) : Json → Json → Prop
  | str type, doc => key = "type" → type ∈ doc.types
  | arr values, doc =>
    (key = "enum" → doc ∈ values) ∧
      (key = "required" → ∀ members, doc = obj members →
        ∀ name, str name ∈ values → name ∈ members.map Prod.fst)
  | obj properties, doc => key = "properties" → PropertiesAdmit properties doc
  | _, _ => True

/-- Every member that is described admits what a document has under its name. -/
def PropertiesAdmit : List (String × Json) → Json → Prop
  | [], _ => True
  | (name, schema) :: properties, doc =>
    (∀ v, doc.member? name = some v → Admits schema v) ∧ PropertiesAdmit properties doc

end

/-- The members that are described are admitted one by one. -/
lemma propertiesAdmit_iff {properties : List (String × Json)} {doc : Json} :
    PropertiesAdmit properties doc ↔
      ∀ p ∈ properties, ∀ v, doc.member? p.1 = some v → p.2.Admits v := by
  induction properties with
  | nil => simp [PropertiesAdmit]
  | cons p properties ih =>
    obtain ⟨name, schema⟩ := p
    rw [PropertiesAdmit, ih, List.forall_mem_cons]

/-- A document is an object when that is its type. -/
lemma object_mem_types_iff {doc : Json} : "object" ∈ doc.types ↔ ∃ members, doc = obj members := by
  cases doc with
  | obj members => simp [types]
  | real d =>
    simp only [types]
    split_ifs <;> simp
  | _ => simp [types]

end Json

namespace Docs

/-- A member with one value admits that value only. -/
lemma pinned_admits_iff {type : String} {value doc : Json} :
    (pinned type value).Admits doc ↔ type ∈ doc.types ∧ doc = value := by
  cases value <;>
    simp [pinned, Json.Admits, Json.KeywordsAdmit, Json.KeywordAdmits]

/-- A status is admitted when it is the number that is pinned. -/
lemma pinned_int_admits_iff {n : Int} {doc : Json} :
    (pinned "integer" (.int n)).Admits doc ↔ doc = .int n := by
  rw [pinned_admits_iff]
  refine ⟨fun admitted => admitted.2, ?_⟩
  rintro rfl
  simp [Json.types]

/-- A text is admitted when it is the one that is pinned. -/
lemma pinned_str_admits_iff {s : String} {doc : Json} :
    (pinned "string" (.str s)).Admits doc ↔ doc = .str s := by
  rw [pinned_admits_iff]
  refine ⟨fun admitted => admitted.2, ?_⟩
  rintro rfl
  simp [Json.types]

/-- A schema with a type only admits what has that type. -/
lemma typed_admits_iff {type : String} {doc : Json} :
    (Json.single "type" (.str type)).Admits doc ↔ type ∈ doc.types := by
  simp [Json.single, Json.Admits, Json.KeywordsAdmit, Json.KeywordAdmits]

namespace Leaf

/-- The schema of one error admits the objects that have all its members, each as it is described. -/
lemma schema_admits_iff {l : Leaf} {members : List (String × Json)} :
    l.schema.Admits (.obj members) ↔
      (∀ p ∈ l.properties, ∀ v, members.lookup p.1 = some v → p.2.Admits v) ∧
        ∀ p ∈ l.properties, p.1 ∈ members.map Prod.fst := by
  have required :
      (∀ name, Json.str name ∈ l.properties.map (fun p => .str p.1) → name ∈ members.map Prod.fst) ↔
        ∀ p ∈ l.properties, p.1 ∈ members.map Prod.fst := by
    constructor
    · intro all p there
      exact all p.1 (List.mem_map_of_mem there)
    · intro all name listed
      obtain ⟨p, there, same⟩ := List.mem_map.1 listed
      cases same
      exact all p there
  rw [← required]
  simp [schema, Json.Admits, Json.KeywordsAdmit, Json.KeywordAdmits, Json.propertiesAdmit_iff,
    Json.types, Json.member?]

/-- The schema of one error admits the bodies with its status and its code, and with its hint if it has
one. Where it carries a content, theirs has to be an object. -/
lemma admits_json_iff {l : Leaf} {e : ErrorBody} {content : Json} :
    l.schema.Admits (e.json content) ↔
      e.status = l.status ∧ e.code = l.code.text ∧ (∀ h ∈ l.hint, e.hint = some h.text) ∧
        (l.carriesContent = true → ∃ members, content = .obj members) := by
  rw [ErrorBody.json, schema_admits_iff]
  simp only [ErrorBody.head, properties]
  -- The members are a few fixed ones, with or without a hint and a content on either side.
  cases e.hint <;> cases l.hint <;> cases l.carriesContent <;>
    simp [pinned_int_admits_iff, pinned_str_admits_iff, typed_admits_iff, Json.object_mem_types_iff,
      List.lookup_cons]

/-- The schema of one error admits a body with its status, its code and its hint, if the content is an
object or none is carried. -/
lemma admits_body_iff {l : Leaf} {e : ErrorBody} (status : e.status = l.status)
    (code : e.code = l.code.text) (hint : e.hint = l.hint.map Wording.text) (content : Json) :
    l.schema.Admits (e.json content) ↔
      (l.carriesContent = true → ∃ members, content = .obj members) := by
  have hinted : ∀ h ∈ l.hint, e.hint = some h.text := by
    intro h given
    rw [hint, given, Option.map_some]
  rw [admits_json_iff]
  exact ⟨fun admitted => admitted.2.2.2, fun object => ⟨status, code, hinted, object⟩⟩

end Leaf

end Docs

end Errata
