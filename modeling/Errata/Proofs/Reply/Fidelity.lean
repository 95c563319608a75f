import Errata.Proofs.Docs.Conformance
import Errata.Proofs.Reply.Secrecy
import Mathlib

/-!
# What a client reads

The body of a reply is a text, and its client reads that text. What is read has the members that the rule of
the case prescribes and no others, in their order (`reply_read_back`): no code, no hint and no payload can be
written so that it ends its own member and becomes a part of another one. The content is read as it was encoded,
unless an object in it has a key twice; then the last member under that key counts, and only the content is
concerned by that.
-/

namespace Errata

namespace Rule

/-- The members that a client has to find in the body of a reply. -/
def members (r : Rule) (content : Json) : List (String × Json) :=
  [("status", .int r.status), ("code", .str r.code)] ++ r.hint.toList.map (fun hint => ("hint", .str hint)) ++
    [("content", content)]

/-- The body that a rule gives has just these members. -/
lemma json_body (r : Rule) (p : Value) (content : Json) : (r.body p).json content = .obj (r.members content) := by
  obtain ⟨typeName, caseName, naive, answer⟩ := r
  cases answer with
  | internal code logged => rfl
  | client status code hint => cases hint <;> rfl

/-- The reply has the status of the rule. -/
lemma status_body (r : Rule) (p : Value) : (r.body p).status = r.status := by
  obtain ⟨typeName, caseName, naive, answer⟩ := r
  cases answer <;> rfl

/-- A rule that hides nothing has the payload for its content. -/
lemma content_of_shows {r : Rule} (shows : ¬r.Hides) (p : Value) : (r.body p).content = p := by
  obtain ⟨typeName, caseName, naive, answer⟩ := r
  cases answer with
  | internal code logged => exact absurd (.inl rfl) shows
  | client status code hint =>
    cases naive with
    | true => exact absurd (.inr rfl) shows
    | false => rfl

/-- The document that stands for a payload in the reply of a rule: nothing where the rule hides it, and what
the payload is encoded as elsewhere. -/
structure Sends (r : Rule) (p : Value) (content : Json) : Prop where
  hidden : r.Hides → content = .null
  shown : ¬r.Hides → p.encoding = .ok content

/-- The content is the same for all that a rule sends of one payload. -/
lemma Sends.unique {r : Rule} {p : Value} {content content' : Json} (sends : r.Sends p content)
    (sends' : r.Sends p content') : content = content' := by
  by_cases hides : r.Hides
  · rw [sends.hidden hides, sends'.hidden hides]
  · exact Except.ok.inj ((sends.shown hides).symm.trans (sends'.shown hides))

/-- The content of a rule's body is encoded as what the rule sends. -/
lemma encoding_body_iff {r : Rule} {p : Value} {content : Json} :
    (r.body p).content.encoding = .ok content ↔ r.Sends p content := by
  by_cases hides : r.Hides
  · rw [body_of_hides hides]
    constructor
    · intro encoded
      cases encoded
      exact ⟨fun _ => rfl, fun shows => absurd hides shows⟩
    · intro sends
      rw [sends.hidden hides]
      rfl
  · rw [content_of_shows hides]
    exact ⟨fun encoded => ⟨fun hidden => absurd hidden hides, fun _ => encoded⟩, fun sends => sends.shown hides⟩

/-- A rule replies with its members, as far as the content can be encoded and bytes can hold them. -/
lemma reply_body_iff {r : Rule} {p : Value} {reply : Reply} :
    (r.body p).reply = .ok reply ↔
      ∃ content, r.Sends p content ∧ (Json.obj (r.members content)).Sendable ∧
        reply = ⟨r.status, some (.obj (r.members content))⟩ := by
  rw [ErrorBody.reply_eq_ok_iff]
  constructor
  · rintro ⟨_, made, sendable, rfl⟩
    obtain ⟨content, encoded, rfl⟩ := ErrorBody.document_eq_ok_iff.1 made
    rw [status_body, json_body] at *
    exact ⟨content, encoding_body_iff.1 encoded, sendable, rfl⟩
  · rintro ⟨content, sends, sendable, rfl⟩
    have made := ErrorBody.document_eq_ok_iff.2 ⟨content, encoding_body_iff.2 sends, rfl⟩
    rw [json_body] at made
    exact ⟨_, made, sendable, by rw [status_body]⟩

/-- The members are read back, with the members inside the content merged. -/
lemma read?_members (r : Rule) (content : Json) :
    Json.read? (Json.compact (.obj (r.members content))) = some (.obj (r.members content.merged)) := by
  rw [Json.read?_compact, ← r.json_body .null, ErrorBody.merged_json, json_body]

end Rule

/-- Where every case declares something, the first case of a name is the first that is read under it. -/
lemma CaseDecl.find?_reading {cases : List CaseDecl} (declared : ∀ c ∈ cases, ∃ d, c.Declares d)
    (name : String) : ((cases.filterMap reading).find? fun e => e.name == name) =
      (cases.find? fun c => c.name == name).bind reading := by
  rw [List.find?_filterMap]
  congr 1
  refine List.find?_congr fun c member => ?_
  obtain ⟨d, declares⟩ := declared c member
  obtain ⟨e, read, same, -⟩ := declares.reading
  rw [read, Option.any_some, same]

/-- The table of a well-formed unit has, for the name of a case, a rule that carries what the first case of that
name declares. -/
lemma UnitDecl.WellFormed.exists_ruleFor {u : UnitDecl} (wf : u.WellFormed) (logged : Bool) {name : String}
    {c : CaseDecl} (first : (u.cases.find? fun c => c.name == name) = some c) :
    ∃ e rule, (ResponseTable.ofTaxonomy (u.taxonomy u.readable) logged).ruleFor name = .ok rule ∧
      c.CarriedBy u.internalCode.result.text e rule := by
  obtain ⟨d, declares⟩ := wf.declared c (List.mem_of_find?_eq_some first)
  obtain ⟨e, read, -⟩ := declares.reading
  have found : ((u.taxonomy u.readable).cases.find? fun e => e.name == name) = some e := by
    show ((u.cases.filterMap CaseDecl.reading).find? fun e => e.name == name) = some e
    rw [CaseDecl.find?_reading wf.declared, first, Option.bind_some, read]
  refine ⟨e, _, ?_, u.carriedBy_of_reading logged declares read⟩
  rw [ResponseTable.ruleFor_ofTaxonomy, found]

/-- Every case of an accepted unit has a reply, as far as its content can be encoded and bytes can hold the texts of
the body, and the body of the reply is read as the object of the members that the case declares: its status, its code,
its hint if it has one, and its content, in that order. The content is the document that the payload is encoded as, or
nothing for a case that hides it. Whatever the texts in it are, the other members are read as they are declared. -/
theorem reply_read_back (u : UnitDecl) (settings : Settings) (compiled : Compiled)
    (accepted : (u.compile settings).outcome = .ok compiled) (name : String) (c : CaseDecl)
    (first : (u.cases.find? fun c => c.name == name) = some c) (p : Value) :
    ∃ e rule, compiled.table.ruleFor name = .ok rule ∧ c.CarriedBy u.internalCode.result.text e rule ∧
      (∀ content, rule.Sends p content →
        ((∃ reply, (compiled.table.respond name p).outcome = .ok reply) ↔
          (Json.obj (rule.members content)).Sendable)) ∧
      ∀ reply, (compiled.table.respond name p).outcome = .ok reply → ∃ content,
        rule.Sends p content ∧ reply.status = rule.status ∧
        Json.read? reply.text = some (.obj (rule.members content.merged)) ∧
        (content.WellFormed → Json.read? reply.text = some (.obj (rule.members content))) := by
  obtain ⟨wf, rfl⟩ := UnitDecl.compile_eq_ok_iff.1 accepted
  obtain ⟨e, rule, found, carried⟩ := wf.exists_ruleFor settings.logInternalErrors first
  have outcome := ResponseTable.respond_outcome found p
  refine ⟨e, rule, found, carried, ?_, ?_⟩
  · intro content sends
    constructor
    · rintro ⟨reply, replied⟩
      obtain ⟨content', sends', sendable, -⟩ :=
        Rule.reply_body_iff.1 (Attempt.mapError_eq_ok.1 (outcome.symm.trans replied))
      rwa [sends.unique sends']
    · intro sendable
      have replied := Rule.reply_body_iff.2 ⟨content, sends, sendable, rfl⟩
      exact ⟨_, outcome.trans (Attempt.mapError_eq_ok.2 replied)⟩
  · intro reply replied
    obtain ⟨content, sends, -, rfl⟩ := Rule.reply_body_iff.1 (Attempt.mapError_eq_ok.1 (outcome.symm.trans replied))
    have read := rule.read?_members content
    refine ⟨content, sends, rfl, read, fun distinct => ?_⟩
    rwa [Json.merged_of_wellFormed distinct] at read

/-- A unit with a case whose code and hint look like parts of a body. -/
def quoteUnit : UnitDecl where
  name := "Quotes"
  annotation := none
  cases := [⟨"Odd", false, some ⟨[.text "request"],
    .ofList [("status", .int 418), ("code", .text "\",\"content\":\x7b"), ("hint", .text "\\\"\x7d\n\x00é")]⟩⟩]
  reserved := []

/-- A payload whose texts look like parts of a body, with an entry that is never shown. -/
def quotePayload : Value :=
  .dict [(.int 1, .text "\",\"status\":200"), (.text "_sa", .null), (.null, .list [.text "\\", .bool true])]

/-- Nothing of that reaches beyond its own member. -/
theorem quoteUnit_read_back : ∃ compiled reply, (quoteUnit.compile .default).outcome = .ok compiled ∧
    (compiled.table.respond "Odd" quotePayload).outcome = .ok reply ∧
    Json.read? reply.text = some (.obj [("status", .int 418), ("code", .str "\",\"content\":\x7b"),
      ("hint", .str "\\\"\x7d\n\x00é"),
      ("content", .obj [("1", .str "\",\"status\":200"), ("null", .arr [.str "\\", .bool true])])]) := by
  have accepted : (quoteUnit.compile .default).outcome =
      .ok ((quoteUnit.taxonomy quoteUnit.readable).compiled .default) := by cbv
  let rule : Rule := ⟨"Quotes", "Odd", false, .client 418 "\",\"content\":\x7b" (some "\\\"\x7d\n\x00é")⟩
  let content : Json := .obj [("1", .str "\",\"status\":200"), ("null", .arr [.str "\\", .bool true])]
  have encoded : quotePayload.encoding = .ok content := by cbv
  obtain ⟨e, rule', found, -, replies, read⟩ :=
    reply_read_back quoteUnit .default _ accepted "Odd" _ rfl quotePayload
  have rules : ((quoteUnit.taxonomy quoteUnit.readable).compiled .default).table.ruleFor "Odd" = .ok rule := by
    decide
  cases Except.ok.inj (found.symm.trans rules)
  have shows : ¬rule.Hides := by
    rintro (internal | naive)
    · cases internal
    · cases naive
  have sendable : (Json.obj (rule.members content)).Sendable := by
    have texts : (Json.obj (rule.members content)).texts = ["status", "code", "\",\"content\":\x7b", "hint",
      "\\\"\x7d\n\x00é", "content", "1", "\",\"status\":200", "null", "\\"] := rfl
    rw [Json.Sendable, texts]
    decide
  obtain ⟨reply, replied⟩ := (replies content ⟨fun hides => absurd hides shows, fun _ => encoded⟩).2 sendable
  obtain ⟨content', sends, -, -, read⟩ := read reply replied
  cases Except.ok.inj ((sends.shown shows).symm.trans encoded)
  have distinct : content.WellFormed := by
    simp [content, Json.WellFormed, Json.WellFormedMembers, Json.WellFormedItems]
  exact ⟨_, _, accepted, replied, read distinct⟩

end Errata
