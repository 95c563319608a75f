import Errata.Proofs.Compile.Lookup
import Errata.Proofs.Reply.Sending
import Mathlib

/-!
# What a client cannot learn

A rule hides the content of its case when the case is internal or carries none. Two runs of such a rule,
with whatever contents, have the same outcome: the content is neither encoded nor sent (`Rule.reply_of_hides`). It is a
reply when bytes can hold the code and the hint of the rule, and one refusal for all contents when they cannot. The
content shows at most in the message of the one record that an internal case with a payload leaves in the log. Whether
the log is kept makes no difference to any reply (`hidden_content_never_sent`).
-/

namespace Errata

namespace Rule

/-- The client does not get to know what the case carries. -/
def Hides (r : Rule) : Prop := r.isInternal = true ∨ r.naive = true

/-- What the case carries is written to the log. -/
structure LogsContent (r : Rule) : Prop where
  internal : r.isInternal = true
  payload : r.naive = false
  enabled : r.logEnabled = true

/-- The body of a rule that hides the content has none. -/
lemma body_of_hides {r : Rule} (hides : r.Hides) (p : Value) :
    r.body p = ⟨r.status, r.code, r.hint, .null⟩ := by
  obtain ⟨typeName, caseName, naive, answer⟩ := r
  cases answer with
  | internal code logged => rfl
  | client status code hint =>
    rcases hides with internal | naive
    · cases internal
    · cases naive
      rfl

/-- Bytes can hold what the rule says of its case. -/
def Sendable (r : Rule) : Prop := Text.isEncodable r.code = true ∧ ∀ h ∈ r.hint, Text.isEncodable h = true

/-- What a rule that hides the content sends. -/
def hidingBody (r : Rule) : Json := ErrorBody.json ⟨r.status, r.code, r.hint, .null⟩ .null

/-- A rule that hides the content sends the same for all contents. -/
lemma reply_of_hides {r : Rule} (hides : r.Hides) (p : Value) :
    (r.apply p).result.reply = Reply.ofBody r.status r.hidingBody := by
  have document : ErrorBody.document ⟨r.status, r.code, r.hint, .null⟩ = .ok r.hidingBody := rfl
  show (r.body p).reply = _
  rw [body_of_hides hides, ErrorBody.reply, document]
  exact pure_bind _ _

/-- It is sent when bytes can hold what the rule says. -/
lemma sendable_hidingBody_iff {r : Rule} : r.hidingBody.Sendable ↔ r.Sendable := by
  rw [hidingBody, ErrorBody.sendable_json_iff, ← and_assoc]
  exact and_iff_left fun _ absent => absurd absent List.not_mem_nil

/-- A content that is logged stands in one record of an internal error. -/
lemma records_of_logsContent {r : Rule} (logs : r.LogsContent) (p : Value) :
    (r.apply p).records = [⟨.internalError, r.describe p⟩] := by
  obtain ⟨typeName, caseName, naive, answer⟩ := r
  obtain ⟨internal, -, enabled⟩ := logs
  cases answer with
  | client => cases internal
  | internal code logged =>
    cases enabled
    rfl

/-- A content that is not logged changes no record. -/
lemma records_of_not_logsContent {r : Rule} (silent : ¬r.LogsContent) (p q : Value) :
    (r.apply p).records = (r.apply q).records := by
  obtain ⟨typeName, caseName, naive, answer⟩ := r
  cases answer with
  | client => rfl
  | internal code logged =>
    cases logged with
    | false => rfl
    | true =>
      cases naive with
      | true => rfl
      | false => exact absurd ⟨rfl, rfl, rfl⟩ silent

/-- The rule of an internal case answers with the status and the code of internal errors, and without a
hint. -/
lemma answer_of_internal {t : Taxonomy} {logged : Bool} {e : ErrorCase}
    (internal : (ofCase t logged e).isInternal = true) :
    (ofCase t logged e).status = 500 ∧ (ofCase t logged e).code = t.internalCode.text ∧
      (ofCase t logged e).hint = none := by
  obtain ⟨name, naive, attributes⟩ := e
  cases attributes with
  | request r => cases internal
  | internal => exact ⟨rfl, rfl, rfl⟩

end Rule

namespace ResponseTable

/-- What a name is answered with does not depend on the log. -/
lemma respond_ofTaxonomy (t : Taxonomy) (logged : Bool) (name : String) (p : Value) :
    ((ofTaxonomy t logged).respond name p).outcome =
      match t.cases.find? fun e => e.name == name with
      | some e => (e.prescribed t.internalCode.text p).reply.mapError .encode
      | none => .error (.noRule ⟨t.typeName, name⟩) := by
  rw [respond, Attempt.outcome_bind, Attempt.outcome_mapError, convert_ofTaxonomy]
  cases t.cases.find? fun e => e.name == name <;> rfl

/-- The records of an answer are those of the rule of the name. -/
lemma records_respond_ofTaxonomy (t : Taxonomy) (logged : Bool) (name : String) (p : Value) :
    ((ofTaxonomy t logged).respond name p).records =
      match t.cases.find? fun e => e.name == name with
      | some e => (Rule.ofCase t logged e).records p
      | none => [] := by
  have rule := ruleFor_ofTaxonomy t logged name
  unfold respond
  cases found : t.cases.find? fun e => e.name == name with
  | none =>
    rw [found] at rule
    rw [convert, rule]
    rfl
  | some e =>
    rw [found] at rule
    rw [convert_eq rule, Attempt.records_bind rfl]
    simp

/-- An answer leaves a record of an internal error, or none, and none where no log is kept. -/
lemma records_respond (t : Taxonomy) (logged : Bool) (name : String) (p : Value) :
    ((ofTaxonomy t logged).respond name p).records = [] ∨
      logged = true ∧
        ∃ message, ((ofTaxonomy t logged).respond name p).records = [⟨.internalError, message⟩] := by
  rw [records_respond_ofTaxonomy]
  cases t.cases.find? fun e => e.name == name with
  | none => exact .inl rfl
  | some e =>
    obtain ⟨caseName, naive, attributes⟩ := e
    cases attributes with
    | request r => exact .inl rfl
    | internal =>
      cases logged with
      | false => exact .inl rfl
      | true => exact .inr ⟨rfl, _, rfl⟩

end ResponseTable

namespace UnitDecl

/-- Whether internal errors are logged changes no record of a compilation. -/
lemma records_compile (u : UnitDecl) (settings : Settings) (logged : Bool) :
    (u.compile { settings with logInternalErrors := logged }).records =
      (u.compile settings).records := by
  unfold compile
  dsimp only
  cases (u.read settings.suppressRedundant).run Context.fresh with
  | error f => rfl
  | ok read =>
    obtain ⟨taxonomy, context⟩ := read
    cases context with
    | checked => rfl
    | recording ds => cases ds <;> rfl

/-- It fails in the same way, or gives the same taxonomy. -/
lemma outcome_switched (u : UnitDecl) (settings : Settings) :
    let logging := { settings with logInternalErrors := true }
    let silent := { settings with logInternalErrors := false }
    (∃ e, (u.compile logging).outcome = .error e ∧ (u.compile silent).outcome = .error e) ∨
      ∃ t : Taxonomy, (u.compile logging).outcome = .ok (t.compiled logging) ∧
        (u.compile silent).outcome = .ok (t.compiled silent) := by
  dsimp only
  rw [compile_outcome, compile_outcome]
  cases u.unshown? with
  | some f => exact .inl ⟨_, rfl, rfl⟩
  | none =>
    rw [Option.elim_none, Option.elim_none]
    split_ifs with clean
    · exact .inr ⟨_, rfl, rfl⟩
    · exact .inl ⟨_, rfl, rfl⟩

end UnitDecl

/-- A rule that hides the content of its case has one outcome for all contents. It is a reply just when bytes can hold
the code and the hint of the rule, and says nothing but the status and the code of internal errors for an internal one.
Only where an internal case with a payload is logged do the records depend on the content: there they are a single one.
Switching that log on or off changes nothing but the presence of such records. -/
theorem hidden_content_never_sent (u : UnitDecl) (settings : Settings) :
    (∀ compiled, (u.compile settings).outcome = .ok compiled →
      ∀ r ∈ compiled.table.rules, r.Hides →
        ∃ outcome, (∀ p, (r.apply p).result.reply = outcome) ∧
          (r.Sendable → ∃ reply, outcome = .ok reply) ∧
          (¬r.Sendable → ∃ run, outcome = .error (.surrogates run)) ∧
          (r.isInternal = true → r.code = u.internalCode.result.text ∧ r.hint = none ∧
            ∀ reply, outcome = .ok reply → reply = ⟨500, some (.obj [("status", .int 500),
              ("code", .str u.internalCode.result.text), ("content", .null)])⟩) ∧
          (r.LogsContent → ∀ p, ∃ message, (r.apply p).records = [⟨.internalError, message⟩]) ∧
          (¬r.LogsContent → ∀ p q, (r.apply p).records = (r.apply q).records)) ∧
    let logging := { settings with logInternalErrors := true }
    let silent := { settings with logInternalErrors := false }
    (u.compile logging).records = (u.compile silent).records ∧
      ((∃ e, (u.compile logging).outcome = .error e ∧ (u.compile silent).outcome = .error e) ∨
        ∃ loud quiet, (u.compile logging).outcome = .ok loud ∧ (u.compile silent).outcome = .ok quiet ∧
          loud.taxonomy = quiet.taxonomy ∧ loud.catalogue = quiet.catalogue ∧
          ∀ name p, (loud.table.respond name p).outcome = (quiet.table.respond name p).outcome ∧
            (quiet.table.respond name p).records = [] ∧
            ((loud.table.respond name p).records = [] ∨
              ∃ message, (loud.table.respond name p).records = [⟨.internalError, message⟩])) := by
  refine ⟨?_, ?_, ?_⟩
  · intro compiled accepted r member hides
    obtain ⟨-, rfl⟩ := UnitDecl.compile_eq_ok_iff.1 accepted
    obtain ⟨e, -, rfl⟩ := List.mem_map.1 member
    refine ⟨_, Rule.reply_of_hides hides, ?_, ?_, ?_, ?_, Rule.records_of_not_logsContent⟩
    · intro sendable
      exact ⟨_, Reply.ofBody_eq_ok_iff.2 ⟨Rule.sendable_hidingBody_iff.2 sendable, rfl⟩⟩
    · intro unsendable
      exact Reply.ofBody_eq_error (mt Rule.sendable_hidingBody_iff.1 unsendable)
    · intro internal
      obtain ⟨status, code, hint⟩ := Rule.answer_of_internal internal
      refine ⟨code, hint, fun reply replied => ?_⟩
      obtain ⟨-, rfl⟩ := Reply.ofBody_eq_ok_iff.1 replied
      rw [Rule.hidingBody, status, code, hint]
      rfl
    · exact fun logs p => ⟨_, Rule.records_of_logsContent logs p⟩
  · exact (u.records_compile settings true).trans (u.records_compile settings false).symm
  · obtain failed | ⟨t, loud, quiet⟩ := u.outcome_switched settings
    · exact .inl failed
    refine .inr ⟨_, _, loud, quiet, rfl, rfl, fun name p => ⟨?_, ?_, ?_⟩⟩
    · exact (ResponseTable.respond_ofTaxonomy t true name p).trans
        (ResponseTable.respond_ofTaxonomy t false name p).symm
    · rcases ResponseTable.records_respond t false name p with none | ⟨⟨⟩, -⟩
      exact none
    · exact (ResponseTable.records_respond t true name p).imp_right And.right

/-- A unit with an internal case that carries a payload. -/
def vaultUnit : UnitDecl where
  name := "Vault"
  annotation := some ⟨[], .ofList [("internal_code", .text "vault")]⟩
  cases := [⟨"Broken", false, some ⟨[.text "internal"], .empty⟩⟩]
  reserved := []

/-- A payload in which nothing has a JSON text. -/
def unspeakable : Value :=
  .list [.float .nan, .dict [(.tuple [.int 1], .null)], .bytes [255]]

/-- That payload cannot be encoded, and it is logged, but the reply is the same as without it. -/
theorem vaultUnit_hides : ∃ compiled r reply, (vaultUnit.compile .default).outcome = .ok compiled ∧
    r ∈ compiled.table.rules ∧ (∀ image, unspeakable.image ≠ .ok image) ∧
    (r.apply unspeakable).result.reply = .ok reply ∧ (r.apply .null).result.reply = .ok reply ∧
    reply = ⟨500, some (.obj [("status", .int 500), ("code", .str "vault"), ("content", .null)])⟩ ∧
    (r.apply unspeakable).records ≠ (r.apply .null).records := by
  have accepted : (vaultUnit.compile .default).outcome =
      .ok ((vaultUnit.taxonomy vaultUnit.readable).compiled .default) := by cbv
  let broken : Rule := ⟨"Vault", "Broken", false, .internal "vault" true⟩
  have member : broken ∈ ((vaultUnit.taxonomy vaultUnit.readable).compiled .default).table.rules := by
    decide
  have sendable : broken.Sendable := by
    refine ⟨by decide, ?_⟩
    intro h hinted
    cases hinted
  obtain ⟨outcome, same, sent, -, answer, -, -⟩ :=
    (hidden_content_never_sent vaultUnit .default).1 _ accepted broken member (.inl rfl)
  obtain ⟨reply, rfl⟩ := sent sendable
  obtain ⟨-, -, answer⟩ := answer rfl
  refine ⟨_, broken, reply, accepted, member, ?_, same _, same _, answer _ rfl, ?_⟩
  · intro image encoded
    cases encoded
  · intro same
    have messages := congrArg (List.map fun record => record.message.toOption) same
    revert messages
    decide

/-- A unit whose code for internal errors is a surrogate. -/
def halfUnit : UnitDecl where
  name := "Half"
  annotation := some ⟨[], .ofList [("internal_code", .text (String.ofList (Text.ofCodePoint 0xD800)))]⟩
  cases := [⟨"Broken", true, some ⟨[.text "internal"], .empty⟩⟩]
  reserved := []

/-- It is accepted, and whatever its internal case carries, there is no reply to it. -/
theorem halfUnit_unanswered : ∃ compiled r, (halfUnit.compile .default).outcome = .ok compiled ∧
    r ∈ compiled.table.rules ∧ r.Hides ∧
    ∀ p, (r.apply p).result.reply = .error (.surrogates ⟨0xD800, 22, 1⟩) := by
  have accepted : (halfUnit.compile .default).outcome =
      .ok ((halfUnit.taxonomy halfUnit.readable).compiled .default) := by cbv
  let broken : Rule := ⟨"Half", "Broken", true, .internal (String.ofList (Text.ofCodePoint 0xD800)) true⟩
  have member : broken ∈ ((halfUnit.taxonomy halfUnit.readable).compiled .default).table.rules := by
    decide
  have unsent : Reply.ofBody broken.status broken.hidingBody = .error (.surrogates ⟨0xD800, 22, 1⟩) := by cbv
  exact ⟨_, broken, accepted, member, .inl rfl, fun p => (Rule.reply_of_hides (.inl rfl) p).trans unsent⟩

end Errata
