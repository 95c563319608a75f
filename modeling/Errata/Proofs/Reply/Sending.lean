import Errata.Proofs.Json.Bytes
import Errata.Proofs.Steps
import Errata.Reply.Body

/-!
# What can be sent

The body of a reply is a document, if its content has an encoding (`ErrorBody.document_eq_ok_iff`). It is sent as bytes,
and bytes cannot hold every text: there is a reply just when they can hold the code, the hint and every text of the
content (`ErrorBody.reply_eq_ok_iff`, `ErrorBody.sendable_json_iff`).
-/

namespace Errata

/-- The document that a value is encoded as, if it can be. -/
def Value.encoding (v : Value) : Except EncodeFault Json := do
  let image ← v.image
  image.json

/-- A body is sent when bytes can hold it. -/
lemma Reply.ofBody_eq_ok_iff {status : Int} {body : Json} {r : Reply} :
    ofBody status body = .ok r ↔ body.Sendable ∧ r = ⟨status, some body⟩ := by
  rw [← Json.isEncodable_compact_iff, ← Text.surrogateRun?_eq_none_iff, ofBody]
  cases Text.surrogateRun? body.compact with
  | none => simp [eq_comm]
  | some run => simp

/-- A body that bytes cannot hold is refused. -/
lemma Reply.ofBody_eq_error {status : Int} {body : Json} (unsendable : ¬body.Sendable) :
    ∃ run, ofBody status body = .error (.surrogates run) := by
  rw [← Json.isEncodable_compact_iff, ← Text.surrogateRun?_eq_none_iff] at unsendable
  obtain ⟨run, found⟩ := Option.ne_none_iff_exists'.1 unsendable
  exact ⟨run, by rw [ofBody, found]⟩

namespace ErrorBody

/-- A body has a document when its content has an encoding. -/
lemma document_eq_ok_iff {e : ErrorBody} {doc : Json} :
    e.document = .ok doc ↔ ∃ content, e.content.encoding = .ok content ∧ doc = e.json content := by
  have same : e.document = e.content.encoding.map e.json := by
    unfold document Value.encoding
    cases e.content.image with
    | error f => rfl
    | ok image =>
      show (image.json >>= _) = image.json.map _
      cases image.json <;> rfl
  rw [same]
  cases e.content.encoding with
  | error f => simp [Except.map]
  | ok content => simp [Except.map, eq_comm]

/-- A body has a reply when it has a document that bytes can hold. -/
lemma reply_eq_ok_iff {e : ErrorBody} {r : Reply} :
    e.reply = .ok r ↔ ∃ doc, e.document = .ok doc ∧ doc.Sendable ∧ r = ⟨e.status, some doc⟩ := by
  rw [reply, bind_eq_ok_iff]
  simp only [Reply.ofBody_eq_ok_iff]

/-- Bytes can hold a body when they can hold its code, its hint and its content. -/
lemma sendable_json_iff {e : ErrorBody} {content : Json} :
    (e.json content).Sendable ↔
      Text.isEncodable e.code = true ∧ (∀ h ∈ e.hint, Text.isEncodable h = true) ∧ content.Sendable := by
  have keys : Text.isEncodable "status" = true ∧ Text.isEncodable "code" = true ∧ Text.isEncodable "hint" = true ∧
      Text.isEncodable "content" = true := by decide
  obtain ⟨status, code, hint, payload⟩ := e
  cases hint <;> simp [json, head, Json.Sendable, Json.texts, Json.textsOfMembers, keys]

end ErrorBody

end Errata
