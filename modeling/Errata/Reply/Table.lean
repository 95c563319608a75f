import Errata.Reply.Body
import Errata.Taxonomy

/-!
# Response tables

What every case of a taxonomy is answered with. A case that answers a request shows its status, code,
hint and payload; every internal case is answered with the one status and code of internal errors, and
what it carries goes to the log only.
-/

namespace Errata

/-- What a rule answers with. -/
inductive Answer where
  | client (status : Int) (code : String) (hint : Option String)
  | internal (code : String) (logged : Bool)
  deriving DecidableEq, Repr

/-- How one case is answered. -/
structure Rule where
  typeName : String
  caseName : String
  naive : Bool
  answer : Answer
  deriving DecidableEq, Repr

namespace Rule

/-- The rule keeps the case from the client. -/
def isInternal (r : Rule) : Bool :=
  match r.answer with
  | .client .. => false
  | .internal .. => true

/-- The status it answers with. -/
def status (r : Rule) : Int :=
  match r.answer with
  | .client status _ _ => status
  | .internal _ _ => Status.internalServerError.value

/-- The code it answers with. -/
def code (r : Rule) : String :=
  match r.answer with
  | .client _ code _ => code
  | .internal code _ => code

/-- The hint it answers with. -/
def hint (r : Rule) : Option String :=
  match r.answer with
  | .client _ _ hint => hint
  | .internal _ _ => none

/-- Its log is switched on; only an internal case writes to it. -/
def logEnabled (r : Rule) : Bool :=
  match r.answer with
  | .client .. => true
  | .internal _ logged => logged

/-- The name of the case with its type, and what it carries, as that stands in prose. -/
def describe (r : Rule) (content : Value) : Except InspectFault String :=
  if r.naive then .ok s!"{r.typeName}::{r.caseName}"
  else content.print?.map fun carried => s!"{r.typeName}::{r.caseName} {carried}"

/-- The records of an answer. -/
def records (r : Rule) (content : Value) : List Log.Record :=
  match r.answer with
  | .client .. => []
  | .internal _ logged => if logged then [⟨.internalError, r.describe content⟩] else []

/-- What is said to the client. -/
def body (r : Rule) (content : Value) : ErrorBody :=
  match r.answer with
  | .client status code hint => ⟨status, code, hint, if r.naive then .null else content⟩
  | .internal code _ => ⟨Status.internalServerError.value, code, none, .null⟩

/-- Answers a case that carries a content. -/
def apply (r : Rule) (content : Value) : Logged ErrorBody :=
  ⟨r.records content, r.body content⟩

/-- The rule of a case. -/
def ofCase (t : Taxonomy) (logInternal : Bool) (c : ErrorCase) : Rule where
  typeName := t.typeName
  caseName := c.name
  naive := c.naive
  answer :=
    match c.attributes with
    | .request r => .client r.status.value r.code.text (r.hint.map Wording.text)
    | .internal => .internal t.internalCode.text logInternal

end Rule

/-- The rules of a taxonomy, in the order of its cases. -/
structure ResponseTable where
  typeName : String
  rules : List Rule
  deriving DecidableEq, Repr

namespace ResponseTable

/-- The table has no rule for a case. -/
structure NoRule where
  typeName : String
  caseName : String
  deriving DecidableEq, Repr

/-- What went wrong, in words. -/
def NoRule.message (e : NoRule) : String :=
  s!"{e.typeName} has no conversion rule for case {Text.quoted e.caseName}"

/-- The rules of a taxonomy. -/
def ofTaxonomy (t : Taxonomy) (logInternal : Bool) : ResponseTable :=
  ⟨t.typeName, t.cases.map (Rule.ofCase t logInternal)⟩

/-- The first rule of a case. -/
def ruleFor (t : ResponseTable) (caseName : String) : Except NoRule Rule :=
  match t.rules.find? fun r => r.caseName == caseName with
  | some r => .ok r
  | none => .error ⟨t.typeName, caseName⟩

/-- What is said about a case that carries a content. -/
def convert (t : ResponseTable) (caseName : String) (content : Value) : Attempt NoRule ErrorBody := do
  let rule ← Attempt.lift (t.ruleFor caseName)
  let answer := rule.apply content
  Attempt.of answer.records (.ok answer.result)

/-- Why a case has no reply. -/
inductive Fault where
  | noRule (e : NoRule)
  | encode (e : EncodeFault)
  deriving DecidableEq, Repr

/-- What went wrong, in words. -/
def Fault.message : Fault → String
  | noRule e => e.message
  | encode e => e.message

/-- The type of the fault. -/
def Fault.type : Fault → String
  | noRule _ => "LookupError"
  | encode e => e.type

/-- The reply to a case that carries a content. -/
def respond (t : ResponseTable) (caseName : String) (content : Value) : Attempt Fault Reply := do
  let body ← (t.convert caseName content).mapError .noRule
  Attempt.lift (body.reply.mapError .encode)

end ResponseTable

end Errata
