import Errata.Diagnostic
import Errata.Value.Inspect

/-!
# Attributes of an error case

Reads the annotation of one case. The first argument says whether the case answers a request or is
internal; a request case then has a status and a code, and may have a hint and a description, all
given by keyword. Every fault is reported, in the order of the arguments.
-/

namespace Errata

/-- A status, as a registered constant or as a number. -/
inductive Status where
  | registered (h : HttpStatus)
  | number (n : Int)
  deriving DecidableEq, Repr

namespace Status

/-- The number on the status line. -/
def value : Status → Int
  | registered h => h.code
  | number n => n

/-- The name of a registered constant. -/
def symbol? : Status → Option String
  | registered h => some h.name
  | number _ => none

/-- The status of a number with three digits. -/
def ofInt? (n : Int) : Option Status :=
  if 100 ≤ n ∧ n ≤ 999 then some (number n) else none

/-- The status of internal errors. -/
def internalServerError : Status := registered .internalServerError

/-- The status that a value gives. Truth values are no numbers here. -/
def ofValue? : Value → Option Status
  | .status h => some (registered h)
  | .int n => ofInt? n
  | _ => none

/-- A status that a value gives has three digits. -/
theorem value_bounds_of_ofValue? {v : Value} {s : Status} (h : ofValue? v = some s) :
    100 ≤ s.value ∧ s.value ≤ 999 := by
  cases v with
  | status c =>
    cases h
    exact ⟨Int.ofNat_le.2 c.code_bounds.1, Int.ofNat_le.2 c.code_bounds.2⟩
  | int n =>
    simp only [ofValue?, ofInt?] at h
    split at h
    · cases h
      assumption
    · cases h
  | _ => cases h

end Status

/-- The attributes of a case that answers a request. -/
structure RequestAttributes where
  status : Status
  code : Wording
  hint : Option Wording
  description : Option Wording
  deriving DecidableEq

/-- The attributes of a case. -/
inductive Attributes where
  | request (r : RequestAttributes)
  | internal
  deriving DecidableEq

/-- The disposition that a value names. -/
def Value.disposition? : Value → Option Disposition
  | .disposition d => some d
  | .text s => Disposition.ofText? s
  | _ => none

/-- The code that a value gives. -/
def Value.code? (v : Value) : Option Wording :=
  v.wording?.filter fun w => w.text ≠ ""

/-- What has been read of the keywords of a request. -/
structure RequestDraft where
  status : Option Status
  code : Option Wording
  hint : Option Wording
  description : Option Wording
  /-- A status or a code was there and could not be used. -/
  spoiled : Bool

namespace RequestDraft

/-- Nothing has been read. -/
def blank : RequestDraft := ⟨none, none, none, none, false⟩

/-- Reads one keyword of the request at `span`. -/
def readKeyword (span : String) (d : RequestDraft) (key : String) (v : Value) :
    Validation RequestDraft := do
  let place := s!"{span}.{key}"
  if key = "status" then
    let status ← Validation.require place .badStatus (Status.ofValue? v)
    return { d with status, spoiled := d.spoiled || status.isNone }
  else if key = "code" then
    let code ← Validation.require place .badCode v.code?
    return { d with code, spoiled := d.spoiled || code.isNone }
  else if key = "hint" then
    return { d with hint := ← Validation.require place .badHint v.wording? }
  else if key = "description" then
    return { d with description := ← Validation.require place .badDescription v.wording? }
  else
    Validation.report place .unknownAttribute
    return d

/-- The attributes, when the status and the code could be used. -/
def attributes? (d : RequestDraft) : Option RequestAttributes :=
  match d.status, d.code with
  | some status, some code => some ⟨status, code, d.hint, d.description⟩
  | _, _ => none

end RequestDraft

namespace Annotation

/-- The disposition that the first argument names. -/
def disposition? (a : Annotation) : Option Disposition :=
  a.args.head?.bind Value.disposition?

/-- Reads the arguments of the request at `span`. With `suppress` the lack of a status or a code is not
reported where a bad one was. -/
def readRequest (a : Annotation) (span : String) (suppress : Bool) :
    Validation (Option RequestAttributes) := do
  a.args.tail.forM fun v => do
    let text ← Validation.shown v
    Validation.report (span ++ "(" ++ text ++ ")") .onlyAssignments
  let draft ← a.keywords.entries.foldlM (fun d e => RequestDraft.readKeyword span d e.1 e.2) .blank
  if draft.attributes?.isNone && !(draft.spoiled && suppress) then
    Validation.report span .bothRequired
  return draft.attributes?

/-- Reads the attributes that an annotation gives to the case at `span`. -/
def read (a : Annotation) (span : String) (suppress : Bool) : Validation (Option Attributes) := do
  match a.disposition? with
  | none =>
    Validation.report span .badDisposition
    return none
  | some .internal => return some .internal
  | some .request => return (← a.readRequest span suppress).map .request

/-- The attributes that an annotation gives to the case at `span`, and what is wrong with it. -/
def attributes (a : Annotation) (span : String) (suppress : Bool) :
    Except Context.Fault (Option Attributes × List Diagnostic) :=
  (a.read span suppress).alone

end Annotation

end Errata
