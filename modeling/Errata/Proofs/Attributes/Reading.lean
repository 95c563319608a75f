import Errata.Attributes
import Errata.Proofs.Diagnostic.Recording
import Mathlib.Data.List.Basic

/-!
# Reading an annotation

What the reader of an annotation gives and what it records, said without the steps that it takes. The
keywords are read one after the other into a draft; since no keyword comes twice, the draft holds in the
end what each keyword gives by itself (`attributes?_foldl_keywords`). With that `records_read` describes
a whole run: `Annotation.reading` is what it gives, `Annotation.faults` is what it records, and
`Annotation.unshown?` is what it stops at.
-/

namespace Errata

namespace Annotation

/-- The problem of one keyword, if it has one. -/
def keywordProblem? (key : String) (v : Value) : Option Problem :=
  if key = "status" then if (Status.ofValue? v).isNone then some .badStatus else none
  else if key = "code" then if v.code?.isNone then some .badCode else none
  else if key = "hint" then if v.wording?.isNone then some .badHint else none
  else if key = "description" then if v.wording?.isNone then some .badDescription else none
  else some .unknownAttribute

/-- The diagnostic of one keyword, if it has a problem. -/
def keywordFault? (span : String) (e : String × Value) : Option Diagnostic :=
  (keywordProblem? e.1 e.2).map fun p => ⟨s!"{span}.{e.1}", p⟩

/-- The diagnostics of the keywords, in their order. -/
def keywordFaults (a : Annotation) (span : String) : List Diagnostic :=
  a.keywords.entries.filterMap (keywordFault? span)

/-- The keyword is a status or a code that cannot be used. -/
def isBadStatusOrCode (e : String × Value) : Bool :=
  keywordProblem? e.1 e.2 = some .badStatus || keywordProblem? e.1 e.2 = some .badCode

/-- The status that the keywords give. -/
def status? (a : Annotation) : Option Status := (a.keyword? "status").bind Status.ofValue?

/-- The code that the keywords give. -/
def code? (a : Annotation) : Option Wording := (a.keyword? "code").bind Value.code?

/-- The hint that the keywords give. -/
def hint? (a : Annotation) : Option Wording := (a.keyword? "hint").bind Value.wording?

/-- The description that the keywords give. -/
def description? (a : Annotation) : Option Wording :=
  (a.keyword? "description").bind Value.wording?

/-- The attributes that the keywords give to a request, if there are a status and a code. -/
def requestAttributes? (a : Annotation) : Option RequestAttributes :=
  match a.status?, a.code? with
  | some status, some code => some ⟨status, code, a.hint?, a.description?⟩
  | _, _ => none

/-- What keeps the arguments behind the first from being shown. -/
def unshownStray? (a : Annotation) : Option InspectFault := a.args.tail.findSome? Value.unshown?

/-- The diagnostics of the arguments behind the first. -/
def strayFaults (a : Annotation) (span : String) : List Diagnostic :=
  a.args.tail.map fun v => ⟨span ++ "(" ++ v.inspect ++ ")", .onlyAssignments⟩

/-- The diagnostic of a request without a status or a code, unless it may be left out. -/
def lackFault (a : Annotation) (span : String) (suppress : Bool) : List Diagnostic :=
  if a.requestAttributes?.isNone && !(a.keywords.entries.any isBadStatusOrCode && suppress) then
    [⟨span, .bothRequired⟩]
  else []

/-- Everything that is wrong with the annotation of a request. -/
def requestFaults (a : Annotation) (span : String) (suppress : Bool) : List Diagnostic :=
  a.strayFaults span ++ (a.keywordFaults span ++ a.lackFault span suppress)

/-- Everything that is wrong with an annotation. -/
def faults (a : Annotation) (span : String) (suppress : Bool) : List Diagnostic :=
  match a.disposition? with
  | none => [⟨span, .badDisposition⟩]
  | some .internal => []
  | some .request => a.requestFaults span suppress

/-- What keeps an annotation from being read. -/
def unshown? (a : Annotation) : Option InspectFault :=
  match a.disposition? with
  | some .request => a.unshownStray?
  | _ => none

/-- The attributes that an annotation gives to its case. -/
def reading (a : Annotation) : Option Attributes :=
  match a.disposition? with
  | none => none
  | some .internal => some .internal
  | some .request => a.requestAttributes?.map .request

end Annotation

namespace RequestDraft

/-- The draft after one more keyword. -/
def next (d : RequestDraft) (e : String × Value) : RequestDraft :=
  if e.1 = "status" then
    { d with
      status := Status.ofValue? e.2
      spoiled := d.spoiled || (Status.ofValue? e.2).isNone }
  else if e.1 = "code" then { d with code := e.2.code?, spoiled := d.spoiled || e.2.code?.isNone }
  else if e.1 = "hint" then { d with hint := e.2.wording? }
  else if e.1 = "description" then { d with description := e.2.wording? }
  else d

/-- One keyword is read into the draft, and its diagnostic is recorded. -/
lemma records_readKeyword (span : String) (d : RequestDraft) (e : String × Value) :
    (readKeyword span d e.1 e.2).Records none (d.next e) ( Annotation.keywordFault? span e).toList := by
  obtain ⟨key, v⟩ := e
  have listed (p : Problem) (b : Bool) (place : String) :
      ((if b then some p else none).map fun p => (⟨place, p⟩ : Diagnostic)).toList =
        if b then [⟨place, p⟩] else [] := by
    cases b <;> rfl
  unfold readKeyword next Annotation.keywordFault? Annotation.keywordProblem?
  -- Every known keyword is required to be readable; any other one is reported whatever it says.
  by_cases status : key = "status"
  · simp only [if_pos status, listed]
    exact (Validation.records_require _ _ _).map fun status =>
      { d with status, spoiled := d.spoiled || status.isNone }
  by_cases code : key = "code"
  · simp only [if_neg status, if_pos code, listed]
    exact (Validation.records_require _ _ _).map fun code =>
      { d with code, spoiled := d.spoiled || code.isNone }
  by_cases hint : key = "hint"
  · simp only [if_neg status, if_neg code, if_pos hint, listed]
    exact (Validation.records_require _ _ _).map fun hint => { d with hint }
  by_cases description : key = "description"
  · simp only [if_neg status, if_neg code, if_neg hint, if_pos description, listed]
    exact (Validation.records_require _ _ _).map fun description => { d with description }
  simp only [if_neg status, if_neg code, if_neg hint, if_neg description]
  exact (Validation.records_report _ _).map fun _ => d

/-- What a field of the draft holds in the end, where only one keyword is read into it. -/
lemma field_foldl_next {β : Type} {field : RequestDraft → Option β} {key : String}
    {value : Value → Option β} (hit : ∀ (d : RequestDraft) v, field (d.next (key, v)) = value v)
    (miss : ∀ (d : RequestDraft) k v, k ≠ key → field (d.next (k, v)) = field d)
    {es : List (String × Value)} (nodup : (es.map Prod.fst).Nodup) (d : RequestDraft) :
    field (es.foldl next d) =
      match es.find? fun e => e.1 = key with
      | some e => value e.2
      | none => field d := by
  induction es generalizing d with
  | nil => rfl
  | cons e es ih =>
    obtain ⟨k, v⟩ := e
    rw [List.map_cons, List.nodup_cons] at nodup
    rw [List.foldl_cons, ih nodup.2]
    by_cases same : k = key
    · -- The keyword does not come again, so that its value stays.
      subst same
      have fresh : es.find? (fun e => e.1 = k) = none := by
        rw [List.find?_eq_none]
        intro e member
        simpa using fun again => nodup.1 (List.mem_map.2 ⟨e, member, again⟩)
      simp [fresh, hit]
    · rw [List.find?_cons_of_neg (by simpa using same), miss d k v same]

/-- A draft is spoiled by the keywords that are read into it. -/
lemma spoiled_foldl_next (es : List (String × Value)) (d : RequestDraft) :
    (es.foldl next d).spoiled = (d.spoiled || es.any Annotation.isBadStatusOrCode) := by
  induction es generalizing d with
  | nil => simp
  | cons e es ih =>
    have first : (d.next e).spoiled = (d.spoiled || Annotation.isBadStatusOrCode e) := by
      unfold next Annotation.isBadStatusOrCode Annotation.keywordProblem?
      split_ifs <;> simp_all
    rw [List.foldl_cons, ih, first, List.any_cons, Bool.or_assoc]

/-- A keyword's field holds in the end what the keyword gives, if it is there. -/
lemma field_foldl_keywords {β : Type} (field : RequestDraft → Option β) (key : String)
    (value : Value → Option β) (hit : ∀ (d : RequestDraft) v, field (d.next (key, v)) = value v)
    (miss : ∀ (d : RequestDraft) k v, k ≠ key → field (d.next (k, v)) = field d)
    (start : field blank = none) (a : Annotation) :
    field (a.keywords.entries.foldl next blank) = (a.keyword? key).bind value := by
  rw [field_foldl_next hit miss a.keywords.nodup, start]
  unfold Annotation.keyword? OrderedMap.get?
  cases a.keywords.entries.find? fun e => e.1 = key <;> rfl

/-- The final draft holds what the keywords give, each in its own field. -/
lemma fields_foldl_keywords (a : Annotation) :
    let d := a.keywords.entries.foldl next blank
    d.status = a.status? ∧ d.code = a.code? ∧ d.hint = a.hint? ∧ d.description = a.description? := by
  refine ⟨field_foldl_keywords status "status" Status.ofValue? (fun _ _ => rfl) ?_ rfl a,
    field_foldl_keywords code "code" Value.code? (fun _ _ => rfl) ?_ rfl a,
    field_foldl_keywords hint "hint" Value.wording? (fun _ _ => rfl) ?_ rfl a,
    field_foldl_keywords description "description" Value.wording? (fun _ _ => rfl) ?_ rfl a⟩
  -- No other keyword is read into the field.
  all_goals
    intro d k v other
    simp only [next, if_neg other]
    split_ifs <;> rfl

/-- The attributes of the final draft. -/
lemma attributes?_foldl_keywords (a : Annotation) :
    (a.keywords.entries.foldl next blank).attributes? = a.requestAttributes? := by
  obtain ⟨status, code, hint, description⟩ := fields_foldl_keywords a
  unfold attributes? Annotation.requestAttributes?
  rw [status, code]
  cases a.status? with
  | none => rfl
  | some s =>
    cases a.code? with
    | none => rfl
    | some c => rw [hint, description]

end RequestDraft

namespace Annotation

/-- What reading the annotation of a request gives and records. -/
lemma records_readRequest (a : Annotation) (span : String) (suppress : Bool) :
    (a.readRequest span suppress).Records a.unshownStray? a.requestAttributes? (a.requestFaults span suppress) := by
  have argument (v : Value) := (Validation.records_shown v).bind
    (f := fun text => Validation.report (span ++ "(" ++ text ++ ")") .onlyAssignments) (Validation.records_report _ _)
  have stray := Validation.Records.forM argument a.args.tail
  have keywords := Validation.Records.foldlM (RequestDraft.records_readKeyword span)
    a.keywords.entries .blank
  have spoiled := RequestDraft.spoiled_foldl_next a.keywords.entries .blank
  -- Both loops are said as lists of faults, and the draft that the second leaves decides on the lack.
  rw [← List.filterMap_eq_flatMap_toList] at keywords
  simp only [Option.or_none, List.nil_append, ← List.map_eq_flatMap] at stray
  have stops : a.unshownStray? = (a.args.tail.findSome? fun v => v.unshown?).or (none.or none) :=
    Option.or_none.symm
  rw [stops]
  refine stray.bind (keywords.bind ?_)
  rw [RequestDraft.attributes?_foldl_keywords, spoiled]
  exact Validation.records_report_before _ span .bothRequired a.requestAttributes?

/-- What reading an annotation gives and records. -/
lemma records_read (a : Annotation) (span : String) (suppress : Bool) :
    (a.read span suppress).Records a.unshown? a.reading (a.faults span suppress) := by
  unfold Annotation.read unshown? reading faults
  cases a.disposition? with
  | none => exact (Validation.records_report _ _).map fun _ => none
  | some d =>
    cases d with
    | internal => exact .pure _
    | request => exact (a.records_readRequest span suppress).map (Option.map Attributes.request)

end Annotation

end Errata
