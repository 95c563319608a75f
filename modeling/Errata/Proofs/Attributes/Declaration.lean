import Errata.Proofs.Attributes.Reading

/-!
# What an annotation declares

An annotation declares a request case or an internal one, and says what a request is answered with.
`Annotation.Declares` states this without the reader: which arguments and keywords there have to be, and
what each of them has to write. An annotation declares exactly what is read from it without a fault
(`declares_iff`). Where nothing can be read something is recorded, so that no case is dropped in silence
(`exists_fault_of_reading_eq_none`).
-/

namespace Errata

/-- The value writes a status: a registered one, or a number with three digits. -/
inductive Value.WritesStatus : Value → Int → Prop where
  | registered (h : HttpStatus) :
    WritesStatus (.status h) h.code
  | number {n : Int} :
    100 ≤ n →
    n ≤ 999 →
    WritesStatus (.int n) n

/-- The value writes a text, by itself or as a keyword that equals it. -/
inductive Value.WritesText : Value → String → Prop where
  | literal (s : String) :
    WritesText (.text s) s
  | keyword (d : Disposition) :
    WritesText (.disposition d) d.text

/-- What a case is declared to be. -/
inductive Declaration where
  | request (status : Int) (code : String) (hint description : Option String)
  | internal
  deriving DecidableEq

/-- What attributes amount to, whichever way they are spelled. -/
def Attributes.declaration : Attributes → Declaration
  | .request r =>
    .request r.status.value r.code.text (r.hint.map Wording.text) (r.description.map Wording.text)
  | .internal => .internal

namespace Annotation

/-- The keywords that a request may have. -/
def requestKeywords : List String := ["status", "code", "hint", "description"]

/-- What an annotation declares. Behind the word for an internal case anything may stand. -/
inductive Declares (a : Annotation) : Declaration → Prop where
  | request {disposition statusValue codeValue : Value} {status code hint description} :
    a.args = [disposition] →
    disposition.WritesText Disposition.request.text →
    (∀ key ∈ a.keywords.keys, key ∈ requestKeywords) →
    a.keyword? "status" = some statusValue →
    statusValue.WritesStatus status →
    a.keyword? "code" = some codeValue →
    codeValue.WritesText code →
    code ≠ "" →
    Option.Rel Value.WritesText (a.keyword? "hint") hint →
    Option.Rel Value.WritesText (a.keyword? "description") description →
    Declares a (.request status code hint description)
  | internal {disposition : Value} {ignored : List Value} :
    a.args = disposition :: ignored →
    disposition.WritesText Disposition.internal.text →
    Declares a .internal

end Annotation

/-! ## Single values -/

/-- A status is read from the values that write one. -/
lemma Status.ofValue?_iff {v : Value} {n : Int} :
    (∃ s, ofValue? v = some s ∧ s.value = n) ↔ v.WritesStatus n := by
  constructor
  · rintro ⟨s, read, rfl⟩
    have ⟨low, high⟩ := value_bounds_of_ofValue? read
    cases v with
    | status h =>
      cases read
      exact .registered h
    | int m =>
      simp only [ofValue?, ofInt?] at read
      split at read
      · cases read
        exact .number low high
      · cases read
    | _ => cases read
  · intro writes
    cases writes with
    | registered h => exact ⟨.registered h, rfl, rfl⟩
    | @number n low high => exact ⟨.number n, by simp [ofValue?, ofInt?, low, high], rfl⟩

/-- A wording is read from the values that write a text. -/
lemma Value.wording?_iff {v : Value} {s : String} :
    (∃ w, v.wording? = some w ∧ w.text = s) ↔ v.WritesText s := by
  constructor
  · rintro ⟨w, read, rfl⟩
    cases v with
    | text s =>
      cases read
      exact .literal s
    | disposition d =>
      cases read
      exact .keyword d
    | _ => cases read
  · intro writes
    cases writes with
    | literal s => exact ⟨.literal s, rfl, rfl⟩
    | keyword d => exact ⟨.keyword d, rfl, rfl⟩

/-- A code is read from the values that write a text which is not empty. -/
lemma Value.code?_iff {v : Value} {s : String} :
    (∃ w, v.code? = some w ∧ w.text = s) ↔ v.WritesText s ∧ s ≠ "" := by
  rw [← wording?_iff]
  constructor
  · rintro ⟨w, read, rfl⟩
    obtain ⟨read, full⟩ := Option.filter_eq_some_iff.1 read
    exact ⟨⟨w, read, rfl⟩, by simpa using full⟩
  · rintro ⟨⟨w, read, rfl⟩, full⟩
    exact ⟨w, Option.filter_eq_some_iff.2 ⟨read, by simpa using full⟩, rfl⟩

/-- A disposition is read from the values that write its word. -/
lemma Value.disposition?_iff {v : Value} {d : Disposition} :
    v.disposition? = some d ↔ v.WritesText d.text := by
  constructor
  · intro read
    cases v with
    | text s =>
      rw [Disposition.ofText?_eq_some_iff.1 read]
      exact .literal d.text
    | disposition e =>
      cases read
      exact .keyword d
    | _ => cases read
  · intro writes
    generalize e : d.text = s at writes
    cases writes with
    | literal s => exact Disposition.ofText?_eq_some_iff.2 e.symm
    | keyword d' =>
      have both := Disposition.ofText?_text d
      rw [e, Disposition.ofText?_text] at both
      exact both

/-- An optional text that could be read is one that is written, if it is there at all. -/
lemma Value.rel_writesText_iff {v : Option Value} {s : Option String} :
    Option.Rel Value.WritesText v s ↔
      (∀ x, v = some x → x.wording?.isSome) ∧ (v.bind Value.wording?).map Wording.text = s := by
  constructor
  · intro rel
    cases rel with
    | none => exact ⟨nofun, rfl⟩
    | @some x s writes =>
      obtain ⟨w, read, rfl⟩ := Value.wording?_iff.2 writes
      refine ⟨?_, by simp [read]⟩
      rintro _ ⟨⟩
      simp [read]
  · rintro ⟨readable, rfl⟩
    cases v with
    | none => exact .none
    | some x =>
      obtain ⟨w, read⟩ := Option.isSome_iff_exists.1 (readable x rfl)
      simp only [Option.bind_some, read, Option.map_some]
      exact .some (Value.wording?_iff.1 ⟨w, read, rfl⟩)

namespace Annotation

/-! ## The keywords of a request -/

/-- A keyword that a request may have, with a value that can be used. -/
inductive UsableKeyword : String → Value → Prop where
  | status {v : Value} {n : Int} :
    v.WritesStatus n →
    UsableKeyword "status" v
  | code {v : Value} {s : String} :
    v.WritesText s →
    s ≠ "" →
    UsableKeyword "code" v
  | hint {v : Value} {s : String} :
    v.WritesText s →
    UsableKeyword "hint" v
  | description {v : Value} {s : String} :
    v.WritesText s →
    UsableKeyword "description" v

/-- A keyword has no problem when it can be used. -/
lemma keywordProblem?_eq_none_iff {key : String} {v : Value} :
    keywordProblem? key v = none ↔ UsableKeyword key v := by
  constructor
  · intro clean
    have readable {β : Type} {x : Option β} (h : ¬x.isNone) : ∃ b, x = some b :=
      Option.ne_none_iff_exists'.1 fun e => h (Option.isNone_iff_eq_none.2 e)
    unfold keywordProblem? at clean
    split_ifs at clean with status bad code bad hint bad description bad
    · obtain ⟨s, read⟩ := readable bad
      subst status
      exact .status (Status.ofValue?_iff.1 ⟨s, read, rfl⟩)
    · obtain ⟨w, read⟩ := readable bad
      have ⟨writes, full⟩ := Value.code?_iff.1 ⟨w, read, rfl⟩
      subst code
      exact .code writes full
    · obtain ⟨w, read⟩ := readable bad
      subst hint
      exact .hint (Value.wording?_iff.1 ⟨w, read, rfl⟩)
    · obtain ⟨w, read⟩ := readable bad
      subst description
      exact .description (Value.wording?_iff.1 ⟨w, read, rfl⟩)
  · intro usable
    cases usable with
    | status writes =>
      obtain ⟨s, read, _⟩ := Status.ofValue?_iff.2 writes
      simp [keywordProblem?, read]
    | code writes full =>
      obtain ⟨w, read, _⟩ := Value.code?_iff.2 ⟨writes, full⟩
      simp [keywordProblem?, read]
    | hint writes =>
      obtain ⟨w, read, _⟩ := Value.wording?_iff.2 writes
      simp [keywordProblem?, read]
    | description writes =>
      obtain ⟨w, read, _⟩ := Value.wording?_iff.2 writes
      simp [keywordProblem?, read]

/-- No keyword is reported when all of them can be used. -/
lemma keywordFaults_eq_nil_iff {a : Annotation} {span : String} :
    a.keywordFaults span = [] ↔ ∀ key v, a.keyword? key = some v → UsableKeyword key v := by
  unfold keywordFaults
  rw [List.filterMap_eq_nil_iff]
  constructor
  · intro clean key v found
    have := clean (key, v) (OrderedMap.get?_eq_some_iff.1 found)
    exact keywordProblem?_eq_none_iff.1 (Option.map_eq_none_iff.1 this)
  · rintro usable ⟨key, v⟩ member
    have := usable key v (OrderedMap.get?_eq_some_iff.2 member)
    exact Option.map_eq_none_iff.2 (keywordProblem?_eq_none_iff.2 this)

/-- Where every keyword can be used, none is a bad status or a bad code. -/
lemma any_isBadStatusOrCode_eq_false {a : Annotation}
    (usable : ∀ key v, a.keyword? key = some v → UsableKeyword key v) :
    a.keywords.entries.any isBadStatusOrCode = false := by
  rw [List.any_eq_false]
  rintro ⟨key, v⟩ member
  have := usable key v (OrderedMap.get?_eq_some_iff.2 member)
  simp [isBadStatusOrCode, keywordProblem?_eq_none_iff.2 this]

/-- The attributes of a request are there when its status and its code are. -/
lemma requestAttributes?_eq_some_iff {a : Annotation} {r : RequestAttributes} :
    a.requestAttributes? = some r ↔
      a.status? = some r.status ∧ a.code? = some r.code ∧
        a.hint? = r.hint ∧ a.description? = r.description := by
  unfold requestAttributes?
  constructor
  · intro there
    split at there
    · cases there
      exact ⟨‹_›, ‹_›, rfl, rfl⟩
    · cases there
  · rintro ⟨status, code, hint, description⟩
    rw [status, code, hint, description]

/-! ## What is declared is what is read -/

/-- The disposition of an annotation is what its first argument writes. -/
lemma disposition?_eq_some_iff {a : Annotation} {d : Disposition} :
    a.disposition? = some d ↔ ∃ v rest, a.args = v :: rest ∧ v.WritesText d.text := by
  unfold disposition?
  cases a.args with
  | nil => simp
  | cons v rest => simp [Value.disposition?_iff]

/-- A request has no fault when its first argument is its only one, all its keywords can be used, and
it has a status and a code. -/
lemma requestFaults_eq_nil_iff {a : Annotation} {span : String} {suppress : Bool} :
    a.requestFaults span suppress = [] ↔
      a.args.tail = [] ∧ (∀ key v, a.keyword? key = some v → UsableKeyword key v) ∧
        a.requestAttributes?.isSome := by
  unfold requestFaults strayFaults
  rw [List.append_eq_nil_iff, List.append_eq_nil_iff, keywordFaults_eq_nil_iff,
    List.map_eq_nil_iff]
  refine and_congr_right fun _ => and_congr_right fun usable => ?_
  -- The lack of a status or a code may only be kept back where a keyword was reported.
  have reported := any_isBadStatusOrCode_eq_false usable
  cases h : a.requestAttributes? <;> simp [lackFault, h, reported]

/-- Every keyword of a request that is declared can be used. -/
lemma Declares.usable {a : Annotation} {status code hint description}
    (declares : a.Declares (.request status code hint description)) :
    ∀ key v, a.keyword? key = some v → UsableKeyword key v := by
  intro key v found
  cases declares with
  | request args word known statusThere number codeThere text full hintRel descriptionRel =>
    have member := known key (OrderedMap.mem_keys_iff.2 ⟨v, found⟩)
    simp only [requestKeywords, List.mem_cons, List.not_mem_nil, or_false] at member
    rcases member with rfl | rfl | rfl | rfl
    · rw [statusThere] at found
      cases found
      exact .status number
    · rw [codeThere] at found
      cases found
      exact .code text full
    · rw [found] at hintRel
      cases hintRel with
      | some writes => exact .hint writes
    · rw [found] at descriptionRel
      cases descriptionRel with
      | some writes => exact .description writes

/-- A hint that can be used writes a text. -/
lemma UsableKeyword.readable {key : String} {v : Value} (usable : UsableKeyword key v) :
    key = "hint" ∨ key = "description" → v.wording?.isSome := by
  have some_of_writes {s : String} (writes : v.WritesText s) : v.wording?.isSome := by
    obtain ⟨w, read, -⟩ := Value.wording?_iff.2 writes
    exact Option.isSome_of_eq_some read
  cases usable with
  | status _ => exact fun h => absurd h (by decide)
  | code _ _ => exact fun h => absurd h (by decide)
  | hint writes => exact fun _ => some_of_writes writes
  | description writes => exact fun _ => some_of_writes writes

/-- An annotation that declares something has no argument that has to be shown. -/
lemma Declares.shown {a : Annotation} {d : Declaration} (declares : a.Declares d) : a.unshown? = none := by
  cases declares with
  | internal args word =>
    rw [unshown?, disposition?_eq_some_iff.2 ⟨_, _, args, word⟩]
  | request args word =>
    rw [unshown?, disposition?_eq_some_iff.2 ⟨_, _, args, word⟩, unshownStray?, args]
    rfl

/-- What an annotation declares is read from it, and nothing is recorded. -/
lemma Declares.read {a : Annotation} {d : Declaration} (declares : a.Declares d) (span : String)
    (suppress : Bool) :
    a.faults span suppress = [] ∧ a.reading.map Attributes.declaration = some d := by
  cases declares with
  | internal args word =>
    have internal := disposition?_eq_some_iff.2 ⟨_, _, args, word⟩
    simp [faults, reading, internal, Attributes.declaration]
  | request args word known statusThere number codeThere text full hintRel descriptionRel =>
    have usable := Declares.usable
      (.request args word known statusThere number codeThere text full hintRel descriptionRel)
    have request := disposition?_eq_some_iff.2 ⟨_, _, args, word⟩
    obtain ⟨s, readStatus, rfl⟩ := Status.ofValue?_iff.2 number
    obtain ⟨w, readCode, rfl⟩ := Value.code?_iff.2 ⟨text, full⟩
    obtain ⟨-, rfl⟩ := Value.rel_writesText_iff.1 hintRel
    obtain ⟨-, rfl⟩ := Value.rel_writesText_iff.1 descriptionRel
    have attributes : a.requestAttributes? = some ⟨s, w, a.hint?, a.description?⟩ := by
      simp [requestAttributes?, status?, statusThere, readStatus, code?, codeThere, readCode]
    constructor
    · simp only [faults, request]
      exact requestFaults_eq_nil_iff.2 ⟨by simp [args], usable, by simp [attributes]⟩
    · simp only [reading, request, attributes, Option.map_some, Attributes.declaration]
      rfl

/-- The attributes that are read from a request without a fault are what it declares. -/
lemma declares_of_requestFaults {a : Annotation} {span : String} {suppress : Bool}
    {r : RequestAttributes} (request : a.disposition? = some .request)
    (clean : a.requestFaults span suppress = []) (attributes : a.requestAttributes? = some r) :
    a.Declares (Attributes.request r).declaration := by
  obtain ⟨v, rest, args, word⟩ := disposition?_eq_some_iff.1 request
  obtain ⟨alone, usable, -⟩ := requestFaults_eq_nil_iff.1 clean
  obtain ⟨status, code, hint, description⟩ := requestAttributes?_eq_some_iff.1 attributes
  obtain ⟨statusValue, statusThere, readStatus⟩ := Option.bind_eq_some_iff.1 status
  obtain ⟨codeValue, codeThere, readCode⟩ := Option.bind_eq_some_iff.1 code
  have ⟨text, full⟩ := Value.code?_iff.1 ⟨r.code, readCode, rfl⟩
  refine .request ?_ word ?_ statusThere (Status.ofValue?_iff.1 ⟨r.status, readStatus, rfl⟩)
    codeThere text full ?_ ?_
  · rw [args] at alone ⊢
    exact congrArg (v :: ·) alone
  · intro key member
    obtain ⟨x, found⟩ := OrderedMap.mem_keys_iff.1 member
    cases usable key x found <;> decide
  -- A missing hint or description is none; one that is there was usable, and is not dropped.
  · refine Value.rel_writesText_iff.2 ⟨fun x found => ?_, congrArg _ hint⟩
    exact (usable "hint" x found).readable (.inl rfl)
  · refine Value.rel_writesText_iff.2 ⟨fun x found => ?_, congrArg _ description⟩
    exact (usable "description" x found).readable (.inr rfl)

/-- An annotation declares what is read from it without a fault. -/
lemma declares_iff {a : Annotation} {d : Declaration} {span : String} {suppress : Bool} :
    a.Declares d ↔
      a.faults span suppress = [] ∧ a.reading.map Attributes.declaration = some d := by
  constructor
  · intro declares
    exact declares.read span suppress
  · rintro ⟨clean, given⟩
    unfold faults at clean
    unfold reading at given
    split at clean
    · cases clean
    · rename_i internal
      obtain ⟨v, rest, args, word⟩ := disposition?_eq_some_iff.1 internal
      rw [internal] at given
      cases given
      exact .internal args word
    · rename_i request
      obtain ⟨-, -, there⟩ := requestFaults_eq_nil_iff.1 clean
      obtain ⟨r, attributes⟩ := Option.isSome_iff_exists.1 there
      rw [request, attributes] at given
      cases given
      exact declares_of_requestFaults request clean attributes

/-- Where nothing can be read, something is recorded at the place of the case. -/
lemma exists_fault_of_reading_eq_none {a : Annotation} (span : String) (suppress : Bool)
    (dropped : a.reading = none) :
    ∃ d ∈ a.faults span suppress, ∃ rest, d.span = span ++ rest := by
  unfold reading at dropped
  unfold faults
  split at dropped
  · exact ⟨⟨span, .badDisposition⟩, by simp [*], "", by simp⟩
  · cases dropped
  · rename_i request
    have lacking : a.requestAttributes? = none := Option.map_eq_none_iff.1 dropped
    simp only [requestFaults, List.mem_append]
    by_cases bad : a.keywords.entries.any isBadStatusOrCode
    · -- A bad status or code has its own diagnostic, whether the lack is reported or not.
      obtain ⟨e, member, bad⟩ := List.any_eq_true.1 bad
      have problem : ∃ p, keywordProblem? e.1 e.2 = some p := by
        simp only [isBadStatusOrCode, Bool.or_eq_true, decide_eq_true_eq] at bad
        rcases bad with bad | bad
        · exact ⟨_, bad⟩
        · exact ⟨_, bad⟩
      obtain ⟨p, problem⟩ := problem
      have fault : keywordFault? span e = some ⟨span ++ "." ++ e.1, p⟩ := by
        simp only [keywordFault?, problem, Option.map_some]
        rfl
      exact ⟨_, .inr (.inl (List.mem_filterMap.2 ⟨e, member, fault⟩)), "." ++ e.1,
        String.append_assoc ..⟩
    · exact ⟨⟨span, .bothRequired⟩, .inr (.inr (by simp [lackFault, lacking, bad])), "", by simp⟩

/-- An annotation without a fault declares something. -/
lemma faults_eq_nil_iff {a : Annotation} {span : String} {suppress : Bool} :
    a.faults span suppress = [] ↔ ∃ d, a.Declares d := by
  constructor
  · intro clean
    cases given : a.reading with
    | none =>
      obtain ⟨d, member, -⟩ := exists_fault_of_reading_eq_none span suppress given
      rw [clean] at member
      cases member
    | some attributes =>
      exact ⟨attributes.declaration, declares_iff.2 ⟨clean, by rw [given]; rfl⟩⟩
  · rintro ⟨d, declares⟩
    exact (declares_iff.1 declares).1

end Annotation

end Errata
