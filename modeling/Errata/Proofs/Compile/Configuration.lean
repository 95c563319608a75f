import Errata.Proofs.Compile.Locality
import Errata.Proofs.Reply.Secrecy

/-!
# The code of internal errors

A unit is configured by one keyword, the code that its internal errors share. An annotation that says anything
else is told in one warning and counts as none, so that it never decides whether the unit is accepted. The one
code goes to the rule of every internal case and to the artifact that all of them share, which is documented once
however many there are, and which no case that is shown to the client can hide (`internal_errors_share_code`).
-/

namespace Errata

/-- The value that a wording is written as. -/
def Wording.value : Wording → Value
  | literal s => .text s
  | keyword d => .disposition d

/-- A value is read as the wording that it was written as. -/
lemma Value.wording?_eq_some_iff {v : Value} {w : Wording} : v.wording? = some w ↔ v = w.value := by
  constructor
  · intro read
    cases v with
    | text s =>
      cases read
      rfl
    | disposition d =>
      cases read
      rfl
    | _ => cases read
  · rintro rfl
    cases w <;> rfl

/-- The records of one channel, in their order. -/
def Log.on (channel : Channel) (records : List Record) : List Record :=
  records.filter fun r => r.channel = channel

namespace Annotation

variable {a : Annotation}

/-- An annotation gives a code when that is all it says, and the code is not empty. -/
structure Configures (a : Annotation) (code : Wording) : Prop where
  args : a.args = []
  keywords : a.keywords.entries = [("internal_code", code.value)]
  filled : code.text ≠ ""

/-- A code that is given is taken, and nothing is said about it. -/
lemma Configures.internalCode {code : Wording} (configures : a.Configures code) (unitName : String) :
    a.internalCode unitName = .quiet code := by
  obtain ⟨args, keywords, filled⟩ := configures
  have read : code.value.wording? = some code := Value.wording?_eq_some_iff.2 rfl
  simp [ Annotation.internalCode, isEmpty, args, keywords, internalCodeKeyword, read, filled]

/-- An annotation that says something but gives no code is told once, and the default is taken. -/
lemma internalCode_of_unread (full : a.isEmpty = false) (unread : ∀ code, ¬a.Configures code)
    (unitName : String) :
    ∃ message, a.internalCode unitName = ⟨[⟨.configuration, message⟩], defaultInternalCode⟩ := by
  unfold Annotation.internalCode
  rw [full, if_neg Bool.false_ne_true]
  split
  · rename_i key v args keywords
    split_ifs with known
    · cases read : v.wording? with
      | none => exact ⟨_, rfl⟩
      | some w =>
        dsimp only
        split_ifs with empty
        · exact ⟨_, rfl⟩
        · -- The code would have been taken.
          cases Value.wording?_eq_some_iff.1 read
          cases known
          exact absurd ⟨args, keywords, empty⟩ (unread w)
    · exact ⟨_, rfl⟩
  · exact ⟨_, rfl⟩

end Annotation

namespace UnitDecl

variable {u : UnitDecl}

/-- The annotation of a unit gives a code. -/
def Configured (u : UnitDecl) (code : Wording) : Prop := ∃ a, u.annotation = some a ∧ a.Configures code

/-- The annotation of a unit says something, but gives no code. -/
structure Misconfigured (u : UnitDecl) : Prop where
  annotated : ∃ a, u.annotation = some a ∧ (a.args ≠ [] ∨ a.keywords.entries ≠ [])
  unread : ∀ code, ¬u.Configured code

/-- A unit is configured, or misconfigured, or says nothing about its internal errors. -/
lemma internalCode_cases (u : UnitDecl) :
    (∃ code, u.Configured code ∧ u.internalCode = .quiet code) ∨
      u.Misconfigured ∧ (∃ message, u.internalCode = ⟨[⟨.configuration, message⟩], defaultInternalCode⟩) ∨
      (∀ code, ¬u.Configured code) ∧ ¬u.Misconfigured ∧ u.internalCode = .quiet defaultInternalCode := by
  unfold internalCode Configured
  cases annotated : u.annotation with
  | none =>
    refine .inr (.inr ⟨by simp, fun wrong => ?_, rfl⟩)
    obtain ⟨a, there, -⟩ := wrong.annotated
    rw [annotated] at there
    cases there
  | some a =>
    by_cases read : ∃ code, a.Configures code
    · obtain ⟨code, configures⟩ := read
      exact .inl ⟨code, ⟨a, rfl, configures⟩, configures.internalCode u.name⟩
    · have unread : ∀ code, ¬u.Configured code := by
        rintro code ⟨b, there, configures⟩
        rw [annotated] at there
        cases there
        exact read ⟨code, configures⟩
      cases full : a.isEmpty with
      | false =>
        refine .inr (.inl ⟨⟨⟨a, annotated, ?_⟩, unread⟩, ?_⟩)
        · simpa [ Annotation.isEmpty, imp_iff_not_or] using full
        · exact Annotation.internalCode_of_unread full (not_exists.1 read) u.name
      | true =>
        refine .inr (.inr ⟨by simpa using read, fun wrong => ?_, ?_⟩)
        · obtain ⟨b, there, said⟩ := wrong.annotated
          rw [annotated] at there
          cases there
          simp [ Annotation.isEmpty] at full
          exact said.elim (· full.1) (· full.2)
        · simp [ Annotation.internalCode, full]

/-- Where no code is given, the default is taken. -/
lemma internalCode_result_of_unread (unread : ∀ code, ¬u.Configured code) :
    u.internalCode.result = defaultInternalCode := by
  obtain ⟨code, configured, -⟩ | ⟨-, message, read⟩ | ⟨-, -, read⟩ := u.internalCode_cases
  · exact absurd configured (unread code)
  · rw [read]
  · rw [read]
    rfl

/-- The shared code is never empty. -/
lemma internalCode_text_ne (u : UnitDecl) : u.internalCode.result.text ≠ "" := by
  by_cases configured : ∃ code, u.Configured code
  · obtain ⟨code, ⟨a, annotated, configures⟩⟩ := configured
    rw [internalCode, annotated]
    dsimp only
    rw [configures.internalCode]
    exact configures.filled
  · rw [internalCode_result_of_unread (not_exists.1 configured)]
    decide

/-- What is said about the configuration of a unit is a single warning, if it is misconfigured, and otherwise
nothing. -/
lemma records_internalCode (u : UnitDecl) :
    (u.Misconfigured → ∃ message, u.internalCode.records = [⟨.configuration, message⟩]) ∧
      (¬u.Misconfigured → u.internalCode.records = []) := by
  obtain ⟨code, configured, read⟩ | ⟨wrong, message, read⟩ | ⟨-, silent, read⟩ := u.internalCode_cases
  · rw [read]
    exact ⟨fun wrong => absurd configured (wrong.unread code), fun _ => rfl⟩
  · rw [read]
    exact ⟨fun _ => ⟨message, rfl⟩, fun right => absurd wrong right⟩
  · rw [read]
    exact ⟨fun wrong => absurd wrong silent, fun _ => rfl⟩

/-- The records of a compilation begin with those about the configuration, and the others are about the
compilation itself. -/
lemma records_compile_eq (u : UnitDecl) (settings : Settings) :
    ∃ rest, (u.compile settings).records = u.internalCode.records ++ rest ∧
      ∀ r ∈ rest, r.channel = .compilation := by
  unfold compile
  rw [Attempt.records_bind (a := ()) rfl]
  refine ⟨_, rfl, ?_⟩
  cases (u.read settings.suppressRedundant).run Context.fresh with
  | error f => exact nofun
  | ok read =>
    obtain ⟨taxonomy, context⟩ := read
    cases context with
    | checked => exact nofun
    | recording ds =>
      cases ds with
      | nil => exact List.forall_mem_singleton.2 rfl
      | cons d ds => exact nofun

/-- Compiling a unit says about its configuration what reading it does. -/
lemma on_configuration_compile (u : UnitDecl) (settings : Settings) :
    Log.on .configuration (u.compile settings).records = u.internalCode.records := by
  obtain ⟨rest, records, others⟩ := u.records_compile_eq settings
  have kept : ∀ r ∈ u.internalCode.records, decide (r.channel = .configuration) = true := by
    by_cases wrong : u.Misconfigured
    · obtain ⟨message, said⟩ := u.records_internalCode.1 wrong
      rw [said]
      exact List.forall_mem_singleton.2 (decide_eq_true rfl)
    · rw [u.records_internalCode.2 wrong]
      exact nofun
  have dropped : ∀ r ∈ rest, ¬decide (r.channel = .configuration) = true := by
    intro r member
    rw [others r member]
    decide
  rw [records, Log.on, List.filter_append, List.filter_eq_self.2 kept, List.filter_eq_nil_iff.2 dropped,
    List.append_nil]

/-- A unit whose annotation gives no code is compiled as if it had none. -/
lemma compile_unannotated (unread : ∀ code, ¬u.Configured code) (settings : Settings) :
    ({ u with annotation := none }.compile settings).outcome = (u.compile settings).outcome := by
  have same (cases : List ErrorCase) : { u with annotation := none }.taxonomy cases = u.taxonomy cases := by
    rw [taxonomy, taxonomy, internalCode_result_of_unread unread]
    rfl
  have faults : { u with annotation := none }.faults settings.suppressRedundant =
      u.faults settings.suppressRedundant := by
    rw [UnitDecl.faults, UnitDecl.faults, same]
    rfl
  have unshown : { u with annotation := none }.unshown? = u.unshown? := rfl
  rw [compile_outcome, compile_outcome, faults, same, unshown]
  rfl

/-- There are internal cases when some are declared. -/
lemma WellFormed.internalCases_eq_nil_iff (wf : u.WellFormed) :
    (u.taxonomy u.readable).internalCases = [] ↔ ¬∃ c ∈ u.cases, c.Declares .internal := by
  have declared : (∃ e ∈ u.readable, e.isInternal = true) ↔ ∃ c ∈ u.cases, c.Declares .internal := by
    rw [exists_readable_iff wf.declared fun _ internal => internal = true]
    exact exists_congr fun c => and_congr_right fun _ => CaseDecl.declares_internal_iff.symm
  rw [← declared, Taxonomy.internalCases, List.filter_eq_nil_iff]
  show (∀ e ∈ u.readable, ¬e.isInternal = true) ↔ _
  simp

end UnitDecl

namespace Docs.Catalogue

variable {t : Taxonomy}

/-- Where there are internal cases, their shared artifact is the only one of its name. -/
lemma count_names_artifactsOf (free : t.reservedFaults = []) (hidden : t.internalCases ≠ []) :
    ((artifactsOf t).map Artifact.name).count internalErrorName = 1 := by
  have nonempty : ¬t.internalCases.isEmpty = true := by simpa using hidden
  have others : internalErrorName ∉ t.clientCases.map ErrorCase.name := by
    intro taken
    obtain ⟨e, member, name⟩ := List.mem_map.1 taken
    exact Taxonomy.name_ne_of_client free nonempty member name
  rw [names_artifactsOf, if_neg nonempty, List.count_append, List.count_eq_zero_of_not_mem others]
  rfl

/-- Where there are internal cases, their shared artifact is found under their name: it stands behind all
others, so that it is set last. -/
lemma get?_internalErrorName (hidden : t.internalCases ≠ []) :
    (ofTaxonomy t).get? internalErrorName = some (.single (.internal t.internalCode)) := by
  have shared : (Artifact.single (.internal t.internalCode)).name = internalErrorName := Artifact.name_single _
  rw [ofTaxonomy, get?_ofArtifacts, artifactsOf_eq, if_neg (by simpa using hidden), List.filter_append,
    List.filter_cons_of_pos (by simpa using shared), List.filter_nil, List.getLast?_concat]

/-- Without internal cases every artifact is that of a case that is shown to the client. -/
lemma exists_client_of_get? (bare : t.internalCases = []) {name : String} {a : Artifact}
    (found : (ofTaxonomy t).get? name = some a) :
    ∃ e ∈ t.clientCases, e.name = name ∧ a = .single (Leaf.ofCase t e) := by
  rw [ofTaxonomy, get?_ofArtifacts, artifactsOf_eq, bare] at found
  obtain ⟨member, named⟩ := List.mem_filter.1 (List.mem_of_getLast? found)
  rw [List.isEmpty_nil, if_pos rfl, List.append_nil] at member
  obtain ⟨e, client, rfl⟩ := List.mem_map.1 member
  exact ⟨e, client, by rw [← name_of_client client]; simpa using named, rfl⟩

end Docs.Catalogue

/-- A unit has the code that its annotation gives for its internal errors, and the default one if it gives none;
an annotation that says anything but a code is told in one warning, and the unit is compiled, or rejected, as if
it had none. In an accepted unit every internal case is answered with that code, which is not empty, and with the
status 500. The internal cases are documented together, once and under one name, with the same code and status;
without them every artifact is that of a case that is shown to the client. -/
theorem internal_errors_share_code (u : UnitDecl) (settings : Settings) :
    (∀ code, u.Configured code → u.internalCode.result = code) ∧
    ((∀ code, ¬u.Configured code) →
      u.internalCode.result = .literal "internal-error" ∧
      ({ u with annotation := none }.compile settings).outcome = (u.compile settings).outcome) ∧
    (u.Misconfigured →
      ∃ message, Log.on .configuration (u.compile settings).records = [⟨.configuration, message⟩]) ∧
    (¬u.Misconfigured → Log.on .configuration (u.compile settings).records = []) ∧
    ∀ compiled, (u.compile settings).outcome = .ok compiled →
      u.internalCode.result.text ≠ "" ∧
      (∀ r ∈ compiled.table.rules, r.isInternal = true →
        r.code = u.internalCode.result.text ∧ r.status = 500) ∧
      ((∃ c ∈ u.cases, c.Declares .internal) →
        ((Docs.Catalogue.artifactsOf compiled.taxonomy).map Docs.Artifact.name).count "InternalError" = 1 ∧
        ∃ a, compiled.catalogue.get? "InternalError" = some a ∧ a = .single (.internal u.internalCode.result) ∧
          a.codes = [u.internalCode.result.text] ∧ a.status = 500) ∧
      ((¬∃ c ∈ u.cases, c.Declares .internal) → ∀ name a, compiled.catalogue.get? name = some a →
        ∃ e ∈ compiled.taxonomy.clientCases, e.name = name ∧
          a = .single (Docs.Leaf.ofCase compiled.taxonomy e)) := by
  refine ⟨?_, ?_, ?_, ?_, ?_⟩
  · rintro code ⟨a, annotated, configures⟩
    rw [UnitDecl.internalCode, annotated]
    dsimp only
    rw [configures.internalCode]
    rfl
  · intro unread
    exact ⟨UnitDecl.internalCode_result_of_unread unread, UnitDecl.compile_unannotated unread settings⟩
  · rw [u.on_configuration_compile]
    exact u.records_internalCode.1
  · rw [u.on_configuration_compile]
    exact u.records_internalCode.2
  · intro compiled accepted
    obtain ⟨wf, rfl⟩ := UnitDecl.compile_eq_ok_iff.1 accepted
    refine ⟨u.internalCode_text_ne, ?_, ?_, ?_⟩
    · intro r member internal
      obtain ⟨e, -, rfl⟩ := List.mem_map.1 member
      obtain ⟨status, code, -⟩ := Rule.answer_of_internal internal
      exact ⟨code, status⟩
    · intro declared
      have hidden : (u.taxonomy u.readable).internalCases ≠ [] := fun none =>
        wf.internalCases_eq_nil_iff.1 none declared
      exact ⟨Docs.Catalogue.count_names_artifactsOf wf.reservedFaults hidden, _,
        Docs.Catalogue.get?_internalErrorName hidden, rfl, rfl, rfl⟩
    · intro undeclared name a found
      exact Docs.Catalogue.exists_client_of_get? (wf.internalCases_eq_nil_iff.2 undeclared) found

/-- A unit with two internal cases around a request; one of them has the shared name. -/
def storeUnit (config : List (String × Value)) : UnitDecl where
  name := "Store"
  annotation := some ⟨[], .ofList config⟩
  cases := [
    ⟨"InternalError", false, some ⟨[.disposition .internal, .int 7], .empty⟩⟩,
    ⟨"Gone", true, some ⟨[.text "request"], .ofList [("status", .int 404), ("code", .text "gone")]⟩⟩,
    ⟨"Broken", true, some ⟨[.text "internal"], .empty⟩⟩]
  reserved := []

/-- The code of a store is given to its internal cases and documented once; one that is empty is told, and counts
as none. -/
theorem storeUnit_shares_code :
    (∃ compiled a, ((storeUnit [("internal_code", .text "store")]).compile .default).outcome = .ok compiled ∧
      (∀ r ∈ compiled.table.rules, r.isInternal = true → r.code = "store" ∧ r.status = 500) ∧
      ((Docs.Catalogue.artifactsOf compiled.taxonomy).map Docs.Artifact.name).count "InternalError" = 1 ∧
      compiled.catalogue.get? "InternalError" = some a ∧ a.codes = ["store"] ∧ a.status = 500) ∧
    (∃ message, Log.on .configuration ((storeUnit [("internal_code", .text "")]).compile .default).records =
      [⟨.configuration, message⟩]) ∧
    (storeUnit [("internal_code", .text "")]).internalCode.result = .literal "internal-error" := by
  constructor
  · let u := storeUnit [("internal_code", .text "store")]
    have accepted : (u.compile .default).outcome = .ok ((u.taxonomy u.readable).compiled .default) := by cbv
    have declared : ∃ c ∈ u.cases, c.Declares .internal :=
      ⟨_, List.mem_cons_self, _, rfl, .internal rfl (.keyword .internal)⟩
    obtain ⟨given, -, -, -, shared⟩ := internal_errors_share_code u .default
    obtain ⟨-, rules, documented, -⟩ := shared _ accepted
    rw [given (.literal "store") ⟨_, rfl, rfl, rfl, by decide⟩] at rules documented
    obtain ⟨once, a, found, -, codes, status⟩ := documented declared
    exact ⟨_, a, accepted, rules, once, found, codes, status⟩
  · have unread : ∀ code, ¬(storeUnit [("internal_code", .text "")]).Configured code := by
      rintro code ⟨_, ⟨⟩, -, keywords, filled⟩
      cases code with
      | literal s =>
        cases keywords
        exact filled rfl
      | keyword d => cases keywords
    obtain ⟨-, default, told, -, -⟩ := internal_errors_share_code (storeUnit [("internal_code", .text "")]) .default
    exact ⟨told ⟨⟨_, rfl, .inr (List.cons_ne_nil _ _)⟩, unread⟩, (default unread).1⟩

end Errata
