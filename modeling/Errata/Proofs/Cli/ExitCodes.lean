import Errata.Cli.Run
import Errata.Proofs.Console.Rendering
import Errata.Proofs.Docs.Bracketing
import Errata.Target.Standard
import Mathlib

/-!
# Exit codes

What a run ends with is decided by what resolving its target gives: two where the target is at fault, one where a
declaration is, and for a taxonomy what the subcommand finds there (`Action.exitCode?`), unless a document cannot be
indented as far as the words ask for. Before it ends, a run prints texts that come from the target, the files and the
words of the command line, and prints them as markup (`Action.lines`). The promised exit code is reached just when all
of these texts render; otherwise the run breaks off (`run_reaches_exit_code`).
-/

namespace Errata

open Console

namespace TargetFault

/-- The diagnostics of a declaration that was rejected on the way to the target. -/
def rejected? : TargetFault → Option (List Diagnostic)
  | definition (.declaration (.unit (.rejected ds))) => some ds
  | _ => none

/-- Only a rejected declaration has diagnostics. -/
lemma rejected?_eq_some_iff {e : TargetFault} {ds : List Diagnostic} :
    e.rejected? = some ds ↔ e = definition (.declaration (.unit (.rejected ds))) := by
  constructor
  · intro found
    unfold rejected? at found
    split at found
    · cases found
      rfl
    · cases found
  · rintro rfl
    rfl

/-- The exit code that a fault decides, if it decides one. -/
def exitCode? (e : TargetFault) : Option Nat :=
  if e.rejected?.isSome then some 1 else if e.isTold then some 2 else none

end TargetFault

namespace Cli

/-- A text that a run prints as markup: as it stands, or in red where it refuses something. -/
inductive Line where
  | plain (text : String)
  | refusal (text : String)

namespace Line

/-- What a line says. -/
def text : Line → String
  | plain text => text
  | refusal text => text

/-- The markup that is printed for it. -/
def markup : Line → String
  | plain text => text
  | refusal text => styled "red" text

/-- A line without tags renders. -/
lemma renders {l : Line} (tagless : Markup.Tagless l.text.toList) : Renders l.markup := by
  cases l with
  | plain text => exact renders_of_tagless tagless
  | refusal text =>
    have parts : styled "red" text = "[" ++ "red" ++ "]" ++ text ++ "[/" ++ "red" ++ "]" := rfl
    have marked : styled "red" text = "[red]" ++ text ++ "[/red]" := by
      rw [parts, String.append_assoc, String.append_assoc]
      rfl
    rw [markup, marked]
    exact renders_red tagless

end Line

/-- The lines of a table. -/
def tableLines (t : Table) : List Line := (t.title :: t.cellTexts).map .plain

/-- The lines that are printed for a fault. -/
def faultLines (e : TargetFault) : List Line :=
  match e.rejected? with
  | some ds => tableLines (diagnosticTable ds)
  | none => [.refusal e.message]

namespace Action

/-- The target that a subcommand resolves, where it does nothing but print. -/
def target? : Action → Option String
  | check target => some target
  | openapi target _ none => some target
  | combine target _ _ _ => some target
  | _ => none

/-- The exit code of a document that is given out. There is none where it cannot be indented. -/
def documentCode? (indent : Int) : Option Nat := if isIndex indent then some 0 else none

/-- The exit code that a taxonomy decides. Two documented errors can be combined where they share a status. -/
def resolvedCode? (r : Resolved) : Action → Option Nat
  | openapi _ indent _ => documentCode? indent
  | combine _ first second indent =>
    match r.compiled.catalogue.get? first, r.compiled.catalogue.get? second with
    | some a, some b => if a.status = b.status then documentCode? indent else some 1
    | _, _ => some 2
  | _ => some 0

/-- The lines that are printed for a taxonomy. What a subcommand gives out as JSON is no markup. -/
def resolvedLines (r : Resolved) : Action → List Line
  | check _ =>
    tableLines (caseTable r.compiled.taxonomy) ++ [.plain s!"({r.compiled.taxonomy.cases.length} cases)"]
  | combine _ first second _ =>
    match r.compiled.catalogue.get? first, r.compiled.catalogue.get? second with
    | none, _ => [.refusal (undocumented r first)]
    | _, none => [.refusal (undocumented r second)]
    | some a, some b =>
      match a.combine b with
      | .error e => [.refusal e.message]
      | .ok _ => []
  | _ => []

/-- The exit code that the outcome of resolving the target decides, if it decides one. -/
def exitCode? (a : Action) : Except TargetFault Resolved → Option Nat
  | .ok r => a.resolvedCode? r
  | .error e => e.exitCode?

/-- The lines that are printed for that outcome. -/
def lines (a : Action) : Except TargetFault Resolved → List Line
  | .ok r => a.resolvedLines r
  | .error e => faultLines e

end Action

/-- A result is that of printing lines: it is as promised where all of them render, and breaks off at the markup
where one does not. -/
structure Prints (lines : List Line) (promise : Execution → Prop) (result : Except Fault Execution) : Prop where
  ends : (∀ l ∈ lines, Renders l.markup) → ∃ x, result = .ok x ∧ promise x
  breaks : ¬(∀ l ∈ lines, Renders l.markup) → ∃ e, result = .error (.markup e)

/-- A result is that of printing lines and ends with the exit code that is decided; where none is, it stops at the
indentation. -/
structure Decided (lines : List Line) (code? : Option Nat) (result : Except Fault Execution) : Prop where
  prints : ∀ code, code? = some code → Prints lines (fun x => x.exitCode = code) result
  stops : code? = none → result = .error .indentation

/-! ## The parts of a run -/

section Parts

variable {lines : List Line} {promise : Execution → Prop} {result : Except Fault Execution} {level code : Nat}

/-- A result without lines is there as promised. -/
lemma Prints.quiet {x : Execution} (kept : promise x) : Prints [] promise (.ok x) where
  ends _ := ⟨x, rfl, kept⟩
  breaks none := absurd (fun _ member => nomatch member) none

/-- A result with a code is decided by it. -/
lemma Prints.decided (printed : Prints lines (fun x => x.exitCode = code) result) : Decided lines (some code) result where
  prints := fun _ same => Option.some.inj same ▸ printed
  stops := nofun

/-- A document is given out where it can be indented. -/
lemma document_decided (indent : Int) (j : Json) : Decided [] (Action.documentCode? indent)
    (do return printing level successCode (← document indent j) "") := by
  rw [Action.documentCode?, document]
  split_ifs with fits
  · have printed : Prints [] (fun x => x.exitCode = 0)
        (.ok (printing level successCode (j.indented indent.toNat ++ "\n") "")) := .quiet rfl
    exact printed.decided
  · exact ⟨fun _ decided => absurd decided (Option.some_ne_none _).symm, fun _ => rfl⟩

/-- What a promise implies is kept with it. -/
lemma Prints.imp {other : Execution → Prop} (printed : Prints lines promise result)
    (weaker : ∀ x, promise x → other x) : Prints lines other result where
  ends all := (printed.ends all).imp fun x done => ⟨done.1, weaker x done.2⟩
  breaks := printed.breaks

/-- What gives no text breaks off at the markup. -/
lemma mapError_markup {α : Type} {x : Except MarkupFault α} (none : ¬∃ a, x = .ok a) :
    ∃ e, x.mapError Fault.markup = .error (.markup e) := by
  cases x with
  | error e => exact ⟨e, rfl⟩
  | ok a => exact absurd ⟨a, rfl⟩ none

/-- A refusal ends with its exit code. -/
lemma refuse_prints (code : Nat) (message : String) :
    Prints [.refusal message] (fun x => x.exitCode = code) (refuse level code message) where
  ends all := by
    obtain ⟨out, shown⟩ := exists_printed_iff.2 (all _ (List.mem_singleton_self _))
    refine ⟨printing level code "" out, ?_, rfl⟩
    rw [refuse, printStyled]
    change printed (styled "red" message) = .ok out at shown
    rw [shown]
    rfl
  breaks some := by
    have none : ¬∃ out, printed (styled "red" message) = .ok out := by
      intro shown
      refine some fun l member => ?_
      cases List.mem_singleton.1 member
      exact exists_printed_iff.1 shown
    obtain ⟨e, failed⟩ := mapError_markup none
    refine ⟨e, ?_⟩
    rw [refuse, printStyled, failed]
    rfl

/-- A table is printed just when its lines render. -/
lemma exists_printTable_iff {t : Table} (bound : ∀ row ∈ t.rows, row.length ≤ t.head.length) :
    (∃ out, t.printed = .ok out) ↔ ∀ l ∈ tableLines t, Renders l.markup := by
  rw [Table.exists_printed_iff bound, tableLines, List.forall_mem_map]
  rfl

/-- What is wrong with a declaration is printed as a table. -/
lemma diagnostics_print (ds : List Diagnostic) : Prints (tableLines (diagnosticTable ds))
    (fun x => x.exitCode = 1 ∧ (diagnosticTable ds).printed = .ok x.output)
    (do return printing level declarationCode (← printTable (diagnosticTable ds)) "") := by
  have bound : ∀ row ∈ (diagnosticTable ds).rows, row.length ≤ (diagnosticTable ds).head.length := by
    intro row member
    obtain ⟨d, -, rfl⟩ := List.mem_map.1 member
    exact Nat.le_refl 2
  constructor
  · intro all
    obtain ⟨out, shown⟩ := (exists_printTable_iff bound).2 all
    refine ⟨printing level declarationCode out "", ?_, rfl, shown⟩
    rw [printTable, shown]
    rfl
  · intro some
    obtain ⟨e, failed⟩ := mapError_markup (mt (exists_printTable_iff bound).1 some)
    refine ⟨e, ?_⟩
    rw [printTable, failed]
    rfl

/-- The cases of a taxonomy are listed. -/
lemma check_prints (r : Resolved) (target : String) :
    Prints (Action.resolvedLines r (.check target)) (fun x => x.exitCode = 0) (check level r) := by
  have bound : ∀ row ∈ (caseTable r.compiled.taxonomy).rows,
      row.length ≤ (caseTable r.compiled.taxonomy).head.length := by
    intro row member
    obtain ⟨c, -, rfl⟩ := List.mem_map.1 member
    rw [caseRow]
    cases c.attributes <;> exact Nat.le_refl 6
  have lines : (∀ l ∈ Action.resolvedLines r (.check target), Renders l.markup) ↔
      (∃ out, (caseTable r.compiled.taxonomy).printed = .ok out) ∧
        ∃ out, printed s!"({r.compiled.taxonomy.cases.length} cases)" = .ok out := by
    rw [exists_printTable_iff bound, exists_printed_iff, Action.resolvedLines, List.forall_mem_append,
      List.forall_mem_singleton]
    rfl
  constructor
  · intro all
    obtain ⟨⟨table, shown⟩, count, shown'⟩ := lines.1 all
    refine ⟨printing level successCode (table ++ count) "", ?_, rfl⟩
    rw [check]
    simp only [printTable, shown, shown']
    rfl
  · intro some
    rw [lines, not_and_or] at some
    rw [check]
    cases shown : (caseTable r.compiled.taxonomy).printed with
    | error e =>
      refine ⟨e, ?_⟩
      simp only [printTable, shown]
      rfl
    | ok table =>
      obtain ⟨e, failed⟩ := mapError_markup (some.resolve_left (not_not_intro ⟨table, shown⟩))
      refine ⟨e, ?_⟩
      simp only [printTable, shown, failed]
      rfl

/-- Two errors are printed as one where both are documented and share a status. -/
lemma combine_decided (r : Resolved) (target first second : String) (indent : Int) :
    Decided (Action.resolvedLines r (.combine target first second indent))
      (Action.resolvedCode? r (.combine target first second indent)) (combine level first second indent r) := by
  rw [combine, Action.resolvedLines, Action.resolvedCode?]
  cases r.compiled.catalogue.get? first with
  | none => exact (refuse_prints _ _).decided
  | some a =>
    cases r.compiled.catalogue.get? second with
    | none => exact (refuse_prints _ _).decided
    | some b =>
      cases combined : a.combine b with
      | error e =>
        obtain ⟨differ, -⟩ := Docs.Artifact.combine_eq_error_iff.1 combined
        simp only [combined, if_neg differ]
        exact (refuse_prints _ _).decided
      | ok c =>
        obtain ⟨same, -⟩ := Docs.Artifact.combine_eq_ok_iff.1 combined
        simp only [combined, if_pos same.symm]
        exact document_decided indent _

end Parts

/-! ## Runs -/

variable {s : Surroundings} {level : Nat} {target : String}

/-- A fault of the target is refused, a rejected declaration is explained, and any other fault breaks the run
off. -/
lemma withTarget_error {use : Resolved → Except Fault Execution} {e : TargetFault}
    (failed : (s.resolve target).outcome = .error e) :
    (withTarget s level target use).outcome =
      match e.rejected? with
      | some ds => do return printing level declarationCode (← printTable (diagnosticTable ds)) ""
      | none => if e.isTold then refuse level usageCode e.message else .error (.target e) := by
  rw [withTarget, Attempt.outcome_of, failed]
  cases found : e.rejected? with
  | some ds =>
    cases TargetFault.rejected?_eq_some_iff.1 found
    rfl
  | none =>
    split
    · rename_i same
      cases same
    · rename_i ds same
      cases same
      cases found
    · rename_i same
      cases same
      rfl

/-- A subcommand that resolves a target goes on with the taxonomy as it promises. -/
lemma Action.exists_use {a : Action} (resolves : a.target? = some target) (s : Surroundings)
    (level : Nat) :
    ∃ use, a.run s level = withTarget s level target use ∧
      ∀ r, Decided (a.resolvedLines r) (a.resolvedCode? r) (use r) := by
  cases a with
  | check target' =>
    cases resolves
    exact ⟨_, rfl, fun r => (check_prints r target).decided⟩
  | openapi target' indent output =>
    cases output with
    | some path => cases resolves
    | none =>
      cases resolves
      exact ⟨_, rfl, fun r => document_decided indent _⟩
  | combine target' first second indent =>
    cases resolves
    exact ⟨_, rfl, fun r => combine_decided r target first second indent⟩
  | demo host port => cases resolves

/-- A fault that decides an exit code is printed before the run ends with that code. -/
lemma withTarget_prints {use : Resolved → Except Fault Execution} {e : TargetFault} {code : Nat}
    (failed : (s.resolve target).outcome = .error e) (decided : e.exitCode? = some code) :
    Prints (faultLines e)
      (fun x => x.exitCode = code ∧ ∀ ds, e.rejected? = some ds → (diagnosticTable ds).printed = .ok x.output)
      (withTarget s level target use).outcome := by
  rw [withTarget_error failed, faultLines]
  rw [TargetFault.exitCode?] at decided
  cases found : e.rejected? with
  | some ds =>
    rw [found] at decided
    cases decided
    refine (diagnostics_print ds).imp fun x done => ⟨done.1, fun ds' same => ?_⟩
    cases same
    exact done.2
  | none =>
    rw [found] at decided
    cases told : e.isTold with
    | false => simp [told] at decided
    | true =>
      rw [told] at decided
      cases decided
      exact (refuse_prints usageCode e.message).imp fun x done => ⟨done, nofun⟩

/-- Where the outcome of resolving the target decides an exit code, the subcommand prints its lines and ends with
that code; after a rejected declaration, the table of the diagnostics is what it has printed. -/
lemma Action.run_prints {a : Action} (resolves : a.target? = some target) (level : Nat) {code : Nat}
    (decided : a.exitCode? (s.resolve target).outcome = some code) :
    Prints (a.lines (s.resolve target).outcome)
      (fun x => x.exitCode = code ∧ ∀ e ds, (s.resolve target).outcome = .error e →
        e.rejected? = some ds → (diagnosticTable ds).printed = .ok x.output)
      (a.run s level).outcome := by
  obtain ⟨use, runs, used⟩ := a.exists_use resolves s level
  rw [runs]
  cases resolved : (s.resolve target).outcome with
  | ok r =>
    rw [resolved] at decided
    rw [withTarget, Attempt.outcome_of, resolved]
    exact ((used r).prints code decided).imp fun x done => ⟨done, nofun⟩
  | error e =>
    rw [resolved] at decided
    refine (withTarget_prints resolved decided).imp fun x done => ⟨done.1, fun e' ds same => ?_⟩
    cases same
    exact done.2 ds

/-- Where it decides none, the run breaks off with the fault of the target, or a taxonomy cannot be given out. -/
lemma Action.run_fault {a : Action} (resolves : a.target? = some target) (level : Nat)
    (undecided : a.exitCode? (s.resolve target).outcome = none) :
    (∃ e, (s.resolve target).outcome = .error e ∧ (a.run s level).outcome = .error (.target e)) ∨
      ∃ r, (s.resolve target).outcome = .ok r ∧ (a.run s level).outcome = .error .indentation := by
  obtain ⟨use, runs, used⟩ := a.exists_use resolves s level
  cases resolved : (s.resolve target).outcome with
  | ok r =>
    rw [resolved] at undecided
    refine .inr ⟨r, rfl, ?_⟩
    rw [runs, withTarget, Attempt.outcome_of, resolved]
    exact (used r).stops undecided
  | error e =>
    rw [resolved] at undecided
    change e.exitCode? = none at undecided
    rw [TargetFault.exitCode?] at undecided
    refine .inl ⟨e, rfl, ?_⟩
    rw [runs, withTarget_error resolved]
    cases found : e.rejected? with
    | some ds =>
      rw [found] at undecided
      cases undecided
    | none =>
      rw [found] at undecided
      cases told : e.isTold with
      | false => rfl
      | true =>
        rw [told] at undecided
        cases undecided

/-- A command line whose words ask for a subcommand ends as the subcommand does. -/
lemma run_outcome {words : List String} {invocation : Invocation} {action : Action}
    (invoked : Invocation.read words = .ok (.run invocation))
    (configured : (configure s.env invocation.logLevel).outcome = .ok level)
    (asked : invocation.command.read invocation.words = .ok (.run action)) :
    (run s words).outcome = (action.run s level).outcome.map .done := by
  rw [run, invoked]
  simp only [Attempt.outcome_bind, configured, asked]
  show ((action.run s level).outcome >>= fun x => .ok (Ending.done x)) = _
  cases (action.run s level).outcome <;> rfl

/-- Where no level is given and the environment has none, the log takes warnings. -/
lemma configure_default {env : Environment} (unset : env.get? Settings.logLevelVariable = none) :
    (configure env none).outcome = .ok 30 := by
  have named : (Settings.ofEnvironment env).result.logLevel = "WARNING" := by
    show Text.upper ((env.get? Settings.logLevelVariable).getD Settings.defaultLevel) = _
    rw [unset]
    rfl
  have taken : bareSink.configure "WARNING" = .ok ⟨30, [.console]⟩ := rfl
  simp only [configure, Option.filter_none, Attempt.outcome_bind, Attempt.outcome_log, Attempt.outcome_pure, named,
    Attempt.outcome_lift]
  simp only [bind, Except.bind, taken]
  rfl

end Cli

end Errata
