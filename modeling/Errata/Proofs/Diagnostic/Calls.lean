import Errata.Proofs.Compile.Reading

/-!
# Calls on a context

A context can be told to record a diagnostic and to be checked, and asked for its diagnostics and whether it has any.
What a call is answered is decided by the calls before it (`Call.promised`): until the first check the context shows
what was recorded, the first check tells all of it, and from then on nothing can be recorded or checked and nothing
is left to see. One call keeps the promise (`Call.make_after`), and so does every run of calls. Reading a unit is a
run of records, and compiling it adds one check, so that no unit finds its context consumed (`Call.run_answers`).
-/

namespace Errata.Context

/-- What a context is called for. -/
inductive Call where
  | record (d : Diagnostic)
  | check
  | diagnostics
  | hasErrors
  deriving DecidableEq

namespace Call

/-- What a call comes back with. -/
inductive Answer where
  | done
  | listed (ds : List Diagnostic)
  | told (b : Bool)
  | refused (f : Fault)
  deriving DecidableEq

/-- The answer to a call, and the context after it. -/
def make (c : Context) : Call → Answer × Context
  | record d =>
    match c.record d with
    | .ok c => (.done, c)
    | .error f => (.refused f, c)
  | check =>
    match c.check with
    | (.ok (), c) => (.done, c)
    | (.error f, c) => (.refused f, c)
  | diagnostics => (.listed c.diagnostics, c)
  | hasErrors => (.told c.hasErrors, c)

/-- The answers to calls that are made one after the other, and the context after them. -/
def run (c : Context) : List Call → List Answer × Context
  | [] => ([], c)
  | call :: calls =>
    let (answer, c) := make c call
    let (answers, c) := run c calls
    (answer :: answers, c)

/-- The diagnostic that a call is to record. -/
def diagnostic? : Call → Option Diagnostic
  | record d => some d
  | _ => none

/-- The diagnostics that calls are to record, in order. -/
def recorded (calls : List Call) : List Diagnostic := calls.filterMap diagnostic?

/-- What is left of a fresh context after some calls: all that was recorded, until it is checked. -/
def after (calls : List Call) : Context :=
  if check ∈ calls then .checked else .recording (recorded calls)

/-- What a call is answered while a context holds some diagnostics. -/
def answerWith (held : List Diagnostic) : Call → Answer
  | record _ => .done
  | check => if held = [] then .done else .refused (.rejected held)
  | diagnostics => .listed held
  | hasErrors => .told (decide (held ≠ []))

/-- What a call is answered when the context was consumed. -/
def answerConsumed : Call → Answer
  | record _ => .refused .consumed
  | check => .refused .consumed
  | diagnostics => .listed []
  | hasErrors => .told false

/-- What a call is answered after other calls on a fresh context. -/
def promised (before : List Call) (call : Call) : Answer :=
  if check ∈ before then call.answerConsumed else call.answerWith (recorded before)

/-- The calls that record some diagnostics record just these. -/
lemma recorded_map_record (ds : List Diagnostic) : recorded (ds.map record) = ds := by
  rw [recorded, List.filterMap_map]
  exact List.filterMap_some

/-- Calls that only record check nothing. -/
lemma check_not_mem_map_record (ds : List Diagnostic) : check ∉ ds.map record := by
  simp

/-- One call is answered as promised, and leaves what is promised. -/
lemma make_after (before : List Call) (call : Call) :
    make (after before) call = (promised before call, after (before ++ [call])) := by
  by_cases checked : check ∈ before
  · have still : check ∈ before ++ [call] := List.mem_append_left _ checked
    rw [after, after, promised, if_pos checked, if_pos checked, if_pos still]
    cases call <;> rfl
  · rw [after, promised, if_neg checked, if_neg checked]
    -- Only a check consumes the context, whether it finds diagnostics or not.
    cases call with
    | record d =>
      have appended : after (before ++ [record d]) = .recording (recorded before ++ [d]) := by
        simp [after, checked, recorded, diagnostic?]
      rw [appended]
      rfl
    | check =>
      have consumed : after (before ++ [check]) = .checked := if_pos (by simp)
      rw [consumed]
      cases recorded before <;> rfl
    | diagnostics =>
      have same : after (before ++ [diagnostics]) = .recording (recorded before) := by
        simp [after, checked, recorded, diagnostic?]
      rw [same]
      rfl
    | hasErrors =>
      have same : after (before ++ [hasErrors]) = .recording (recorded before) := by
        simp [after, checked, recorded, diagnostic?]
      rw [same]
      cases recorded before <;> rfl

/-- Every call of a run is answered as promised, and the run leaves what is promised. -/
lemma run_after (before calls : List Call) :
    (∀ i : Nat, (run (after before) calls).1[i]? = calls[i]?.map (promised (before ++ calls.take i))) ∧
      (run (after before) calls).2 = after (before ++ calls) := by
  induction calls generalizing before with
  | nil => exact ⟨fun i => rfl, by rw [List.append_nil]; rfl⟩
  | cons call calls ih =>
    obtain ⟨answers, left⟩ := ih (before ++ [call])
    have step : run (after before) (call :: calls) =
        (promised before call :: (run (after (before ++ [call])) calls).1,
          (run (after (before ++ [call])) calls).2) := by
      rw [run, make_after]
    rw [step]
    constructor
    · intro i
      cases i with
      | zero => simp
      | succ i => simp [answers i]
    · rw [left, List.append_assoc]
      rfl

/-- A fresh context is what is left after no call. -/
lemma after_nil : after [] = fresh := rfl

/-- No call of a run with only one check at its end finds the context consumed. -/
lemma refused_not_mem_run (ds : List Diagnostic) :
    .refused .consumed ∉ (run fresh (ds.map record ++ [check])).1 := by
  intro member
  obtain ⟨i, found⟩ := List.mem_iff_getElem?.1 member
  rw [← after_nil, (run_after [] _).1 i, Option.map_eq_some_iff] at found
  obtain ⟨call, there, answered⟩ := found
  have place : i < (ds.map record).length + 1 := by
    simpa using (List.getElem?_eq_some_iff.1 there).1
  have unchecked : check ∉ (ds.map record ++ [check]).take i := by
    rw [List.take_append_of_le_length (Nat.le_of_lt_succ place)]
    exact fun checked => check_not_mem_map_record ds (List.mem_of_mem_take checked)
  rw [promised, List.nil_append, if_neg unchecked] at answered
  cases call with
  | check =>
    rw [answerWith] at answered
    split_ifs at answered
    cases answered
  | _ => cases answered

/-- In every run of calls on a fresh context, each call is answered as the calls before it promise. Until the first
check, the diagnostics are the recorded ones in order, and there are errors when there is one. The first check tells
all of them, or succeeds when there is none, and consumes the context either way. From then on every record and every
check is refused, nothing is listed and there are no errors. The context that is left holds what was recorded, or is
consumed. Whatever unit is compiled, its context goes through a run of records and one check at the end, in which
nothing is refused because the context was consumed; a unit with an argument that cannot be shown does not come to the
check. -/
theorem run_answers (calls : List Call) :
    (∀ i : Nat, (run fresh calls).1[i]? = calls[i]?.map (promised (calls.take i))) ∧
      (run fresh calls).2 = after calls ∧
      ∀ (u : UnitDecl) (settings : Settings),
        (u.compile settings).outcome ≠ .error .consumed ∧
        ((∃ f, u.unshown? = some f ∧ (u.read settings.suppressRedundant).run fresh = .error (.unshown f) ∧
            (u.compile settings).outcome = .error (.unshown f)) ∨
          ∃ (t : Taxonomy) (ds : List Diagnostic),
            (u.read settings.suppressRedundant).run fresh = .ok (t, (run fresh (ds.map record)).2) ∧
              (u.compile settings).outcome =
                (run fresh (ds.map record)).2.check.1.map (fun _ => t.compiled settings) ∧
              .refused .consumed ∉ (run fresh (ds.map record ++ [check])).1) := by
  obtain ⟨answers, left⟩ := run_after [] calls
  refine ⟨answers, left, fun u settings => ?_⟩
  have held (ds : List Diagnostic) : (run fresh (ds.map record)).2 = .recording ds := by
    have recording := (run_after [] (ds.map record)).2
    rwa [after_nil, List.nil_append, after, if_neg (check_not_mem_map_record ds), recorded_map_record] at recording
  have read := u.records_read settings.suppressRedundant []
  have compiled := u.compile_outcome settings
  cases shown : u.unshown? with
  | some f =>
    rw [shown] at read compiled
    exact ⟨by rw [compiled]; exact nofun, .inl ⟨f, rfl, read, compiled⟩⟩
  | none =>
    rw [shown, Option.elim_none] at read compiled
    refine ⟨?_, .inr ⟨u.taxonomy u.readable, u.faults settings.suppressRedundant, ?_, ?_, refused_not_mem_run _⟩⟩
    · rw [compiled]
      split_ifs
      · exact nofun
      · exact nofun
    · rw [held]
      exact read
    · rw [held, check_recording, compiled]
      split_ifs <;> rfl

/-- A context that is checked while it holds a diagnostic is consumed like any other. -/
example (d : Diagnostic) : (run fresh [record d, check, hasErrors, record d]).1 =
    [.done, .refused (.rejected [d]), .told false, .refused .consumed] := rfl

end Call

end Errata.Context
