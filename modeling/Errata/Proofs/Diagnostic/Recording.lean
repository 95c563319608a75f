import Errata.Diagnostic
import Mathlib.Tactic.Common

/-!
# Recording steps

A step of validation only ever appends to what has been recorded, or fails because it cannot show a value.
`Records v none a ds` says that `v` gives `a` and appends `ds`, whatever the context holds already, so that
neither depends on the steps before; `Records v (some f) a ds` says that `v` fails with `f`. The lemmas follow
the ways in which steps are put together: one after the other, and once for every entry of a list, with or
without a state. A check reports exactly what has been appended.
-/

namespace Errata

namespace Validation

/-- The step gives a result and appends diagnostics to whatever has been recorded before, unless it stops at a
value that cannot be shown. -/
def Records (v : Validation α) (stop? : Option InspectFault) (a : α) (ds : List Diagnostic) : Prop :=
  ∀ before, v.run (.recording before) =
    stop?.elim (.ok (a, .recording (before ++ ds))) fun f => .error (.unshown f)

/-- A step without effect records nothing. -/
lemma Records.pure (a : α) : Records (pure a) none a [] := by
  intro before
  rw [List.append_nil]
  rfl

/-- Two steps record one after the other; the second is not reached where the first stops. -/
lemma Records.bind {v : Validation α} {f : α → Validation β} {stop? stop'? a b ds es}
    (first : Records v stop? a ds) (second : Records (f a) stop'? b es) :
    Records (v >>= f) (stop?.or stop'?) b (ds ++ es) := by
  intro before
  rw [StateT.run_bind, first before]
  cases stop? with
  | some fault => rfl
  | none =>
    show (f a).run (.recording (before ++ ds)) = _
    rw [second, List.append_assoc, Option.none_or]

/-- A result that is only used by a function does not change what is recorded. -/
lemma Records.map {v : Validation α} {stop? a ds} (h : Records v stop? a ds) (f : α → β) :
    Records (do return f (← v)) stop? (f a) ds := by
  have both := h.bind (f := fun a => Pure.pure (f a)) (.pure (f a))
  rwa [List.append_nil, Option.or_none] at both

/-- What a step gives and what it records are determined, where it does not stop. -/
lemma Records.unique {v : Validation α} {a b ds es} (h : Records v none a ds) (h' : Records v none b es) :
    a = b ∧ ds = es := by
  have e := (h []).symm.trans (h' [])
  cases e
  exact ⟨rfl, rfl⟩

/-- A report appends its diagnostic. -/
lemma records_report (span : String) (p : Problem) : Records (report span p) none () [⟨span, p⟩] := by
  intro before
  rfl

/-- A value is shown, or stops the step. -/
lemma records_shown (v : Value) : Records (shown v) v.unshown? v.inspect [] := by
  intro before
  rw [List.append_nil]
  unfold shown Value.inspect? Value.shownAs
  cases v.unshown? <;> rfl

/-- A report under a condition. -/
lemma records_report_if (b : Bool) (span : String) (p : Problem) :
    Records (if b then report span p else Pure.pure ()) none () (if b then [⟨span, p⟩] else []) := by
  cases b with
  | false => exact .pure ()
  | true => exact records_report span p

/-- A report under a condition, before a result is given. -/
lemma records_report_before (b : Bool) (span : String) (p : Problem) (a : α) :
    Records (if b then do report span p; return a else return a) none a
      (if b then [⟨span, p⟩] else []) := by
  cases b with
  | false => exact .pure a
  | true => exact (records_report span p).map fun _ => a

/-- What could not be read is reported. -/
lemma records_require (span : String) (p : Problem) (x : Option α) :
    Records (require span p x) none x (if x.isNone then [⟨span, p⟩] else []) :=
  records_report_before x.isNone span p x

section Lists

variable {α β γ : Type}

/-- What stops a row is what stops its first entry, or else what stops the others. -/
lemma findSome?_cons_or (stops : α → Option γ) (a : α) (l : List α) :
    (a :: l).findSome? stops = (stops a).or (l.findSome? stops) := by
  rw [List.findSome?_cons]
  cases stops a <;> rfl

/-- A step for every entry of a list, up to the first that stops. -/
lemma Records.forM {f : α → Validation Unit} {stops : α → Option InspectFault} {said : α → List Diagnostic}
    (step : ∀ a, Records (f a) (stops a) () (said a)) (l : List α) :
    Records (l.forM f) (l.findSome? stops) () (l.flatMap said) := by
  induction l with
  | nil => exact .pure ()
  | cons a l ih =>
    have both := (step a).bind (f := fun _ => l.forM f) ih
    rwa [← findSome?_cons_or] at both

/-- A step for every entry of a list, with a state that is handed on. -/
lemma Records.foldlM {f : β → α → Validation β} {next : β → α → β} {said : α → List Diagnostic}
    (step : ∀ b a, Records (f b a) none (next b a) (said a)) (l : List α) (b : β) :
    Records (l.foldlM f b) none (l.foldl next b) (l.flatMap said) := by
  induction l generalizing b with
  | nil => exact .pure b
  | cons a l ih =>
    rw [List.foldlM_cons]
    exact (step b a).bind (ih (next b a))

/-- A step for every entry of a list, up to the first that stops, of which only the results that are there are
kept. -/
lemma Records.filterMapM {f : α → Validation (Option γ)} {stops : α → Option InspectFault} {kept : α → Option γ}
    {said : α → List Diagnostic} (step : ∀ a, Records (f a) (stops a) (kept a) (said a)) (l : List α) :
    Records (l.filterMapM f) (l.findSome? stops) (l.filterMap kept) (l.flatMap said) := by
  induction l with
  | nil => exact .pure []
  | cons a l ih =>
    rw [List.filterMapM_cons, findSome?_cons_or]
    refine (step a).bind ?_
    cases e : kept a with
    | none =>
      rw [List.filterMap_cons_none e]
      exact ih
    | some c =>
      rw [List.filterMap_cons_some e]
      exact ih.map (c :: ·)

/-- A report for every entry of a list for which a condition holds. -/
lemma records_report_filter (p : α → Bool) (span : α → String) (problem : Problem) (l : List α) :
    Records (l.forM fun a => if p a then report (span a) problem else Pure.pure ()) none ()
      ((l.filter p).map fun a => ⟨span a, problem⟩) := by
  induction l with
  | nil => exact .pure ()
  | cons a l ih =>
    have both := (records_report_if (p a) (span a) problem).bind (f := fun _ => _) ih
    cases h : p a with
    | false => simpa [h] using both
    | true => simpa [h] using both

end Lists

/-- In a context of its own the step records just the same. -/
lemma Records.alone_eq {v : Validation α} {stop? a ds} (h : Records v stop? a ds) :
    v.alone = stop?.elim (.ok (a, ds)) fun f => .error (.unshown f) := by
  rw [alone, Context.fresh, h []]
  cases stop? <;> rfl

end Validation

/-- A clean context passes the check, and any other is rejected with all that it holds. -/
lemma Context.check_recording (ds : List Diagnostic) :
    (recording ds).check.1 = if ds = [] then .ok () else .error (.rejected ds) := by
  cases ds <;> rfl

end Errata
