import Errata.Value.Inspect

/-!
# Log records

What a call has to say besides its result. Each channel has one level. A record is put into words when it is
read, so that making it never fails; it has no words where a value in it cannot be shown.
-/

namespace Errata

namespace Log

/-- How serious a record is. -/
inductive Level where
  | debug
  | warning
  | error
  deriving DecidableEq, Repr

/-- What a record is about. -/
inductive Channel where
  | internalError
  | configuration
  | compilation
  | handling
  deriving DecidableEq, Repr

/-- The level of a channel's records. -/
def Channel.level : Channel → Level
  | internalError => .error
  | configuration => .warning
  | compilation => .debug
  | handling => .debug

/-- One record. -/
structure Record where
  channel : Channel
  message : Except InspectFault String
  deriving Repr

/-- A record with its words. -/
def Record.plain (channel : Channel) (words : String) : Record := ⟨channel, .ok words⟩

end Log

/-- A result and the records made on the way to it. -/
structure Logged (α : Type u) where
  records : List Log.Record
  result : α

namespace Logged

/-- A result without records. -/
def quiet (a : α) : Logged α := ⟨[], a⟩

/-- Applies a function to the result. -/
def map (f : α → β) (x : Logged α) : Logged β := ⟨x.records, f x.result⟩

/-- Goes on with the result; the records of both parts stay in order. -/
def andThen (x : Logged α) (f : α → Logged β) : Logged β :=
  let y := f x.result
  ⟨x.records ++ y.records, y.result⟩

instance : Monad Logged where
  pure := quiet
  bind := andThen
  map := map

@[simp] theorem result_andThen (x : Logged α) (f : α → Logged β) :
    (x.andThen f).result = (f x.result).result := rfl

@[simp] theorem records_andThen (x : Logged α) (f : α → Logged β) :
    (x.andThen f).records = x.records ++ (f x.result).records := rfl

end Logged

/-- A computation that may fail and makes records whether it fails or not. -/
abbrev Attempt (ε α : Type) := ExceptT ε Logged α

namespace Attempt

/-- An attempt from its records and its outcome. -/
def of (records : List Log.Record) (outcome : Except ε α) : Attempt ε α := ⟨records, outcome⟩

/-- An attempt that only makes records. -/
def log (records : List Log.Record) : Attempt ε Unit := of records (.ok ())

/-- An attempt without records. -/
def lift (outcome : Except ε α) : Attempt ε α := of [] outcome

/-- The records of an attempt. -/
def records (x : Attempt ε α) : List Log.Record := Logged.records (ExceptT.run x)

/-- The outcome of an attempt. -/
def outcome (x : Attempt ε α) : Except ε α := Logged.result (ExceptT.run x)

/-- Changes the way a failure is told. -/
def mapError (f : ε → δ) (x : Attempt ε α) : Attempt δ α := of x.records (x.outcome.mapError f)

@[simp] theorem outcome_of (records : List Log.Record) (outcome : Except ε α) :
    (of records outcome).outcome = outcome := rfl

@[simp] theorem outcome_log (records : List Log.Record) :
    (log records : Attempt ε Unit).outcome = .ok () := rfl

@[simp] theorem outcome_lift (outcome : Except ε α) : (lift outcome).outcome = outcome := rfl

@[simp] theorem outcome_pure (a : α) : (pure a : Attempt ε α).outcome = .ok a := rfl

@[simp] theorem outcome_mapError (f : ε → δ) (x : Attempt ε α) :
    (x.mapError f).outcome = x.outcome.mapError f := rfl

/-- Telling a failure in another way changes no success. -/
theorem mapError_eq_ok {f : ε → δ} {x : Except ε α} {a : α} : x.mapError f = .ok a ↔ x = .ok a := by
  cases x with
  | error e => exact ⟨nofun, nofun⟩
  | ok b => exact ⟨fun same => by cases same; rfl, fun same => by cases same; rfl⟩

/-- Two parts succeed when the first does, and the second with its result. -/
theorem outcome_bind_eq_ok {x : Attempt ε α} {f : α → Attempt ε β} {b : β} :
    (x >>= f).outcome = .ok b ↔ ∃ a, x.outcome = .ok a ∧ (f a).outcome = .ok b := by
  obtain ⟨records, outcome⟩ := x
  cases outcome with
  | error e => exact ⟨nofun, fun ⟨_, success, _⟩ => nomatch success⟩
  | ok a => exact ⟨fun rest => ⟨a, rfl, rest⟩, fun ⟨_, success, rest⟩ => by cases success; exact rest⟩

/-- Two parts fail when the first does, or when it succeeds and the second fails with its result. -/
theorem outcome_bind_eq_error {x : Attempt ε α} {f : α → Attempt ε β} {e : ε} :
    (x >>= f).outcome = .error e ↔
      x.outcome = .error e ∨ ∃ a, x.outcome = .ok a ∧ (f a).outcome = .error e := by
  obtain ⟨records, outcome⟩ := x
  cases outcome with
  | error e' =>
    constructor
    · intro failed
      cases failed
      exact .inl rfl
    · rintro (failed | ⟨_, success, _⟩)
      · cases failed
        rfl
      · cases success
  | ok a =>
    constructor
    · intro failed
      exact .inr ⟨a, rfl, failed⟩
    · rintro (failed | ⟨_, success, failed⟩)
      · cases failed
      · cases success
        exact failed

/-- What is told in another way is what was told before. -/
theorem mapError_eq_error {f : ε → δ} {x : Except ε α} {e : δ} :
    x.mapError f = .error e ↔ ∃ e', x = .error e' ∧ f e' = e := by
  cases x with
  | error e' =>
    constructor
    · exact fun same => ⟨e', rfl, Except.error.inj same⟩
    · rintro ⟨_, ⟨⟩, rfl⟩
      rfl
  | ok a => exact ⟨nofun, nofun⟩

@[simp] theorem records_of (records : List Log.Record) (outcome : Except ε α) :
    (of records outcome).records = records := rfl

@[simp] theorem records_lift (outcome : Except ε α) : (lift outcome).records = [] := rfl

@[simp] theorem records_mapError (f : ε → δ) (x : Attempt ε α) :
    (x.mapError f).records = x.records := rfl

/-- After a success the records of the second part stand behind those of the first. -/
theorem records_bind {x : Attempt ε α} {f : α → Attempt ε β} {a : α} (success : x.outcome = .ok a) :
    (x >>= f).records = x.records ++ (f a).records := by
  obtain ⟨records, outcome⟩ := x
  cases success
  rfl

/-- The outcome of two parts is decided by their outcomes alone. -/
@[simp] theorem outcome_bind (x : Attempt ε α) (f : α → Attempt ε β) :
    (x >>= f).outcome = x.outcome >>= fun a => (f a).outcome := by
  obtain ⟨records, outcome⟩ := x
  cases outcome <;> rfl

end Attempt

end Errata
