import Errata.Proofs.Cli.ExitCodes
import Errata.Proofs.OrderedMap
import Errata.Proofs.Text.Upper
import Mathlib

/-!
# Levels of the log

The text of a level is looked up in upper case, whether it stands in the command line or in the environment, where it
is put into upper case twice (`configure_outcome`). Two names are constants of the log that are no levels: a text that
spells one of them, in whatever letters, breaks the configuration of a bare log off, and with it every run that gets
that far. Any other text gives a level. A subcommand does not ask for the level (`Action.run_levelled`), so that a run
with one level is a run with any other (`configured_or_misled`).
-/

namespace Errata

namespace LogLevel

/-- A text spells a constant of the log that is no level. -/
inductive Misleads (text : String) : Fault → Prop where
  | format :
    Text.upper text = recordFormatName →
    Misleads text .recordFormat
  | table :
    Text.upper text = formatterTableName →
    Misleads text .formatterTable

/-- The level of a text: that of the standard level that it names in upper case, or that of warnings where it names
none. -/
inductive Gives (text : String) : Nat → Prop where
  | named {level : Nat} :
    (Text.upper text, level) ∈ named →
    Gives text level
  | unknown :
    Text.upper text ∉ named.map Prod.fst →
    Gives text 30

/-- No standard level has two numbers. -/
lemma nodup_named : (named.map Prod.fst).Nodup := by
  decide

/-- The level of a text is determined. -/
lemma gives_iff {text : String} {level : Nat} :
    Gives text level ↔ (named.lookup (Text.upper text)).getD fallback = level := by
  cases found : named.lookup (Text.upper text) with
  | none =>
    have unlisted := OrderedMap.lookup_eq_none.1 found
    constructor
    · rintro (listed | -)
      · exact absurd (List.mem_map_of_mem (f := Prod.fst) listed) unlisted
      · rfl
    · rintro rfl
      exact .unknown unlisted
  | some n =>
    have listed := OrderedMap.mem_of_lookup found
    constructor
    · rintro (listed' | unlisted)
      · rw [OrderedMap.lookup_of_mem nodup_named listed'] at found
        exact (Option.some.inj found).symm
      · exact absurd (List.mem_map_of_mem (f := Prod.fst) listed) unlisted
    · rintro rfl
      exact .named listed

/-- The two names are apart. -/
lemma names_ne : recordFormatName ≠ formatterTableName := by
  decide

/-- The look-up fails where the text misleads. -/
lemma ofName_eq_error_iff {text : String} {f : Fault} : ofName text = .error f ↔ Misleads text f := by
  constructor
  · intro failed
    rw [ofName] at failed
    split at failed
    · rename_i format
      cases failed
      exact .format format
    · split at failed
      · rename_i table
        cases failed
        exact .table table
      · cases failed
  · rintro (format | table)
    · rw [ofName, if_pos format]
    · rw [ofName, if_neg (table ▸ names_ne.symm), if_pos table]

/-- Where no text misleads, the look-up gives its level. -/
lemma exists_ofName {text : String} (plain : ∀ f, ¬Misleads text f) :
    ∃ level, Gives text level ∧ ofName text = .ok level := by
  refine ⟨_, gives_iff.2 rfl, ?_⟩
  rw [ofName, if_neg fun format => plain _ (.format format), if_neg fun table => plain _ (.table table)]

/-- Letters in upper case are looked up as they were given. -/
lemma ofName_upper (text : String) : ofName (Text.upper text) = ofName text := by
  rw [ofName, ofName, Text.upper_upper]

end LogLevel

namespace LogSink

variable {sink : LogSink}

/-- A log without handlers is configured just when the text gives a level. -/
lemma configure_bare (bare : sink.handlers = []) (text : String) :
    sink.configure text = (LogLevel.ofName text).map fun level => ⟨level, [.console]⟩ := by
  rw [configure, after, bare]
  cases LogLevel.ofName text <;> rfl

/-- A log that is handled already is left alone. -/
lemma configure_handled (handled : sink.handlers ≠ []) (text : String) : sink.configure text = .ok sink := by
  have some : ¬sink.handlers.isEmpty := fun empty => handled (List.isEmpty_iff.1 empty)
  rw [configure, after, if_neg some, if_neg some]

/-- A configured log is as it becomes. Where the text misleads, the log has a handler by then, and its old level. -/
theorem after_of_configure (text : String) :
    (∀ sink', sink.configure text = .ok sink' → sink.after text = sink') ∧
      ∀ f, sink.configure text = .error f → sink.after text = { sink with handlers := [.console] } := by
  by_cases bare : sink.handlers = []
  · rw [configure_bare bare, after, bare]
    cases LogLevel.ofName text with
    | ok level => exact ⟨fun _ same => by cases same; rfl, nofun⟩
    | error f => exact ⟨nofun, fun _ _ => rfl⟩
  · rw [configure_handled bare, after, if_neg fun empty => bare (List.isEmpty_iff.1 empty)]
    exact ⟨fun _ same => by cases same; rfl, nofun⟩

end LogSink

namespace Cli

/-- The text that the level is taken from: that of the option, unless it is empty, or that of the environment. -/
def levelText (env : Environment) (option? : Option String) : String :=
  (option?.filter (· ≠ "")).getD ((env.get? Settings.logLevelVariable).getD Settings.defaultLevel)

/-- A run takes the level of its text, wherever that stands. -/
lemma configure_outcome (env : Environment) (option? : Option String) :
    (configure env option?).outcome = (LogLevel.ofName (levelText env option?)).mapError .level := by
  have taken (text : String) :
      ((bareSink.configure text).mapError Fault.level >>= fun sink => .ok sink.level) =
        (LogLevel.ofName text).mapError .level := by
    rw [LogSink.configure_bare rfl]
    cases LogLevel.ofName text <;> rfl
  have setting : (Settings.ofEnvironment env).result.logLevel = Text.upper (levelText env none) := rfl
  cases given : option?.filter (· ≠ "") with
  | some text =>
    simp only [configure, levelText, given, Attempt.outcome_bind, Attempt.outcome_lift, Attempt.outcome_pure]
    exact taken text
  | none =>
    simp only [configure, given, Attempt.outcome_bind, Attempt.outcome_lift, Attempt.outcome_log,
      Attempt.outcome_pure, setting]
    rw [show levelText env option? = levelText env none by rw [levelText, given]; rfl, ← LogLevel.ofName_upper]
    generalize Text.upper (levelText env none) = text
    exact taken text

/-- What a run has done, with another level noted. -/
def Execution.atLevel (level : Nat) (x : Execution) : Execution := { x with level }

/-- How a run ends, with another level noted. -/
def Ending.atLevel (level : Nat) : Ending → Ending
  | usage exitCode => .usage exitCode
  | done x => .done (x.atLevel level)

/-- A result for every level: the level is only noted, and never at fault. -/
structure Levelled (result : Nat → Except Fault Execution) : Prop where
  noted : ∀ level level', (result level).map (Execution.atLevel level') = result level'
  innocent : ∀ level e, result level ≠ .error (.level e)

namespace Levelled

/-- A level that is noted at the end. -/
lemma done {x : Nat → Execution} (noted : ∀ level level', (x level).atLevel level' = x level') :
    Levelled fun level => .ok (x level) where
  noted level level' := congrArg Except.ok (noted level level')
  innocent _ _ := nofun

/-- What fails otherwise than by the level fails whatever the level is. -/
lemma fail {e : Fault} (other : ∀ f, e ≠ .level f) : Levelled fun _ => .error e where
  noted _ _ := rfl
  innocent _ f same := other f (Except.error.inj same)

/-- A part that knows nothing of the level comes first. -/
lemma bind {α : Type} {x : Except Fault α} {result : α → Nat → Except Fault Execution}
    (innocent : ∀ e, x ≠ .error (.level e)) (rest : ∀ a, Levelled (result a)) :
    Levelled fun level => x >>= fun a => result a level := by
  cases x with
  | error e => exact fail fun f same => innocent f (congrArg Except.error same)
  | ok a => exact rest a

end Levelled

/-- What is told as a fault of another kind is no fault of the level. -/
lemma mapError_ne_level {ε α : Type} (tell : ε → Fault) (other : ∀ e f, tell e ≠ .level f) (x : Except ε α)
    (f : LogLevel.Fault) : x.mapError tell ≠ .error (.level f) := by
  intro failed
  obtain ⟨e, -, told⟩ := Attempt.mapError_eq_error.1 failed
  exact other e f told

/-- Nor is a fault of the markup. -/
lemma markup_ne_level {α : Type} (x : Except Console.MarkupFault α) (f : LogLevel.Fault) :
    x.mapError Fault.markup ≠ .error (.level f) :=
  mapError_ne_level .markup (by rintro e f ⟨⟩) x f

/-- Nor is an indentation. -/
lemma document_ne_level (indent : Int) (j : Json) (f : LogLevel.Fault) :
    document indent j ≠ .error (.level f) := by
  unfold document
  split_ifs <;> nofun

lemma refuse_levelled (code : Nat) (message : String) : Levelled fun level => refuse level code message :=
  .bind (markup_ne_level _) fun _ => .done fun _ _ => rfl

lemma check_levelled (r : Resolved) : Levelled fun level => check level r :=
  .bind (markup_ne_level _) fun _ =>
    .bind (markup_ne_level _) fun _ => .done fun _ _ => rfl

lemma openapi_levelled (files : Files) (indent : Int) (path? : Option String) (r : Resolved) :
    Levelled fun level => openapi level files indent path? r := by
  refine .bind (document_ne_level indent _) fun _ => ?_
  cases path? with
  | none => exact .done fun _ _ => rfl
  | some path =>
    exact .bind (mapError_ne_level .write nofun _) fun _ =>
      .bind (markup_ne_level _) fun _ => .done fun _ _ => rfl

lemma combine_levelled (first second : String) (indent : Int) (r : Resolved) :
    Levelled fun level => combine level first second indent r := by
  unfold combine
  cases left : r.compiled.catalogue.get? first with
  | none =>
    simp only [left]
    exact refuse_levelled _ _
  | some a =>
    cases right : r.compiled.catalogue.get? second with
    | none =>
      simp only [left, right]
      exact refuse_levelled _ _
    | some b =>
      cases combined : a.combine b with
      | error e =>
        simp only [left, right, combined]
        exact refuse_levelled _ _
      | ok c =>
        simp only [left, right, combined]
        exact .bind (document_ne_level indent _) fun _ => .done fun _ _ => rfl

lemma demo_levelled (host : String) (port : Int) : Levelled fun level => demo level host port :=
  .bind (markup_ne_level _) fun _ => .done fun _ _ => rfl

lemma withTarget_levelled (s : Surroundings) (target : String)
    {use : Nat → Resolved → Except Fault Execution} (used : ∀ r, Levelled fun level => use level r) :
    Levelled fun level => (withTarget s level target (use level)).outcome := by
  cases resolved : (s.resolve target).outcome with
  | ok r =>
    simp only [withTarget, Attempt.outcome_of, resolved]
    exact used r
  | error e =>
    simp only [withTarget_error resolved]
    cases e.rejected? with
    | some ds => exact .bind (markup_ne_level _) fun _ => .done fun _ _ => rfl
    | none =>
      cases e.isTold with
      | true => exact refuse_levelled _ _
      | false => exact .fail (by rintro f ⟨⟩)

/-- A subcommand only notes the level. -/
lemma Action.run_levelled (s : Surroundings) (a : Action) :
    Levelled fun level => (a.run s level).outcome := by
  cases a with
  | check target => exact withTarget_levelled s target check_levelled
  | openapi target indent output => exact withTarget_levelled s target (openapi_levelled s.files indent output)
  | combine target first second indent =>
    exact withTarget_levelled s target (combine_levelled first second indent)
  | demo host port => exact demo_levelled host port

/-- A subcommand does not complete command lines. -/
lemma Subcommand.read_ne_completion (c : Subcommand) (words : List String) : c.read words ≠ .ok .completion := by
  intro asked
  obtain ⟨p, -, asked⟩ := bind_eq_ok_iff.1 asked
  split at asked
  · cases asked
  · obtain ⟨a, -, made⟩ := bind_eq_ok_iff.1 asked
    cases made

/-- What a run does after the log is configured. -/
def Invocation.perform (s : Surroundings) (level : Nat) (i : Invocation) : Except Fault Ending :=
  match i.command.read i.words with
  | .error _ => .ok (.usage usageCode)
  | .ok .help => .ok (.usage successCode)
  | .ok .completion => .ok (.done completion)
  | .ok (.run action) => (action.run s level).outcome.map .done

/-- It only notes the level. -/
lemma Invocation.perform_noted (s : Surroundings) (level level' : Nat) (i : Invocation) :
    (i.perform s level).map (Ending.atLevel level') = i.perform s level' := by
  unfold perform
  cases asked : i.command.read i.words with
  | error e => rfl
  | ok request =>
    cases request with
    | help => rfl
    | completion => exact absurd asked (i.command.read_ne_completion i.words)
    | run action =>
      show ((action.run s level).outcome.map Ending.done).map (Ending.atLevel level') =
        (action.run s level').outcome.map Ending.done
      rw [← (action.run_levelled s).noted level level']
      cases (action.run s level).outcome <;> rfl

/-- The level is not at fault. -/
lemma Invocation.perform_innocent (s : Surroundings) (level : Nat) (i : Invocation)
    (f : LogLevel.Fault) : i.perform s level ≠ .error (.level f) := by
  intro failed
  rw [perform] at failed
  split at failed
  · cases failed
  · cases failed
  · cases failed
  · rename_i action _
    cases outcome : (action.run s level).outcome with
    | error e =>
      rw [outcome] at failed
      cases failed
      exact (action.run_levelled s).innocent level f outcome
    | ok x =>
      rw [outcome] at failed
      cases failed

/-- A run whose words ask for a subcommand configures the log and goes on. -/
lemma run_outcome_eq_perform (s : Surroundings) {words : List String} {i : Invocation}
    (invoked : Invocation.read words = .ok (.run i)) :
    (run s words).outcome =
      (configure s.env i.logLevel).outcome >>= fun level => i.perform s level := by
  rw [run, invoked]
  simp only [Attempt.outcome_bind]
  congr 1
  funext level
  unfold Invocation.perform
  cases asked : i.command.read i.words with
  | error e => rfl
  | ok request =>
    cases request with
    | help => rfl
    | completion => rfl
    | run action =>
      simp only [Attempt.outcome_bind]
      cases (action.run s level).outcome <;> rfl

/-- A log that is handled already is left alone. For a bare log, a text misleads or gives a level, with one handler. A
run breaks off at the level just when its words ask for a subcommand and the text of its level misleads; where that
text gives a level, the run does what it does with any other, and notes the level. -/
theorem configured_or_misled (s : Surroundings) :
    (∀ (sink : LogSink) (text : String), sink.handlers ≠ [] → sink.configure text = .ok sink) ∧
    (∀ (level : Nat) (text : String) (f : LogLevel.Fault),
      (LogSink.mk level []).configure text = .error f ↔ LogLevel.Misleads text f) ∧
    (∀ (level : Nat) (text : String), (∀ f, ¬LogLevel.Misleads text f) →
      ∃ n, LogLevel.Gives text n ∧ (LogSink.mk level []).configure text = .ok ⟨n, [.console]⟩) ∧
    (∀ (words : List String) (f : LogLevel.Fault), (run s words).outcome = .error (.level f) ↔
      ∃ i, Invocation.read words = .ok (.run i) ∧ LogLevel.Misleads (levelText s.env i.logLevel) f) ∧
    ∀ (words : List String) (i : Invocation), Invocation.read words = .ok (.run i) →
      (∀ f, ¬LogLevel.Misleads (levelText s.env i.logLevel) f) →
      ∃ n, LogLevel.Gives (levelText s.env i.logLevel) n ∧
        ∀ level, (run s words).outcome = (i.perform s level).map (Ending.atLevel n) := by
  have bare (level : Nat) (text : String) :
      (LogSink.mk level []).configure text = (LogLevel.ofName text).map fun n => ⟨n, [.console]⟩ :=
    LogSink.configure_bare rfl text
  refine ⟨?_, ?_, ?_, ?_, ?_⟩
  · intro sink text handled
    exact LogSink.configure_handled handled text
  · intro level text f
    rw [bare, ← LogLevel.ofName_eq_error_iff]
    cases LogLevel.ofName text with
    | error e => exact ⟨fun same => by cases same; rfl, fun same => by cases same; rfl⟩
    | ok n => exact ⟨nofun, nofun⟩
  · intro level text plain
    obtain ⟨n, gives, found⟩ := LogLevel.exists_ofName plain
    refine ⟨n, gives, ?_⟩
    rw [bare, found]
    rfl
  · intro words f
    constructor
    · intro failed
      obtain ⟨i, invoked⟩ : ∃ i, Invocation.read words = .ok (.run i) := by
        unfold run at failed
        split at failed
        · cases failed
        · cases failed
        · cases failed
        · rename_i i invoked
          exact ⟨i, invoked⟩
      refine ⟨i, invoked, LogLevel.ofName_eq_error_iff.1 ?_⟩
      rw [run_outcome_eq_perform s invoked, configure_outcome] at failed
      cases found : LogLevel.ofName (levelText s.env i.logLevel) with
      | error e =>
        rw [found] at failed
        cases failed
        rfl
      | ok n =>
        rw [found] at failed
        exact absurd failed (i.perform_innocent s n f)
    · rintro ⟨i, invoked, misled⟩
      rw [run_outcome_eq_perform s invoked, configure_outcome, LogLevel.ofName_eq_error_iff.2 misled]
      rfl
  · intro words i invoked plain
    obtain ⟨n, gives, found⟩ := LogLevel.exists_ofName plain
    refine ⟨n, gives, fun level => ?_⟩
    rw [run_outcome_eq_perform s invoked, configure_outcome, found, i.perform_noted s level n]
    rfl

/-- A dotless letter makes no difference: in upper case the text names a level, which the run notes. A log that is
handled already takes no level, not even that of a text that misleads a bare one. -/
theorem dotless_configured :
    (LogSink.mk 40 [.silent]).configure "_styles" = .ok ⟨40, [.silent]⟩ ∧
    (LogSink.mk 40 []).configure "ınfo" = .ok ⟨20, [.console]⟩ ∧
    ∃ i, Invocation.read ["--log-level", "ınfo", "check", "orders"] = .ok (.run i) ∧
      (run .bare ["--log-level", "ınfo", "check", "orders"]).outcome =
        (i.perform .bare 30).map (Ending.atLevel 20) := by
  obtain ⟨handled, -, bare, -, noted⟩ := configured_or_misled .bare
  have upper : Text.upper "ınfo" = "INFO" := by decide +kernel
  have plain (f : LogLevel.Fault) : ¬LogLevel.Misleads "ınfo" f := by
    rintro (format | table)
    · exact absurd (upper.symm.trans format) (by decide)
    · exact absurd (upper.symm.trans table) (by decide)
  have level {n : Nat} (gives : LogLevel.Gives "ınfo" n) : n = 20 := by
    rw [← LogLevel.gives_iff.1 gives, upper]
    rfl
  have invoked : Invocation.read ["--log-level", "ınfo", "check", "orders"] =
      .ok (.run ⟨some "ınfo", subcommands[0], ["orders"]⟩) := rfl
  refine ⟨handled ⟨40, [.silent]⟩ "_styles" (List.cons_ne_nil _ _), ?_, _, invoked, ?_⟩
  · obtain ⟨n, gives, configured⟩ := bare 40 "ınfo" plain
    rw [configured, level gives]
  · obtain ⟨n, gives, ends⟩ := noted ["--log-level", "ınfo", "check", "orders"] _ invoked plain
    rw [ends 30, level gives]

/-- The name of the format of a record is found among the constants of the log, in whatever letters it is written: the
log gets no level, and the run breaks off before its target is refused. -/
theorem recordFormat_breaks :
    bareSink.configure "basic_format" = .error .recordFormat ∧
    (run .bare ["--log-level", "basic_format", "check", "orders"]).outcome = .error (.level .recordFormat) := by
  have found : LogLevel.ofName "basic_format" = .error .recordFormat :=
    LogLevel.ofName_eq_error_iff.2 (.format (by decide +kernel))
  have invoked : Invocation.read ["--log-level", "basic_format", "check", "orders"] =
      .ok (.run ⟨some "basic_format", subcommands[0], ["orders"]⟩) := rfl
  constructor
  · rw [LogSink.configure_bare rfl, found]
    rfl
  · rw [run_outcome_eq_perform .bare invoked, configure_outcome,
      show levelText Surroundings.bare.env (some "basic_format") = "basic_format" from rfl, found]
    rfl

end Cli

end Errata
