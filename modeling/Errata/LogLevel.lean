import Errata.Settings

/-!
# Log levels

The level of a log by name. The names are looked up among all constants of the log, of which the format
of a record and the table of formatters are no levels.
-/

namespace Errata

namespace LogLevel

/-- The levels by name. -/
def named : List (String × Nat) := [
  ("CRITICAL", 50), ("FATAL", 50), ("ERROR", 40), ("WARNING", 30), ("WARN", 30), ("INFO", 20),
  ("DEBUG", 10), ("NOTSET", 0)]

/-- The level where the name is unknown. -/
def fallback : Nat := 30

/-- A name that stands for something else than a level. -/
inductive Fault where
  | recordFormat
  | formatterTable
  deriving DecidableEq, Repr

/-- The name of the format of a record. -/
def recordFormatName : String := "BASIC_FORMAT"

/-- The name of the table of formatters. -/
def formatterTableName : String := "_STYLES"

/-- The format of a record. -/
def recordFormat : String := "%(levelname)s:%(name)s:%(message)s"

/-- The table of formatters, as it is shown. -/
def formatterTable : String :=
  bracketed "\x7b" "\x7d" [
    "'%': (<class 'logging.PercentStyle'>, '%(levelname)s:%(name)s:%(message)s')",
    "'\x7b': (<class 'logging.StrFormatStyle'>, '\x7blevelname\x7d:\x7bname\x7d:\x7bmessage\x7d')",
    "'$': (<class 'logging.StringTemplateStyle'>, " ++
      "'$\x7blevelname\x7d:$\x7bname\x7d:$\x7bmessage\x7d')"]

/-- What went wrong, in words. -/
def Fault.message : Fault → String
  | recordFormat => s!"Unknown level: {Text.quoted LogLevel.recordFormat}"
  | formatterTable => "Level not an integer or a valid string: " ++ LogLevel.formatterTable

/-- The level that a name stands for, in whatever letters. -/
def ofName (name : String) : Except Fault Nat :=
  let constant := Text.upper name
  if constant = recordFormatName then .error .recordFormat
  else if constant = formatterTableName then .error .formatterTable
  else .ok ((named.lookup constant).getD fallback)

end LogLevel

/-- What handles the records of a log. -/
inductive LogHandler where
  | console
  | silent
  deriving DecidableEq, Repr

/-- The log of a process: the least level it takes, and what handles its records. -/
structure LogSink where
  level : Nat
  handlers : List LogHandler
  deriving DecidableEq, Repr

namespace LogSink

/-- What becomes of a log that is sent to the console from a level on. It is handled before its level is set, and
keeps the level that it had where the name stands for none. A log that is handled already is left alone. -/
def after (sink : LogSink) (levelName : String) : LogSink :=
  if sink.handlers.isEmpty then ⟨(LogLevel.ofName levelName).toOption.getD sink.level, [.console]⟩
  else sink

/-- Sends the log to the console from a level on, unless the name stands for something else. -/
def configure (sink : LogSink) (levelName : String) : Except LogLevel.Fault LogSink :=
  if sink.handlers.isEmpty then (LogLevel.ofName levelName).map fun _ => sink.after levelName
  else .ok (sink.after levelName)

end LogSink

end Errata
