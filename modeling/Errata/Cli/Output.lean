import Errata.Target.Files

/-!
# Output files

Where a text is written that a command line names a file for. The directory of the file has to be
there.
-/

namespace Errata.Cli

/-- Why a file cannot be written. -/
inductive WriteFault where
  | notFound (path : String)
  | notDirectory (path : String)
  | isDirectory (path : String)
  | tooLong (path : String)
  deriving DecidableEq, Repr

/-- What went wrong, in words. -/
def WriteFault.message : WriteFault → String
  | notFound path => s!"[Errno 2] No such file or directory: {Text.quoted path}"
  | notDirectory path => s!"[Errno 20] Not a directory: {Text.quoted path}"
  | isDirectory path => s!"[Errno 21] Is a directory: {Text.quoted path}"
  | tooLong path => Files.tooLong path

/-- Walks to the place that is written. Above the working directory, every file can be written that
lies there directly. -/
def walkToWrite (f : Files) (path : String) (place : List String) :
    List String → Except WriteFault (List String)
  | [] => .ok place
  | s :: rest =>
    if (f.body? place).isSome then .error (.notDirectory path)
    else if !f.isDirectory place then .error (.notFound path)
    else if s = ".." then
      if place.isEmpty then
        match rest with
        | [] => .error (.isDirectory path)
        | [name] => .ok [s, name]
        | _ => .error (.notFound path)
      else walkToWrite f path place.dropLast rest
    else walkToWrite f path (place ++ [s]) rest

/-- The place that a path leads to, when a file can be written there. -/
def writable (f : Files) (path : String) : Except WriteFault (List String) :=
  let shown := Files.shownPath path
  let steps := Files.steps path
  if f.isTooLong path then .error (.tooLong path)
  else if Files.isAbsolute path then
    .error (if steps.isEmpty then .isDirectory shown else .notFound shown)
  else
    match walkToWrite f shown [] steps with
    | .ok place => if f.isDirectory place then .error (.isDirectory shown) else .ok place
    | .error e => .error e

end Errata.Cli
