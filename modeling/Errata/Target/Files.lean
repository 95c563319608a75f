import Errata.Class.Hint
import Errata.Session
import Errata.Text.Words

/-!
# Files

The files below the working directory. A file holds either a text or a row of definitions that are run
in order. A directory exists where a file stands below it.
-/

namespace Errata

/-- A definition of a file. -/
inductive Definition where
  | cls (s : ClassStatement)
  | bind (name : String) (v : Value)
  | alias (name : String) (path : List String)

/-- What a file holds. -/
inductive FileBody where
  | source (text : String)
  | definitions (ds : List Definition)

/-- The files below a directory, each with the steps of its path. -/
structure Files where
  entries : List (List String × FileBody)

namespace Files

/-- The parts of a path that lead somewhere. -/
def steps (path : String) : List String :=
  ((Text.splitOn (· = '/') path.toList).map String.ofList).filter fun s => s ≠ "" && s ≠ "."

/-- The files of a list of paths. -/
def ofList (es : List (String × FileBody)) : Files :=
  ⟨(OrderedMap.ofList (es.map fun e => (steps e.1, e.2))).entries⟩

/-- The file at a place. -/
def body? (f : Files) (place : List String) : Option FileBody := f.entries.lookup place

/-- A directory is at a place. -/
def isDirectory (f : Files) (place : List String) : Bool :=
  place.isEmpty || f.entries.any fun e => place.isPrefixOf e.1 && place.length < e.1.length

/-- Walks from a place along steps; only a directory can be walked through, and nothing is known of
what lies above the working directory. -/
def walk (f : Files) (place : List String) : List String → Option (List String)
  | [] => some place
  | s :: rest =>
    if !f.isDirectory place then none
    else if s = ".." then if place.isEmpty then none else f.walk place.dropLast rest
    else f.walk (place ++ [s]) rest

/-- The most bytes of a step of a path. -/
def maxStepSize : Nat := 255

/-- The most bytes of a path. -/
def maxPathSize : Nat := 4095

/-- A step that is too long is met on a walk, before one that leads nowhere. Nothing is known of what lies
above the working directory but that it is there. -/
def meetsLongStep (f : Files) : Option (List String) → List String → Bool
  | _, [] => false
  | none, s :: rest =>
    if s = ".." then f.meetsLongStep none rest else decide (maxStepSize < s.utf8ByteSize)
  | some place, s :: rest =>
    if !f.isDirectory place then false
    else if maxStepSize < s.utf8ByteSize then true
    else if s = ".." then
      f.meetsLongStep (if place.isEmpty then none else some place.dropLast) rest
    else f.meetsLongStep (some (place ++ [s])) rest

/-- A path that begins at the root of the file system. -/
def isAbsolute (path : String) : Bool := path.toList.head? == some '/'

/-- A path as it is shown: without empty and idle steps. -/
def shownPath (path : String) : String :=
  let shown := (if isAbsolute path then "/" else "") ++ "/".intercalate (steps path)
  if shown.isEmpty then "." else shown

/-- A path that no file can have because it is too long. -/
def isTooLong (f : Files) (path : String) : Bool :=
  maxPathSize < (shownPath path).utf8ByteSize ||
    f.meetsLongStep (if isAbsolute path then none else some []) (steps path)

/-- What is said of a path that is too long. -/
def tooLong (path : String) : String := s!"[Errno 36] File name too long: {Text.quoted (shownPath path)}"

/-- The place that a path leads to. -/
def place? (f : Files) (path : String) : Option (List String) :=
  if isAbsolute path then none else f.walk [] (steps path)

/-- The file that a path leads to. -/
def find? (f : Files) (path : String) : Option (List String × FileBody) := do
  let place ← f.place? path
  let body ← f.body? place
  return (place, body)

/-- How many modules can be made of the files, at most. -/
def weight (f : Files) : Nat := (f.entries.flatMap Prod.fst).length + f.entries.length

end Files

end Errata
