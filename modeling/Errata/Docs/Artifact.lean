import Errata.Json.Basic
import Errata.OrderedMap
import Errata.Taxonomy

/-!
# Documentation artifacts

The documentation of an error: a schema of its bodies and a response that refers to the schema. The
documentation of several errors that share a status is combined: the schema then offers the single
schemas as alternatives. An artifact is therefore a row of leaves with one status, and everything it
says is computed from them.
-/

namespace Errata.Docs

/-- The documentation of one error. -/
structure Leaf where
  name : String
  status : Int
  code : Wording
  hint : Option Wording
  carriesContent : Bool
  description : Wording
  deriving DecidableEq

namespace Leaf

/-- Two leaves document the same, however their texts are spelled. -/
def same (a b : Leaf) : Bool :=
  a.name == b.name && a.status == b.status && a.code.text == b.code.text &&
    a.hint.map Wording.text == b.hint.map Wording.text &&
    a.carriesContent == b.carriesContent && a.description.text == b.description.text

/-- The leaf of a case that answers a request. Without a description the hint describes it, and
without a hint the code. -/
def ofRequest (name : String) (naive : Bool) (r : RequestAttributes) : Leaf where
  name
  status := r.status.value
  code := r.code
  hint := r.hint
  carriesContent := !naive
  description := (r.description.or r.hint).getD r.code

/-- The leaf that all internal cases share. -/
def internal (code : Wording) : Leaf where
  name := internalErrorName
  status := Status.internalServerError.value
  code
  hint := none
  carriesContent := false
  description := .literal "Internal server error"

end Leaf

/-- The documentation of one error, or of several that share a status. -/
structure Artifact where
  first : Leaf
  others : List Leaf
  sameStatus : ∀ l ∈ others, l.status = first.status

/-- Why artifacts cannot be joined. -/
inductive Violation where
  | differentStatus (firstName : String) (firstStatus : Int) (secondName : String) (secondStatus : Int)
  | sharedStatus (owner name status : String)
  deriving DecidableEq, Repr

/-- What is said of two errors that do not have the same status. -/
def differentStatusMessage (firstName firstStatus secondName secondStatus : String) : String :=
  "combine_errors can only be used for errors with the same status: " ++
    s!"{firstName} is {firstStatus}, {secondName} is {secondStatus}"

/-- What went wrong, in words. -/
def Violation.message : Violation → String
  | differentStatus firstName firstStatus secondName secondStatus =>
    differentStatusMessage firstName (toString firstStatus) secondName (toString secondStatus)
  | sharedStatus owner name status =>
    s!"{owner} and {name} both document status {status}; use combine_errors to merge them"

namespace Artifact

/-- The artifact of one error. -/
def single (l : Leaf) : Artifact := ⟨l, [], by simp⟩

/-- The single errors it documents. -/
def leaves (a : Artifact) : List Leaf := a.first :: a.others

/-- The status that all its leaves have. -/
def status (a : Artifact) : Int := a.first.status

theorem status_of_mem_leaves {a : Artifact} {l : Leaf} (h : l ∈ a.leaves) : l.status = a.status := by
  rcases List.mem_cons.1 h with rfl | h
  · rfl
  · exact a.sameStatus l h

/-- It documents more than one error. -/
def isCombined (a : Artifact) : Bool := !a.others.isEmpty

/-- The leaves of a combined artifact. -/
def parts (a : Artifact) : List Leaf := if a.isCombined then a.leaves else []

/-- The names of its leaves, joined. -/
def name (a : Artifact) : String := "Or".intercalate (a.leaves.map Leaf.name)

/-- The codes of its leaves. -/
def codes (a : Artifact) : List String := a.leaves.map fun l => l.code.text

/-- How a combined response is described, or a single one in prose. -/
def description (a : Artifact) : String := " | ".intercalate (a.leaves.map fun l => l.description.shown)

/-- What the response says about itself. -/
def responseDescription (a : Artifact) : String :=
  if a.isCombined then a.description else a.first.description.text

/-- Two artifacts document the same, however their texts are spelled. -/
def same (a b : Artifact) : Bool :=
  a.leaves.length == b.leaves.length && (a.leaves.zip b.leaves).all (fun p => p.1.same p.2) &&
    a.responseDescription == b.responseDescription

/-- Documents the errors of two artifacts together. -/
def combine (a b : Artifact) : Except Violation Artifact :=
  if h : b.status = a.status then
    .ok ⟨a.first, a.others ++ b.leaves, by
      intro l hl
      rcases List.mem_append.1 hl with hl | hl
      · exact a.sameStatus l hl
      · exact (status_of_mem_leaves hl).trans h⟩
  else .error (.differentStatus a.name a.status b.name b.status)

end Artifact

end Errata.Docs
