/-!
# Faults of a script

What is wrong with a script that cannot be read: the kind of fault, a text, and the line where it was
noticed.
-/

namespace Errata.Script

/-- The kinds of faults of a script. -/
inductive Fault.Kind where
  | text
  | indentation
  | tabs
  deriving DecidableEq, Repr

/-- Why a script cannot be read. A fault of the whole script has no line. -/
structure Fault where
  kind : Fault.Kind
  complaint : String
  line : Option Nat
  deriving DecidableEq, Repr

namespace Fault

/-- A fault in a line. -/
def inLine (complaint : String) (line : Nat) : Fault := ⟨.text, complaint, some line⟩

/-- The fault where nothing better is known. -/
def plain (line : Nat) : Fault := inLine "invalid syntax" line

/-- What is wrong with the script of a name, and where. -/
def message (f : Fault) (script : String) : String :=
  match f.line with
  | some n => s!"{f.complaint} ({script}, line {n})"
  | none => f.complaint

/-- The type of the fault. -/
def type (f : Fault) : String :=
  match f.kind with
  | .text => "SyntaxError"
  | .indentation => "IndentationError"
  | .tabs => "TabError"

end Fault

end Errata.Script
