/-!
# Dispositions and wordings

An error case is either shown to the client, in answer to a request, or kept internal. The two words
for that are keywords of the declaration language, and a keyword may stand wherever a text may. The
two spellings have the same text, but a keyword is shown under its own name in prose.
-/

namespace Errata

/-- Who an error case is meant for. -/
inductive Disposition where
  | request
  | internal
  deriving DecidableEq, Repr

namespace Disposition

/-- The text a disposition equals. -/
def text : Disposition → String
  | request => "request"
  | internal => "internal"

/-- The constant's own name. -/
def constant : Disposition → String
  | request => "REQUEST"
  | internal => "INTERNAL"

/-- How a disposition is shown in prose. -/
def shown (d : Disposition) : String := "Disposition." ++ d.constant

/-- The disposition that a text equals. -/
def ofText? (s : String) : Option Disposition :=
  if s = "request" then some request
  else if s = "internal" then some internal
  else none

/-- The disposition of a constant's name. -/
def ofConstant? (s : String) : Option Disposition :=
  if s = "REQUEST" then some request
  else if s = "INTERNAL" then some internal
  else none

@[simp] theorem ofText?_text (d : Disposition) : ofText? d.text = some d := by
  cases d <;> rfl

theorem ofText?_eq_some_iff {s : String} {d : Disposition} : ofText? s = some d ↔ s = d.text := by
  constructor
  · intro h
    unfold ofText? at h
    split at h
    · cases h; assumption
    · split at h
      · cases h; assumption
      · cases h
  · rintro rfl
    exact ofText?_text d

end Disposition

/-- A text of a declaration, written out or as a keyword. -/
inductive Wording where
  | literal (s : String)
  | keyword (d : Disposition)
  deriving DecidableEq, Repr

namespace Wording

/-- What a wording equals, whichever way it is spelled. -/
def text : Wording → String
  | literal s => s
  | keyword d => d.text

/-- What a wording shows in prose. -/
def shown : Wording → String
  | literal s => s
  | keyword d => d.shown

instance : Inhabited Wording := ⟨.literal ""⟩

@[simp] theorem text_literal (s : String) : (literal s).text = s := rfl

@[simp] theorem text_keyword (d : Disposition) : (keyword d).text = d.text := rfl

end Wording

end Errata
