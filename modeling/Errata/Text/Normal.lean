import Errata.Text.NormalTable
import Errata.Text.Words

/-!
# The normal form of names

Two names are the same when they have the same normal form: every character is decomposed, also where it
is only a variant of another, the marks behind a character are put in order, and what composes is
composed. Syllables of Hangul de- and recompose by arithmetic.
-/

namespace Errata.Text

namespace Normal

/-- The words of the table of decompositions. -/
def decompositions : List (List Char) := words decompositionTable.toList

/-- The words of the table of compositions. -/
def compositions : List (List Char) := words compositionTable.toList

/-- The first syllable of Hangul. -/
def syllableBase : Nat := 0xAC00

/-- The first leading consonant. -/
def leadBase : Nat := 0x1100

/-- The first vowel. -/
def vowelBase : Nat := 0x1161

/-- The place before the first trailing consonant. -/
def tailBase : Nat := 0x11A7

/-- The number of leading consonants. -/
def leadCount : Nat := 19

/-- The number of vowels. -/
def vowelCount : Nat := 21

/-- The number of trailing consonants, none included. -/
def tailCount : Nat := 28

/-- The number of syllables. -/
def syllableCount : Nat := leadCount * vowelCount * tailCount

/-- The characters into which a character decomposes. -/
def decompose (c : Char) : List Char :=
  if c.toNat < 0x80 then [c]
  else if syllableBase ≤ c.toNat && c.toNat < syllableBase + syllableCount then
    let index := c.toNat - syllableBase
    let tail := index % tailCount
    [Char.ofNat (leadBase + index / (vowelCount * tailCount)),
      Char.ofNat (vowelBase + index % (vowelCount * tailCount) / tailCount)] ++
      if tail = 0 then [] else [Char.ofNat (tailBase + tail)]
  else
    match decompositions.find? fun w => w.head? == some c with
    | some w => w.tail
    | none => [c]

/-- The class of a mark; every other character has class zero. -/
def markClass (c : Char) : Nat :=
  match markRuns.find? fun r => r.1 ≤ c.toNat && c.toNat ≤ r.2.1 with
  | some r => r.2.2
  | none => 0

/-- Puts a character in front of characters whose marks are in order. -/
def insert (c : Char) : List Char → List Char
  | [] => [c]
  | d :: ds =>
    if markClass d ≠ 0 && markClass d < markClass c then d :: insert c ds else c :: d :: ds

/-- Characters with their marks in order. -/
def order (cs : List Char) : List Char := cs.foldr insert []

/-- The character that two characters compose. -/
def compose? (a b : Char) : Option Char :=
  if leadBase ≤ a.toNat && a.toNat < leadBase + leadCount &&
      vowelBase ≤ b.toNat && b.toNat < vowelBase + vowelCount then
    some (Char.ofNat (syllableBase +
      ((a.toNat - leadBase) * vowelCount + (b.toNat - vowelBase)) * tailCount))
  else if syllableBase ≤ a.toNat && a.toNat < syllableBase + syllableCount &&
      (a.toNat - syllableBase) % tailCount = 0 &&
      tailBase < b.toNat && b.toNat < tailBase + tailCount then
    some (Char.ofNat (a.toNat + (b.toNat - tailBase)))
  else
    match compositions.find? fun w => w.take 2 = [a, b] with
    | some [_, _, c] => some c
    | _ => none

/-- Composes characters with the last starter before them. `passed` are the marks behind the starter that
stay, last first. A mark composes only if none of its class or a higher one stays before it. -/
def composeFrom (starter : Char) (passed : List Char) : List Char → List Char
  | [] => starter :: passed.reverse
  | c :: cs =>
    let free := match passed with
      | [] => true
      | d :: _ => markClass d < markClass c
    match if free then compose? starter c else none with
    | some joined => composeFrom joined passed cs
    | none =>
      if markClass c = 0 then starter :: passed.reverse ++ composeFrom c [] cs
      else composeFrom starter (c :: passed) cs

end Normal

/-- The normal form of a name. -/
def normalForm (cs : List Char) : List Char :=
  match Normal.order (cs.flatMap Normal.decompose) with
  | [] => []
  | c :: rest => Normal.composeFrom c [] rest

end Errata.Text
