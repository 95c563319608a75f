/-!
# Decimal texts of numbers

A number that is not whole by nature is kept as the text it was written with, because that text is
also how it is shown. The text has at least one digit before the point; digits after it, a signed
exponent, or both, tell it from a whole number. What the text stands for is the binary number with 53
significant bits that lies nearest to it.
-/

namespace Errata

/-- The decimal digits at the head of a text, and what follows them. -/
def spanDigits (cs : List Char) : List Char × List Char :=
  (cs.takeWhile Char.isDigit, cs.dropWhile Char.isDigit)

/-- The number that decimal digits write. -/
def digitsValue (cs : List Char) : Nat :=
  cs.foldl (fun n c => 10 * n + (c.toNat - 48)) 0

namespace Number

/-- The parts of a decimal text. -/
structure Parts where
  negative : Bool
  whole : List Char
  fraction : List Char
  exponent : Int
  deriving Repr

/-- Reads the digits after a point, if there is one. -/
def fraction? : List Char → Option (List Char × List Char)
  | '.' :: cs =>
    match spanDigits cs with
    | ([], _) => none
    | split => some split
  | cs => some ([], cs)

/-- Reads an exponent that ends the text, if there is one. -/
def exponent? : List Char → Option Int
  | [] => some 0
  | 'e' :: sign :: cs =>
    if cs.isEmpty || !cs.all Char.isDigit then none
    else if sign = '+' then some (digitsValue cs)
    else if sign = '-' then some (-digitsValue cs)
    else none
  | _ => none

/-- Reads the digits before the point; a leading zero stands alone. -/
def whole? (cs : List Char) : Option (List Char × List Char) :=
  match spanDigits cs with
  | ([], _) => none
  | (['0'], rest) => some (['0'], rest)
  | ('0' :: _, _) => none
  | split => some split

/-- The parts of a text without its sign. Digits alone write a whole number. -/
def unsignedParts? (negative : Bool) (cs : List Char) : Option Parts := do
  let (whole, cs) ← whole? cs
  if cs.isEmpty then none
  let (fraction, cs) ← fraction? cs
  let exponent ← exponent? cs
  return ⟨negative, whole, fraction, exponent⟩

/-- The parts of a decimal text. -/
def parts? : List Char → Option Parts
  | '-' :: cs => unsignedParts? true cs
  | cs => unsignedParts? false cs

/-- Rounds a whole number to 53 significant bits; a tie goes to the even neighbour. -/
def roundToDouble (n : Nat) : Nat :=
  if n < Nat.pow 2 53 then n
  else
    let shift := n.log2 - 52
    let quotient := n >>> shift
    let remainder := n % Nat.pow 2 shift
    let half := Nat.pow 2 (shift - 1)
    let up := half < remainder || (remainder == half && quotient % 2 == 1)
    (if up then quotient + 1 else quotient) <<< shift

end Number

/-- A decimal text that writes a finite number. -/
structure Decimal where
  chars : List Char
  valid : (Number.parts? chars).isSome = true

namespace Decimal

instance : DecidableEq Decimal := fun a b =>
  if h : a.chars = b.chars then isTrue (by cases a; cases b; simp_all)
  else isFalse fun e => h (e ▸ rfl)

/-- The decimal that a text writes. -/
def ofText? (s : String) : Option Decimal :=
  if h : (Number.parts? s.toList).isSome = true then some ⟨s.toList, h⟩ else none

/-- The parts of the text. -/
def parts (d : Decimal) : Number.Parts := (Number.parts? d.chars).get d.valid

/-- The text itself. -/
def text (d : Decimal) : String := String.ofList d.chars

/-- Every digit is a zero. -/
def isZero (d : Decimal) : Bool :=
  d.parts.whole.all (· = '0') && d.parts.fraction.all (· = '0')

/-- The magnitude, when the number has no fraction. -/
def magnitude? (d : Decimal) : Option Nat :=
  let p := d.parts
  let significand := digitsValue (p.whole ++ p.fraction)
  let exponent := p.exponent - p.fraction.length
  if 0 ≤ exponent then some (Number.roundToDouble (significand * Nat.pow 10 exponent.toNat))
  else
    let divisor := Nat.pow 10 (-exponent).toNat
    if significand % divisor = 0 then some (Number.roundToDouble (significand / divisor)) else none

/-- The whole number it stands for, when it has no fraction. -/
def integer? (d : Decimal) : Option Int :=
  d.magnitude?.map fun n => if d.parts.negative then -(n : Int) else n

/-- Two decimals stand for one number. The texts are the shortest that do so, which leaves the sign of
zero as the only choice. -/
def sameNumber (a b : Decimal) : Bool :=
  a.chars == b.chars || (a.isZero && b.isZero)

end Decimal

end Errata
