import Errata.Number.Decimal

/-!
# Floating numbers

A floating number has up to 53 binary digits and an exponent of two. It is kept as the text that it is shown with: of
the shortest decimals that are read as the number, the one that is nearest to it. Very small and very large numbers are
written with an exponent.
-/

namespace Errata

namespace Number

/-- A fraction. -/
structure Ratio where
  above : Nat
  below : Nat

/-- A whole number times a power of a base. -/
structure Scaled where
  significand : Nat
  exponent : Int
  deriving DecidableEq, Repr

namespace Ratio

/-- The fraction times a power of a base. -/
def scale (r : Ratio) (base : Nat) (exponent : Int) : Ratio :=
  if 0 ≤ exponent then ⟨r.above * Nat.pow base exponent.toNat, r.below⟩
  else ⟨r.above, r.below * Nat.pow base (-exponent).toNat⟩

/-- The whole part, and what is left of it. -/
def divided (r : Ratio) : Nat × Nat := (r.above / r.below, r.above % r.below)

/-- How what is left compares to one half. -/
def half (r : Ratio) : Ordering := compare (2 * r.divided.2) r.below

/-- The nearest whole number; a tie goes to the even one. -/
def rounded (r : Ratio) : Nat :=
  let n := r.divided.1
  match r.half with
  | .lt => n
  | .eq => n + n % 2
  | .gt => n + 1

end Ratio

/-- A whole number times a power of the base, as a fraction. -/
def Scaled.ratio (base : Nat) (s : Scaled) : Ratio := Ratio.scale ⟨s.significand, 1⟩ base s.exponent

/-- The binary digits of a floating number. -/
def precision : Nat := 53

/-- The exponent of the smallest floating numbers. -/
def minExponent : Int := -1074

/-- The exponent of the largest floating numbers. -/
def maxExponent : Int := 971

/-- The floating number that is nearest to a fraction. Beyond the largest there is none. -/
def nearest? (r : Ratio) : Option Scaled :=
  let size : Int := r.above.log2 - r.below.log2
  let least := (r.scale 2 (-size)).divided.1
  let exponent := max ((if least = 0 then size - 1 else size) + 1 - precision) minExponent
  let significand := (r.scale 2 (-exponent)).rounded
  let number : Scaled :=
    if significand = Nat.pow 2 precision then ⟨Nat.pow 2 (precision - 1), exponent + 1⟩ else ⟨significand, exponent⟩
  if maxExponent < number.exponent then none else some number

/-- A decimal is read as a floating number. -/
def isRead (number : Scaled) (s : Scaled) : Bool := nearest? (s.ratio 10) == some number

/-- No decimal with a digit less is read as the same floating number as this one, and none with as many digits is and is
nearer to it. A tie goes to the even digit. -/
def isShortest (s : Scaled) : Bool :=
  match nearest? (s.ratio 10) with
  | none => false
  | some number =>
    let coarse := ((number.ratio 2).scale 10 (-(s.exponent + 1))).divided.1
    let fine := (number.ratio 2).scale 10 (-s.exponent)
    let below := fine.divided.1
    let isNearest :=
      if s.significand = below then
        fine.half = .lt || (fine.half = .eq && below % 2 = 0) || !isRead number ⟨below + 1, s.exponent⟩
      else
        s.significand = below + 1 &&
          (fine.half = .gt || (fine.half = .eq && below % 2 = 1) || !isRead number ⟨below, s.exponent⟩)
    number.significand ≠ 0 && isNearest &&
      !isRead number ⟨coarse, s.exponent + 1⟩ && !isRead number ⟨coarse + 1, s.exponent + 1⟩

/-- The text of digits with a point behind some of them, or before them all. Far from the digits the point is written
as an exponent. -/
def layout (digits : List Char) (point : Int) : List Char :=
  let behind (digits rest : List Char) := if digits.isEmpty then rest else '.' :: digits
  if -4 < point && point ≤ 16 then
    let whole := digits.take point.toNat ++ List.replicate (point.toNat - digits.length) '0'
    let fraction := List.replicate (-point).toNat '0' ++ digits.drop point.toNat
    (if whole.isEmpty then ['0'] else whole) ++ behind fraction ['.', '0']
  else
    let exponent := Nat.toDigits 10 (point - 1).natAbs
    digits.take 1 ++ behind (digits.drop 1) [] ++
      'e' :: (if point < 1 then '-' else '+') :: List.replicate (2 - exponent.length) '0' ++ exponent

end Number

/-- The decimal is what some floating number is shown as. -/
def Decimal.isPrinted (d : Decimal) : Bool :=
  let p := d.parts
  let significant := ((p.whole ++ p.fraction).dropWhile (· = '0')).reverse
  let digits := (significant.dropWhile (· = '0')).reverse
  let exponent := p.exponent - p.fraction.length + (significant.length - digits.length : Nat)
  let sign := if p.negative then ['-'] else []
  if digits.isEmpty then d.chars = sign ++ ['0', '.', '0']
  else
    d.chars = sign ++ Number.layout digits (digits.length + exponent) &&
      Number.isShortest ⟨digitsValue digits, exponent⟩

/-- A floating number: what a decimal shows, an infinity, or no number at all. -/
inductive Floating where
  | nan
  | infinity (negative : Bool)
  | finite (d : Decimal) (printed : d.isPrinted = true)
  deriving DecidableEq

namespace Floating

/-- How the number is shown. -/
def text : Floating → String
  | nan => "nan"
  | infinity true => "-inf"
  | infinity false => "inf"
  | finite d _ => d.text

/-- The number that a text shows. -/
def ofText? (s : String) : Option Floating :=
  if s = "nan" then some nan
  else if s = "inf" then some (infinity false)
  else if s = "-inf" then some (infinity true)
  else
    match Decimal.ofText? s with
    | some d => if printed : d.isPrinted = true then some (finite d printed) else none
    | none => none

/-- The whole number it stands for, when there is one. -/
def integer? : Floating → Option Int
  | finite d _ => d.integer?
  | _ => none

/-- Two floating numbers are equal; what is no number equals nothing. -/
def sameNumber : Floating → Floating → Bool
  | finite a _, finite b _ => a.sameNumber b
  | infinity a, infinity b => a == b
  | _, _ => false

end Floating

end Errata
