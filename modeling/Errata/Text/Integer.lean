import Errata.Number.Decimal
import Errata.Text.Blank
import Errata.Text.Quoted

/-!
# Whole numbers in texts

Two ways to read a whole number. An option of the command line may use the digits of any script; a
field of a record knows ASCII digits only, but forgives leading zeros, even before a minus sign, and a
fraction of zeros. In both, single underscores may stand between digits, white space may surround the
number, and there is a limit to the number of digits.
-/

namespace Errata.Text

/-- The zeros of the scripts that have decimal digits; each is followed by its nine others. -/
def digitZeros : List Nat := [
  0x30, 0x660, 0x6F0, 0x7C0, 0x966, 0x9E6, 0xA66, 0xAE6, 0xB66,
  0xBE6, 0xC66, 0xCE6, 0xD66, 0xDE6, 0xE50, 0xED0, 0xF20, 0x1040,
  0x1090, 0x17E0, 0x1810, 0x1946, 0x19D0, 0x1A80, 0x1A90, 0x1B50, 0x1BB0,
  0x1C40, 0x1C50, 0xA620, 0xA8D0, 0xA900, 0xA9D0, 0xA9F0, 0xAA50, 0xABF0,
  0xFF10, 0x104A0, 0x10D30, 0x11066, 0x110F0, 0x11136, 0x111D0, 0x112F0, 0x11450,
  0x114D0, 0x11650, 0x116C0, 0x11730, 0x118E0, 0x11950, 0x11C50, 0x11D50, 0x11DA0,
  0x16A60, 0x16AC0, 0x16B50, 0x1D7CE, 0x1D7D8, 0x1D7E2, 0x1D7EC, 0x1D7F6, 0x1E140,
  0x1E2F0, 0x1E950, 0x1FBF0]

/-- The value of a decimal digit of any script. -/
def digitValue? (c : Char) : Option Nat :=
  (digitZeros.find? fun z => z ≤ c.toNat && c.toNat < z + 10).map fun z => c.toNat - z

/-- The digits of any script, as their values, with single underscores between them. -/
def groupedDigits? : List Char → Option (List Nat)
  | [] => none
  | c :: cs => do
    let d ← digitValue? c
    match cs with
    | [] => some [d]
    | '_' :: rest => (groupedDigits? rest).map (d :: ·)
    | rest => (groupedDigits? rest).map (d :: ·)

/-- The most digits that a number may be written with. -/
def maxDigits : Nat := 4300

/-- Why a text writes no number. -/
inductive IntegerFault where
  | malformed (text : String)
  | tooLong (digits : Nat)
  deriving DecidableEq, Repr

/-- What is wrong, in words. -/
def IntegerFault.message : IntegerFault → String
  | malformed text => s!"invalid literal for int() with base 10: {quoted text}"
  | tooLong digits =>
    s!"Exceeds the limit ({maxDigits} digits) for integer string conversion: value has {digits} digits; " ++
      "use sys.set_int_max_str_digits() to increase the limit"

/-- The number of digits. -/
def unsigned (text : String) (cs : List Char) : Except IntegerFault Nat :=
  match groupedDigits? cs with
  | none => .error (.malformed text)
  | some ds =>
    if maxDigits < ds.length then .error (.tooLong ds.length)
    else .ok (ds.foldl (fun n d => 10 * n + d) 0)

/-- The blanks that may surround a number. In a text of ASCII characters alone, separators are no blanks. -/
def isMargin (cs : List Char) (c : Char) : Bool :=
  if cs.all fun c => c.toNat < 128 then isWhiteSpace c else isBlank c

/-- The whole number that an option of the command line writes. -/
def integer (s : String) : Except IntegerFault Int :=
  match trimBy (isMargin s.toList) s.toList with
  | '-' :: cs => (unsigned s cs).map fun n => -(n : Int)
  | '+' :: cs => (unsigned s cs).map fun n => (n : Int)
  | cs => (unsigned s cs).map fun n => (n : Int)

namespace Lax

/-- Drops a plus sign that no minus sign follows. -/
def dropPlus : List Char → Option (List Char)
  | '+' :: '-' :: _ => none
  | '+' :: cs => some cs
  | cs => some cs

/-- Drops zeros and underscores after a leading zero, up to another digit or a minus sign. The last of
them stays when neither follows. -/
def dropZeros (last : Char) : List Char → Option (List Char)
  | [] => some [last]
  | c :: cs =>
    if c = '0' || c = '_' then dropZeros c cs
    else if c.isDigit || c = '-' then some (c :: cs)
    else if c = '.' then some (last :: c :: cs)
    else none

/-- Drops leading zeros; the text has to begin with a digit or a minus sign. -/
def dropLeadingZeros : List Char → Option (List Char)
  | [] => none
  | c :: cs =>
    if c = '0' then dropZeros c cs
    else if c.isDigit || c = '-' then some (c :: cs)
    else none

/-- Drops a point that only zeros follow, and at least one. -/
def dropFraction (cs : List Char) : List Char :=
  match cs.dropWhile (· ≠ '.') with
  | '.' :: '0' :: zeros => if zeros.all (· = '0') then cs.takeWhile (· ≠ '.') else cs
  | _ => cs

end Lax

/-- The whole number that a field of a record writes. -/
def laxInteger (s : String) : Except IntegerFault Int :=
  match Lax.dropPlus (trimBy isWhiteSpace s.toList) >>= Lax.dropLeadingZeros with
  | none => .error (.malformed s)
  | some cs =>
    let cs := Lax.dropFraction cs
    if cs.any fun c => 0x80 ≤ c.toNat then .error (.malformed s)
    else
      match cs with
      | '-' :: cs => (unsigned s cs).map fun n => -(n : Int)
      | cs => (unsigned s cs).map fun n => (n : Int)

end Errata.Text
