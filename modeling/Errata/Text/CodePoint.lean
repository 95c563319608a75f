/-!
# Code points

A text is a row of code points. Among them are the surrogates, which stand for no character by themselves, and which
no row of bytes can hold. A surrogate is written as two characters, a mark and one of its own; the mark itself is written
twice. In this way every row of code points is written as a text, no two of them as one, and two rows behind each
other as their texts behind each other.
-/

namespace Errata.Text

/-- The mark before the character of a surrogate: the last character, which is assigned to nothing. -/
def mark : Char := Char.ofNat 0x10FFFF

/-- How far behind a surrogate its character is. -/
def surrogateShift : Nat := 0xF2800

/-- The code point is a surrogate. -/
def isSurrogate (n : Nat) : Bool := 0xD800 ≤ n && n ≤ 0xDFFF

/-- The characters of a code point. -/
def ofCodePoint (n : Nat) : List Char :=
  if isSurrogate n then [mark, Char.ofNat (surrogateShift + n)]
  else if n = mark.toNat then [mark, mark]
  else [Char.ofNat n]

/-- The surrogate whose character this is. -/
def surrogate? (c : Char) : Option Nat :=
  if surrogateShift ≤ c.toNat && isSurrogate (c.toNat - surrogateShift) then some (c.toNat - surrogateShift) else none

/-- The code point of two characters, if they stand for one. -/
def paired? (c d : Char) : Option Nat :=
  if c ≠ mark then none
  else if d = mark then some mark.toNat
  else surrogate? d

/-- The code points of a text. -/
def codePoints : List Char → List Nat
  | [] => []
  | [c] => [c.toNat]
  | c :: d :: cs =>
    match paired? c d with
    | some n => n :: codePoints cs
    | none => c.toNat :: codePoints (d :: cs)

/-- Bytes can hold the text: no code point of it is a surrogate. -/
def isEncodable (s : String) : Bool := (codePoints s.toList).all fun n => !isSurrogate n

/-- A hexadecimal digit. -/
def isHexDigit (c : Char) : Bool := c.isDigit || ('a' ≤ c && c ≤ 'f') || ('A' ≤ c && c ≤ 'F')

/-- The number of a hexadecimal digit. -/
def hexValue (c : Char) : Nat :=
  if c.isDigit then c.toNat - '0'.toNat
  else if 'a' ≤ c then c.toNat - 'a'.toNat + 10
  else c.toNat - 'A'.toNat + 10

end Errata.Text
