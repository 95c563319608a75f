import Errata.Text.CodePoint
import Errata.Text.Printable

/-!
# Quoted text

How a text or a row of bytes is shown inside a message: between quotes, on one line, with everything
that cannot be seen written as an escape. Single quotes are used unless the text holds a single
quote and no double quote.
-/

namespace Errata.Text

/-- The lower-case hexadecimal digit of a number below sixteen. -/
def hexDigit (n : Nat) : Char :=
  if n < 10 then Char.ofNat (48 + n) else Char.ofNat (87 + n)

/-- The last `width` hexadecimal digits of a number. -/
def hexDigits : Nat → Nat → List Char
  | 0, _ => []
  | w + 1, n => hexDigits w (n / 16) ++ [hexDigit (n % 16)]

/-- The quote that surrounds a text. -/
def quoteFor (cs : List Char) : Char :=
  if cs.contains '\'' && !cs.contains '"' then '"' else '\''

/-- The escape of a code point, as short as its size allows. -/
def escapeCode (n : Nat) : List Char :=
  if n < 0x100 then '\\' :: 'x' :: hexDigits 2 n
  else if n < 0x10000 then '\\' :: 'u' :: hexDigits 4 n
  else '\\' :: 'U' :: hexDigits 8 n

/-- One character of a quoted text. -/
def quotedChar (quote c : Char) : List Char :=
  if c == quote || c == '\\' then ['\\', c]
  else if c == '\n' then ['\\', 'n']
  else if c == '\r' then ['\\', 'r']
  else if c == '\t' then ['\\', 't']
  else if isPrintable c then [c]
  else escapeCode c.toNat

/-- One code point of a quoted text. -/
def quotedPoint (quote : Char) (n : Nat) : List Char :=
  if isSurrogate n then escapeCode n else quotedChar quote (Char.ofNat n)

/-- A text between quotes. -/
def quotedChars (cs : List Char) : List Char :=
  let quote := quoteFor cs
  quote :: (codePoints cs).flatMap (quotedPoint quote) ++ [quote]

/-- A text between quotes. -/
def quoted (s : String) : String :=
  String.ofList (quotedChars s.toList)

/-- One byte of a quoted row of bytes; only visible ASCII shows as itself. -/
def quotedByte (quote : Char) (b : UInt8) : List Char :=
  if b < 0x20 || 0x7F ≤ b then
    if b == 0x0A || b == 0x0D || b == 0x09 then quotedChar quote (Char.ofNat b.toNat)
    else escapeCode b.toNat
  else quotedChar quote (Char.ofNat b.toNat)

/-- A row of bytes between quotes, marked by a leading `b`. -/
def quotedBytes (bs : List UInt8) : String :=
  let quote := quoteFor (bs.map fun b => Char.ofNat b.toNat)
  String.ofList ('b' :: quote :: bs.flatMap (quotedByte quote) ++ [quote])

end Errata.Text
