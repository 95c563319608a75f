import Errata.Text.Quoted

/-!
# Text in bytes

Reads UTF-8. A row of bytes that writes no text is refused at the first sequence that is not well
formed; the fault says which bytes were read in vain and why. A text that no bytes can hold is refused at its first
surrogate; the fault says how many of them stand there in a row.
-/

namespace Errata.Text

/-- Why a sequence of bytes is not well formed. -/
inductive Utf8Cause where
  | startByte
  | continuationByte
  | truncated
  deriving DecidableEq, Repr

/-- The first sequence of a row of bytes that is not well formed. -/
structure Utf8Fault where
  byte : UInt8
  start : Nat
  length : Nat
  cause : Utf8Cause
  deriving DecidableEq, Repr

namespace Utf8

/-- How many bytes follow a first byte, and the bounds of the next one; they keep out texts written
longer than needed, surrogates and what lies beyond the last code point. -/
def follow? (b : UInt8) : Option (Nat × UInt8 × UInt8) :=
  if b < 0x80 then some (0, 0, 0)
  else if b < 0xC2 then none
  else if b < 0xE0 then some (1, 0x80, 0xBF)
  else if b == 0xE0 then some (2, 0xA0, 0xBF)
  else if b == 0xED then some (2, 0x80, 0x9F)
  else if b < 0xF0 then some (2, 0x80, 0xBF)
  else if b == 0xF0 then some (3, 0x90, 0xBF)
  else if b < 0xF4 then some (3, 0x80, 0xBF)
  else if b == 0xF4 then some (3, 0x80, 0x8F)
  else none

/-- The bits of a first byte that belong to the code point. -/
def leadBits (b : UInt8) (following : Nat) : Nat :=
  match following with
  | 0 => b.toNat
  | 1 => b.toNat % 32
  | 2 => b.toNat % 16
  | _ => b.toNat % 8

/-- Reads the continuation bytes of one sequence, of which `done` bytes are read. -/
def readRest (first : UInt8) (start : Nat) : Nat → Nat → Nat → UInt8 → UInt8 → List UInt8 →
    Except Utf8Fault (Nat × List UInt8)
  | 0, _, code, _, _, bs => .ok (code, bs)
  | _ + 1, done, _, _, _, [] => .error ⟨first, start, done, .truncated⟩
  | n + 1, done, code, lo, hi, b :: bs =>
    if lo ≤ b && b ≤ hi then readRest first start n (done + 1) (code * 64 + b.toNat % 64) 0x80 0xBF bs
    else .error ⟨first, start, done, .continuationByte⟩

/-- Reads the character at the head of a row of bytes. -/
def readChar (start : Nat) (b : UInt8) (bs : List UInt8) : Except Utf8Fault (Char × List UInt8) :=
  match follow? b with
  | none => .error ⟨b, start, 1, .startByte⟩
  | some (n, lo, hi) => do
    let (code, rest) ← readRest b start n 1 (leadBits b n) lo hi bs
    return (Char.ofNat code, rest)

/-- Reads a row of bytes, at most one character for a unit of fuel. -/
def readChars : Nat → Nat → List UInt8 → Except Utf8Fault (List Char)
  | 0, _, _ => .ok []
  | _ + 1, _, [] => .ok []
  | fuel + 1, start, b :: bs => do
    let (c, rest) ← readChar start b bs
    let cs ← readChars fuel (start + 1 + (bs.length - rest.length)) rest
    return c :: cs

end Utf8

/-- The characters whose bytes fit a limit, and whether the limit divides the next one. -/
def cutAt (limit : Nat) : List Char → List Char × Bool
  | [] => ([], false)
  | c :: cs =>
    if limit = 0 then ([], false)
    else if limit < c.utf8Size then ([], true)
    else
      let (kept, divided) := cutAt (limit - c.utf8Size) cs
      (c :: kept, divided)

/-- The text that a row of bytes writes. -/
def ofUtf8 (bs : List UInt8) : Except Utf8Fault String :=
  (Utf8.readChars bs.length 0 bs).map fun cs => String.ofList (cs.flatMap fun c => ofCodePoint c.toNat)

namespace Utf8Fault

/-- The bytes that a fault is about. -/
def place (f : Utf8Fault) : String :=
  if f.length = 1 then
    "byte 0x" ++ String.ofList (hexDigits 2 f.byte.toNat) ++ s!" in position {f.start}"
  else s!"bytes in position {f.start}-{f.start + f.length - 1}"

/-- The cause in words. -/
def reason (f : Utf8Fault) : String :=
  match f.cause with
  | .startByte => "invalid start byte"
  | .continuationByte => "invalid continuation byte"
  | .truncated => "unexpected end of data"

/-- The message that names bytes and reason. -/
def message (f : Utf8Fault) (reason : String) : String :=
  s!"'utf-8' codec can't decode {f.place}: {reason}"

end Utf8Fault

/-- The first surrogates of a text that stand in a row. -/
structure SurrogateRun where
  first : Nat
  start : Nat
  length : Nat
  deriving DecidableEq, Repr

/-- The surrogates at which a text cannot be written as bytes. -/
def surrogateRun? (s : String) : Option SurrogateRun :=
  let points := codePoints s.toList
  let before := points.takeWhile fun n => !isSurrogate n
  let run := (points.dropWhile fun n => !isSurrogate n).takeWhile isSurrogate
  run.head?.map fun n => ⟨n, before.length, run.length⟩

namespace SurrogateRun

/-- The characters that a fault is about. -/
def place (r : SurrogateRun) : String :=
  if r.length = 1 then "character '" ++ String.ofList (escapeCode r.first) ++ s!"' in position {r.start}"
  else s!"characters in position {r.start}-{r.start + r.length - 1}"

/-- The message that names the characters. -/
def message (r : SurrogateRun) : String := s!"'utf-8' codec can't encode {r.place}: surrogates not allowed"

end SurrogateRun

end Errata.Text
