import Errata.Json.Text
import Errata.OrderedMap

/-!
# Reading JSON texts

A reader for JSON texts, as the client of an application has one: blanks may stand between the parts of
a document, characters may be escaped, and where an object has a key twice the last member counts. It
is the measure for the texts that are sent. Numbers with a point or an exponent are kept as they are
written, so only their shortest forms are known here. Every part is read with as much fuel as there
are characters, which is always enough, because each part begins with a character of its own.
-/

namespace Errata.Json

namespace Reader

/-- A character that may stand between two parts. -/
def isBlank (c : Char) : Bool := c = ' ' || c = '\t' || c = '\n' || c = '\r'

/-- The first character that is not blank, and what follows it. -/
def token? (cs : List Char) : Option (Char × List Char) :=
  match cs.dropWhile isBlank with
  | [] => none
  | c :: cs => some (c, cs)

/-- What follows a character that has to come. -/
def expect? (c : Char) (cs : List Char) : Option (List Char) :=
  (token? cs).bind fun p => if p.1 = c then some p.2 else none

/-! ## Texts -/

/-- The value of a hexadecimal digit. -/
def hexValue? (c : Char) : Option Nat :=
  if c.isDigit then some (c.toNat - 48)
  else if 'a' ≤ c && c ≤ 'f' then some (c.toNat - 87)
  else if 'A' ≤ c && c ≤ 'F' then some (c.toNat - 55)
  else none

/-- The UTF-16 unit that four hexadecimal digits write, and what follows them. -/
def unit? : List Char → Option (Nat × List Char)
  | c₃ :: c₂ :: c₁ :: c₀ :: cs => do
    let d₃ ← hexValue? c₃
    let d₂ ← hexValue? c₂
    let d₁ ← hexValue? c₁
    let d₀ ← hexValue? c₀
    return (((d₃ * 16 + d₂) * 16 + d₁) * 16 + d₀, cs)
  | _ => none

/-- The character of an escape by number. A unit of a pair has to be followed by the other. -/
def escaped? (cs : List Char) : Option (Char × List Char) := do
  let (high, cs) ← unit? cs
  if 0xD800 ≤ high && high < 0xDC00 then
    match cs with
    | '\\' :: 'u' :: cs =>
      let (low, cs) ← unit? cs
      if 0xDC00 ≤ low && low < 0xE000 then
        some (Char.ofNat (0x10000 + (high - 0xD800) * 0x400 + (low - 0xDC00)), cs)
      else none
    | _ => none
  else if 0xDC00 ≤ high && high < 0xE000 then none
  else some (Char.ofNat high, cs)

/-- The character that a letter behind a backslash stands for. -/
def shortEscaped? (e : Char) : Option Char :=
  if e = '"' then some '"'
  else if e = '\\' then some '\\'
  else if e = '/' then some '/'
  else if e = 'b' then some '\x08'
  else if e = 'f' then some '\x0c'
  else if e = 'n' then some '\n'
  else if e = 'r' then some '\r'
  else if e = 't' then some '\t'
  else none

/-- The next character inside a text, and what follows it. -/
def char? : List Char → Option (Char × List Char)
  | [] => none
  | c :: cs =>
    if c = '\\' then
      match cs with
      | [] => none
      | e :: rest =>
        if e = 'u' then escaped? rest else (shortEscaped? e).map fun c => (c, rest)
    else if c.toNat < 0x20 then none
    else some (c, cs)

/-- The characters up to the quote that ends a text, and what follows it. -/
def chars? : Nat → List Char → Option (List Char × List Char)
  | 0, _ => none
  | n + 1, cs =>
    if cs.head? = some '"' then some ([], cs.tail)
    else do
      let (c, cs) ← char? cs
      let (s, cs) ← chars? n cs
      return (c :: s, cs)

/-- The text behind an opening quote, and what follows it. -/
def string? (cs : List Char) : Option (String × List Char) :=
  (chars? cs.length cs).map fun p => (String.ofList p.1, p.2)

/-! ## Numbers -/

/-- A character that a number may have. -/
def isNumberChar (c : Char) : Bool :=
  c.isDigit || c = '-' || c = '+' || c = '.' || c = 'e' || c = 'E'

/-- The natural number that digits write; a leading zero stands alone. -/
def natural? (cs : List Char) : Option Nat :=
  match Number.whole? cs with
  | some (digits, []) => some (Nat.ofDigitChars 10 digits 0)
  | _ => none

/-- The whole number that a text writes. -/
def whole? (cs : List Char) : Option Int :=
  match cs with
  | '-' :: cs => (natural? cs).map fun n : Nat => -(n : Int)
  | cs => (natural? cs).map Int.ofNat

/-- The number that a text writes. -/
def numeral? (cs : List Char) : Option Json :=
  match whole? cs with
  | some n => some (.int n)
  | none => if valid : (Number.parts? cs).isSome = true then some (.real ⟨cs, valid⟩) else none

/-- The number at the head of a text, and what follows it. -/
def number? (cs : List Char) : Option (Json × List Char) :=
  (numeral? (cs.takeWhile isNumberChar)).map fun j => (j, cs.dropWhile isNumberChar)

/-! ## Documents -/

/-- The word or the number at the head of a text, and what follows it. -/
def atom? (cs : List Char) : Option (Json × List Char) :=
  if "null".toList.isPrefixOf cs then some (.null, cs.drop 4)
  else if "true".toList.isPrefixOf cs then some (.bool true, cs.drop 4)
  else if "false".toList.isPrefixOf cs then some (.bool false, cs.drop 5)
  else number? cs

/-- An object with the given members. The last member under a key counts. -/
def object (members : List (String × Json)) : Json := .obj (OrderedMap.ofList members).entries

mutual

/-- The document at the head of a text, and what follows it. -/
def document? : Nat → List Char → Option (Json × List Char)
  | 0, _ => none
  | n + 1, cs => do
    let (c, cs) ← token? cs
    if c = '"' then (string? cs).map fun p => (.str p.1, p.2)
    else if c = '[' then
      match expect? ']' cs with
      | some cs => some (.arr [], cs)
      | none => (items? n cs).map fun p => (.arr p.1, p.2)
    else if c = '{' then
      match expect? '}' cs with
      | some cs => some (object [], cs)
      | none => (members? n cs).map fun p => (object p.1, p.2)
    else atom? (c :: cs)

/-- The items up to the bracket that ends a list, and what follows it. -/
def items? : Nat → List Char → Option (List Json × List Char)
  | 0, _ => none
  | n + 1, cs => do
    let (j, cs) ← document? n cs
    let (c, cs) ← token? cs
    if c = ',' then (items? n cs).map fun p => (j :: p.1, p.2)
    else if c = ']' then some ([j], cs)
    else none

/-- The members up to the brace that ends an object, and what follows it. -/
def members? : Nat → List Char → Option (List (String × Json) × List Char)
  | 0, _ => none
  | n + 1, cs => do
    let cs ← expect? '"' cs
    let (key, cs) ← string? cs
    let cs ← expect? ':' cs
    let (j, cs) ← document? n cs
    let (c, cs) ← token? cs
    if c = ',' then (members? n cs).map fun p => ((key, j) :: p.1, p.2)
    else if c = '}' then some ([(key, j)], cs)
    else none

end

end Reader

/-- The document that a text writes. Only blanks may follow it. -/
def read? (text : String) : Option Json := do
  let (j, cs) ← Reader.document? text.toList.length text.toList
  if cs.all Reader.isBlank then some j else none

end Errata.Json
