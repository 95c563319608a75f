import Errata.Text.CodePoint
import Errata.Text.Identifier

/-!
# Numbers in a script

A number is whole, with a fraction or an exponent, or imaginary. Whole numbers may also be written with
the base sixteen, eight or two. Single underscores may stand between digits. A number ends where no name
could go on, unless a word follows that may stand behind a value.
-/

namespace Errata.Script

/-- The kinds of numbers. -/
inductive NumberKind where
  | whole
  | floating
  | imaginary
  deriving DecidableEq, Repr

/-- A number. A whole one may have too many decimal digits to be read; of others only the kind matters. -/
inductive Number where
  | whole (n : Nat)
  | tooLong (digits : Nat)
  | other (k : NumberKind)
  deriving DecidableEq, Repr

namespace Number

/-- A base with a letter of its own. -/
structure Base where
  letter : Char
  size : Nat
  name : String
  isDigit : Char → Bool

/-- The bases with a letter. -/
def bases : List Base := [
  ⟨'x', 16, "hexadecimal", Text.isHexDigit⟩,
  ⟨'o', 8, "octal", fun c => '0' ≤ c && c ≤ '7'⟩,
  ⟨'b', 2, "binary", fun c => c = '0' || c = '1'⟩]

/-- The words that may follow a number without a blank, if they end there. -/
def followers : List String := ["and", "else", "for", "or", "not"]

/-- The words that may follow a number without a blank, whatever follows them. -/
def looseFollowers : List String := ["if", "in", "is"]

/-- The text begins with a word that may follow a number. -/
def followerAhead (cs : List Char) : Bool :=
  (looseFollowers.any fun w => w.toList.isPrefixOf cs) ||
    followers.any fun w =>
      w.toList.isPrefixOf cs &&
        !((cs.drop w.length).head?.map fun c => Text.isNameTail c || 0x80 ≤ c.toNat).getD false

/-- The text that follows a number, if it may. -/
def finish (name : String) (cs : List Char) : Except String (List Char) :=
  if followerAhead cs then .ok cs
  else
    match cs with
    | c :: _ =>
      if c.toNat < 0x80 && Text.isNameTail c then .error s!"invalid {name} literal" else .ok cs
    | [] => .ok cs

/-- What follows digits with single underscores between them, or nothing if an underscore has no digit
behind it. `after` is true behind an underscore. -/
def dropDigits (isDigit : Char → Bool) (after : Bool) : List Char → Option (List Char)
  | [] => if after then none else some []
  | c :: cs =>
    if isDigit c then dropDigits isDigit false cs
    else if after then none
    else if c = '_' then dropDigits isDigit true cs
    else some (c :: cs)

/-- A decimal number has a digit missing or one too many. -/
def badDecimal : String := "invalid decimal literal"

/-- What follows decimal digits. -/
def decimalTail (cs : List Char) : Except String (List Char) :=
  match dropDigits Char.isDigit false cs with
  | some rest => .ok rest
  | none => .error badDecimal

/-- The end of a number that may be imaginary. -/
def imaginaryEnd (kind : NumberKind) (cs : List Char) : Except String (NumberKind × List Char) :=
  match cs with
  | c :: rest =>
    if c = 'j' || c = 'J' then (finish "imaginary" rest).map fun r => (.imaginary, r)
    else (finish "decimal" cs).map fun r => (kind, r)
  | [] => .ok (kind, [])

/-- The end of a number that may have an exponent. -/
def exponentEnd (kind : NumberKind) (cs : List Char) : Except String (NumberKind × List Char) :=
  match cs with
  | e :: rest =>
    if e = 'e' || e = 'E' then
      match rest with
      | c :: more =>
        if c.isDigit then do imaginaryEnd .floating (← decimalTail rest)
        else if c = '+' || c = '-' then
          match more with
          | d :: _ => if d.isDigit then do imaginaryEnd .floating (← decimalTail more) else .error badDecimal
          | [] => .error badDecimal
        else (finish "decimal" cs).map fun r => (kind, r)
      | [] => (finish "decimal" cs).map fun r => (kind, r)
    else imaginaryEnd kind cs
  | [] => .ok (kind, [])

/-- The end of a number behind its point. -/
def fractionEnd (cs : List Char) : Except String (NumberKind × List Char) :=
  match cs with
  | c :: _ => if c.isDigit then do exponentEnd .floating (← decimalTail cs) else exponentEnd .floating cs
  | [] => .ok (.floating, [])

/-- The end of a number behind its whole digits. -/
def pointEnd (cs : List Char) : Except String (NumberKind × List Char) :=
  match cs with
  | '.' :: rest => fractionEnd rest
  | _ => exponentEnd .whole cs

/-- The end of a number with a base of its own; an underscore may follow the letter. -/
def basedEnd (b : Base) (cs : List Char) : Except String (NumberKind × List Char) :=
  let first := match cs with
    | '_' :: rest => rest
    | _ => cs
  let bad (cs : List Char) : Except String (NumberKind × List Char) :=
    match cs with
    | c :: _ =>
      if c.isDigit then .error s!"invalid digit '{c}' in {b.name} literal"
      else .error s!"invalid {b.name} literal"
    | [] => .error s!"invalid {b.name} literal"
  match first with
  | c :: _ =>
    if b.isDigit c then
      match dropDigits b.isDigit false first with
      | some rest =>
        match rest with
        | d :: _ => if d.isDigit then bad rest else (finish b.name rest).map fun r => (.whole, r)
        | [] => .ok (.whole, [])
      | none => bad (((first.dropWhile fun d => b.isDigit d || d = '_')))
    else bad first
  | [] => bad first

/-- A number that begins with a zero has further digits. -/
def leadingZero : String :=
  "leading zeros in decimal integer literals are not permitted; use an 0o prefix for octal integers"

/-- The end of a decimal number that begins with a zero. Without a point, an exponent or an imaginary
unit, the other digits have to be zeros too. -/
def zeroEnd (cs : List Char) : Except String (NumberKind × List Char) := do
  let rest ← decimalTail cs
  let zeros := (cs.take (cs.length - rest.length)).all fun c => c = '0' || c = '_'
  let floats := match rest with
    | c :: _ => ['.', 'e', 'E', 'j', 'J'].contains c
    | [] => false
  if zeros || floats then pointEnd rest else throw leadingZero

/-- The kind of the number with which a text begins, and what follows it. -/
def readKind (cs : List Char) : Except String (NumberKind × List Char) :=
  match cs with
  | '0' :: c :: rest =>
    match bases.find? fun b => b.letter = c.toLower with
    | some b => basedEnd b rest
    | none => zeroEnd cs
  | '.' :: rest => fractionEnd rest
  | _ => do pointEnd (← decimalTail cs)

/-- The most decimal digits of a whole number. -/
def maxDigits : Nat := 4300

/-- A whole number as it is written. -/
def ofWritten (written : List Char) : Number :=
  let value (base : Nat) (ds : List Char) : Nat := ds.foldl (fun n d => base * n + Text.hexValue d) 0
  let digits := written.filter (· ≠ '_')
  match digits with
  | '0' :: c :: rest =>
    match bases.find? fun b => b.letter = c.toLower with
    | some b => .whole (value b.size rest)
    | none => .whole 0
  | _ => if maxDigits < digits.length then .tooLong digits.length else .whole (value 10 digits)

/-- The number with which a text begins, and what follows it. -/
def read (cs : List Char) : Except String (Number × List Char) := do
  let (kind, rest) ← readKind cs
  match kind with
  | .whole => return (ofWritten (cs.take (cs.length - rest.length)), rest)
  | kind => return (.other kind, rest)

/-- What is said of a whole number with too many digits. -/
def tooLongMessage (digits : Nat) : String :=
  s!"Exceeds the limit ({maxDigits} digits) for integer string conversion: value has {digits} digits; " ++
    "use sys.set_int_max_str_digits() to increase the limit - Consider hexadecimal for huge integer literals to " ++
    "avoid decimal conversion limits."

end Number

end Errata.Script
