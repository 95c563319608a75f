import Errata.Text.CodePoint

/-!
# Texts in a script

A text stands between quotes, and a word before these says what it is: a text of bytes, one whose backslashes mean
nothing, or one with expressions in it. Else a backslash begins an escape, which stands for a character or for none.
-/

namespace Errata.Script

/-- A text as it is written, without its quotes. -/
structure Literal where
  isBytes : Bool
  isRaw : Bool
  isFormatted : Bool
  body : List Char
  deriving DecidableEq, Repr

namespace Literal

/-- The word before a text says that it is of some kind. -/
def marks (head : List Char) (kind : Char) : Bool := head.any fun c => c.toLower = kind

/-- A text of the word before it and of what stands between its quotes. -/
def ofParts (head body : List Char) : Literal := ⟨marks head 'b', marks head 'r', marks head 'f', body⟩

/-- The escapes of one letter. -/
def letters : List (Char × Char) := [
  ('\\', '\\'), ('\'', '\''), ('"', '"'), ('a', '\x07'), ('b', '\x08'), ('f', '\x0c'), ('n', '\n'), ('r', '\r'),
  ('t', '\t'), ('v', '\x0b')]

/-- The escapes that give the number of a character with base sixteen, with the number of digits. -/
def numbered : List (Char × Nat) := [('x', 2), ('u', 4), ('U', 8)]

/-- A digit of the base eight. -/
def isOctal (c : Char) : Bool := '0' ≤ c && c ≤ '7'

/-- The digits at the head, at most some of them. -/
def digits (isDigit : Char → Bool) (most : Nat) (cs : List Char) : List Char := (cs.take most).takeWhile isDigit

/-- The number of digits. -/
def number (base : Nat) (ds : List Char) : Nat := ds.foldl (fun n d => base * n + Text.hexValue d) 0

/-- How far a character counts where the place of a bad escape is told. -/
def width (c : Char) : Nat := if c.toNat < 0x80 then 1 else 10

/-- How far a backslash counts before what follows it. -/
def slashWidth (cs : List Char) : Nat := if (cs.head?.map width).getD 1 = 1 then 1 else 6

/-- A bad escape, with its place. -/
def badEscape (first behind : Nat) (complaint : String) : String :=
  let place := if behind = first + 1 then s!"byte 0x5c in position {first}" else s!"bytes in position {first}-{behind - 1}"
  s!"(unicode error) 'unicodeescape' codec can't decode {place}: {complaint}"

/-- What an escape with a number and too few digits is called. -/
def truncated (letter : Char) (count : Nat) : String :=
  "truncated \\" ++ String.ofList (letter :: List.replicate count 'X') ++ " escape"

/-- The characters of a text with its escapes, from a place on. A character that is given by its name is not known,
and then the text is not. -/
def decodeFrom : Nat → Nat → List Char → Except String (Option (List Char))
  | 0, _, _ => .ok (some [])
  | _, _, [] => .ok (some [])
  | fuel + 1, place, '\\' :: cs =>
    let keep (kept rest : List Char) (wide : Nat) : Except String (Option (List Char)) :=
      (decodeFrom fuel (place + wide) rest).map fun more => more.map (kept ++ ·)
    match cs with
    | [] => .ok (some ['\\'])
    | c :: rest =>
      match letters.lookup c, numbered.lookup c with
      | some d, _ => keep [d] rest 2
      | none, some count =>
        let ds := digits Text.isHexDigit count rest
        if ds.length < count then
          .error (badEscape place (place + 2 + ds.length) (truncated c count))
        else if 0x10ffff < number 16 ds then
          .error (badEscape place (place + 2 + count) "illegal Unicode character")
        else keep (Text.ofCodePoint (number 16 ds)) (rest.drop count) (2 + count)
      | none, none =>
        if c = '\n' then decodeFrom fuel (place + 2) rest
        else if isOctal c then
          let ds := digits isOctal 3 cs
          keep (Text.ofCodePoint (number 8 ds)) (cs.drop ds.length) (1 + ds.length)
        else if c = 'N' then
          let name := rest.tail.takeWhile (· ≠ '}')
          let ends := rest.head? = some '{' && name.length + 1 < rest.length
          let wide := if rest.head? = some '{' then 3 + (name.map width).sum else 2
          if ends && !name.isEmpty then
            (decodeFrom fuel (place + wide + 1) (rest.drop (name.length + 2))).map fun _ => none
          else .error (badEscape place (place + wide) "malformed \\N character escape")
        else keep ['\\'] cs (slashWidth cs)
  | fuel + 1, place, c :: cs => (decodeFrom fuel (place + width c) cs).map fun more => more.map (c :: ·)

/-- The characters of a text; none, where they are not known. -/
def decode (isRaw : Bool) (body : List Char) : Except String (Option (List Char)) :=
  if isRaw then .ok (some body) else decodeFrom (body.length + 1) 0 body

/-- The bytes of a text of bytes, from a place on. -/
def decodeBytesFrom : Nat → Nat → List Char → Except String (List UInt8)
  | 0, _, _ => .ok []
  | _, _, [] => .ok []
  | fuel + 1, place, '\\' :: c :: rest =>
    let keep (n : Nat) (rest : List Char) (wide : Nat) : Except String (List UInt8) :=
      (decodeBytesFrom fuel (place + wide) rest).map fun more => UInt8.ofNat n :: more
    match letters.lookup c with
    | some d => keep d.toNat rest 2
    | none =>
      if c = '\n' then decodeBytesFrom fuel (place + 2) rest
      else if c = 'x' then
        let ds := digits Text.isHexDigit 2 rest
        if ds.length < 2 then .error s!"(value error) invalid \\x escape at position {place}"
        else keep (number 16 ds) (rest.drop 2) 4
      else if isOctal c then
        let ds := digits isOctal 3 (c :: rest)
        keep (number 8 ds) ((c :: rest).drop ds.length) (1 + ds.length)
      else keep '\\'.toNat (c :: rest) 1
  | fuel + 1, place, c :: cs =>
    (decodeBytesFrom fuel (place + 1) cs).map fun more => UInt8.ofNat c.toNat :: more

/-- The bytes of a text of bytes. -/
def decodeBytes (isRaw : Bool) (body : List Char) : Except String (List UInt8) :=
  if isRaw then .ok (body.map fun c => UInt8.ofNat c.toNat) else decodeBytesFrom (body.length + 1) 0 body

/-! ## Texts with expressions -/

/-- What is said of an expression in a text that does not end. -/
def noEnd : String := "f-string: expecting '\x7d'"

/-- What begins with a brace behind some characters: at the top of a text, a brace that comes twice stands for itself,
and the characters go on behind it; one that ends nothing is not allowed. -/
def atBrace (isTop : Bool) (before : List Char) (c : Char) (cs : List Char) :
    Except String (List Char × Bool × List Char) :=
  if isTop && cs.head? == some c then .ok ((c :: before).reverse, true, cs.tail)
  else if isTop && c = '}' then .error "f-string: single '\x7d' is not allowed"
  else .ok (before.reverse, false, c :: cs)

/-- The characters of a text before a brace, whether they go on behind it, and what follows. The braces around the name
of a character are no such braces. -/
def plainFrom (isTop isRaw : Bool) : Nat → List Char → List Char → Except String (List Char × Bool × List Char)
  | 0, before, cs => .ok (before.reverse, false, cs)
  | _, before, [] => .ok (before.reverse, false, [])
  | fuel + 1, before, c :: cs =>
    let escaped := if c = '\\' && !isRaw then cs else []
    match escaped with
    | 'N' :: '{' :: rest =>
      let name := rest.takeWhile (· ≠ '}')
      let ends := (rest.drop name.length).take 1
      plainFrom isTop isRaw fuel (ends ++ name.reverse ++ '{' :: 'N' :: c :: before) (rest.drop (name.length + 1))
    | 'N' :: d :: rest => plainFrom isTop isRaw fuel (d :: 'N' :: c :: before) rest
    | d :: rest =>
      if d = '{' || d = '}' then atBrace isTop (c :: before) d rest
      else plainFrom isTop isRaw fuel (d :: c :: before) rest
    | [] =>
      if c = '{' || c = '}' then atBrace isTop before c cs else plainFrom isTop isRaw fuel (c :: before) cs

/-- The characters of a text before an expression or the end. -/
def plain (isTop isRaw : Bool) (cs : List Char) : Except String (List Char × Bool × List Char) :=
  plainFrom isTop isRaw (cs.length + 1) [] cs

/-- The bracket that closes another. -/
def closing (c : Char) : Char := if c = '(' then ')' else if c = '[' then ']' else '}'

/-- The most brackets that may be open at once. -/
def maxDepth : Nat := 200

/-- The pairs of signs in which the first ends no expression. -/
def comparisons : List (List Char) := [['!', '='], ['=', '='], ['<', '='], ['>', '=']]

/-- The expression behind a brace, and what follows it. The quotes and the brackets that are open hide what stands
between them. -/
def fieldFrom : Nat → List Char → Option (Char × Bool) → List Char → List Char → Except String (List Char × List Char)
  | 0, before, _, _, cs => .ok (before.reverse, cs)
  | _, _, some _, _, [] => .error "f-string: unterminated string"
  | _, _, none, o :: _, [] => .error s!"f-string: unmatched '{o}'"
  | _, before, none, [], [] => .ok (before.reverse, [])
  | fuel + 1, before, quote?, opened, c :: cs =>
    if c = '\\' then .error "f-string expression part cannot include a backslash"
    else
      match quote? with
      | some (q, isTriple) =>
        if c ≠ q then fieldFrom fuel (c :: before) quote? opened cs
        else if !isTriple then fieldFrom fuel (c :: before) none opened cs
        else if [q, q].isPrefixOf cs then fieldFrom fuel (q :: q :: q :: before) none opened (cs.drop 2)
        else fieldFrom fuel (c :: before) quote? opened cs
      | none =>
        if c = '\'' || c = '"' then
          if [c, c].isPrefixOf cs then fieldFrom fuel (c :: c :: c :: before) (some (c, true)) opened (cs.drop 2)
          else fieldFrom fuel (c :: before) (some (c, false)) opened cs
        else if c = '(' || c = '[' || c = '{' then
          if maxDepth ≤ opened.length then .error "f-string: too many nested parenthesis"
          else fieldFrom fuel (c :: before) none (c :: opened) cs
        else if c = '#' then .error "f-string expression part cannot include '#'"
        else if opened.isEmpty && ['!', ':', '}', '=', '<', '>'].contains c then
          if comparisons.contains (c :: cs.take 1) then
            fieldFrom fuel (cs.take 1 ++ c :: before) none opened (cs.drop 1)
          else if c = '<' || c = '>' then fieldFrom fuel (c :: before) none opened cs
          else .ok (before.reverse, c :: cs)
        else if c = ')' || c = ']' || c = '}' then
          match opened with
          | [] => .error s!"f-string: unmatched '{c}'"
          | o :: outer =>
            if closing o = c then fieldFrom fuel (c :: before) none outer cs
            else
              .error s!"f-string: closing parenthesis '{c}' does not match opening parenthesis '{o}'"
        else fieldFrom fuel (c :: before) none opened cs

/-- A character that stands for nothing around an expression. -/
def isIdle (c : Char) : Bool := c = ' ' || c = '\t' || c = '\n' || c = '\x0c'

/-- The expression behind a brace, and what follows it. -/
def field (cs : List Char) : Except String (List Char × List Char) := do
  let (expression, rest) ← fieldFrom (cs.length + 1) [] none [] cs
  match rest with
  | [] => throw noEnd
  | c :: _ =>
    if !expression.all isIdle then return (expression, rest)
    else if ['!', ':', '='].contains c then throw s!"f-string: expression required before '{c}'"
    else throw "f-string: empty expression not allowed"

/-- The letters that say how the value of an expression is shown. -/
def conversions : List Char := ['s', 'r', 'a']

/-- What follows an expression and the ways in which it may be shown, up to how it is laid out. -/
def shownAs (cs : List Char) : Except String (List Char) := do
  let cs := if cs.head? == some '=' then cs.tail.dropWhile Char.isWhitespace else cs
  match cs with
  | ['!'] => throw noEnd
  | '!' :: c :: rest =>
    if conversions.contains c then return rest
    else throw "f-string: invalid conversion character: expected 's', 'r', or 'a'"
  | cs => return cs

end Literal

end Errata.Script
