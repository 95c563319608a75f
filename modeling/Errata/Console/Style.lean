import Errata.Console.Colour

/-!
# Styles

A style is written in words: attributes, each with a short name, that are switched on, or off after the
word `not`; a colour; a colour of the background after `on`; and an address after `link`. Two writings of
one style have the same name.
-/

namespace Errata.Console

/-- A style. Only the attributes that it mentions are listed, the last mention of each last. -/
structure Style where
  attributes : List (String × Bool)
  colour : Option String
  background : Option String
  link : Option String
  deriving DecidableEq, Repr

/-- Why a text is no style: it does not read as one, or a number in it is none. -/
inductive StyleFault where
  | unknown
  | number (e : Text.IntegerFault)
  deriving DecidableEq, Repr

namespace Style

/-- The style that changes nothing. -/
def empty : Style := ⟨[], none, none, none⟩

/-- The name of the style that changes nothing. -/
def noneName : String := "none"

/-- The names of the attributes of a style, short ones too. -/
def attributeNames : List (String × String) := [
  ("bold", "bold"), ("b", "bold"), ("dim", "dim"), ("d", "dim"), ("italic", "italic"),
  ("i", "italic"), ("underline", "underline"), ("u", "underline"), ("blink", "blink"),
  ("blink2", "blink2"), ("reverse", "reverse"), ("r", "reverse"), ("conceal", "conceal"),
  ("c", "conceal"), ("strike", "strike"), ("s", "strike"), ("underline2", "underline2"),
  ("uu", "underline2"), ("frame", "frame"), ("encircle", "encircle"), ("overline", "overline"),
  ("o", "overline")]

/-- The order in which the attributes of a style are named. -/
def attributeOrder : List String := [
  "bold", "dim", "italic", "underline", "blink", "blink2", "reverse", "conceal", "strike",
  "underline2", "frame", "encircle", "overline"]

/-- The attribute of a name. -/
def attribute? (word : List Char) : Option String := attributeNames.lookup (String.ofList word)

/-- The name of a colour. -/
def colourName (word : List Char) : Except StyleFault String := do
  let word := Text.lower word
  if ← (Colour.isColour word).mapError .number then return String.ofList word
  throw .unknown

/-- A style with an attribute switched. -/
def switch (s : Style) (name : String) (on : Bool) : Style :=
  { s with attributes := s.attributes ++ [(name, on)] }

/-- Reads the words of a style. -/
def readWords (s : Style) : List (List Char) → Except StyleFault Style
  | [] => .ok s
  | word :: rest =>
    let lowered := Text.lower word
    if lowered = "on".toList then
      match rest with
      | [] => .error .unknown
      | colour :: rest =>
        match colourName colour with
        | .ok name => readWords { s with background := some name } rest
        | .error e => .error e
    else if lowered = "not".toList then
      match rest with
      | [] => .error .unknown
      | name :: rest =>
        match attribute? name with
        | some name => readWords (s.switch name false) rest
        | none => .error .unknown
    else if lowered = "link".toList then
      match rest with
      | [] => .error .unknown
      | address :: rest => readWords { s with link := some (String.ofList address) } rest
    else
      match attribute? lowered with
      | some name => readWords (s.switch name true) rest
      | none =>
        match colourName lowered with
        | .ok name => readWords { s with colour := some name } rest
        | .error e => .error e

/-- Reads a style. -/
def read (cs : List Char) : Except StyleFault Style :=
  if Text.trimBy Text.isBlank cs = noneName.toList then .ok empty else readWords empty (Text.words cs)

/-- The words of an attribute, as it was mentioned last. -/
def attributeWords (s : Style) (name : String) : List String :=
  match s.attributes.reverse.lookup name with
  | some true => [name]
  | some false => ["not", name]
  | none => []

/-- The name of a style: attributes in their order, then colours and the address. -/
def name (s : Style) : String :=
  let words := attributeOrder.flatMap s.attributeWords ++ s.colour.toList ++
    (s.background.toList.flatMap fun c => ["on", c]) ++ (s.link.toList.flatMap fun a => ["link", a])
  if words.isEmpty then noneName else " ".intercalate words

/-- The name by which a written style is compared. Whatever is no style is compared as it is written, but
for the case of its letters and the blanks around it. -/
def nameOf (cs : List Char) : Except Text.IntegerFault String :=
  match read cs with
  | .ok s => .ok s.name
  | .error .unknown => .ok (String.ofList (Text.lower (Text.trimBy Text.isBlank cs)))
  | .error (.number e) => .error e

end Style

end Errata.Console
