import Errata.Console.EmojiTable
import Errata.Text.Lower
import Errata.Text.Words

/-!
# Emoji codes

A text for the console may write an emoji as its name between two colons. The name may end in a word
that asks for the look of the emoji. A name that is not known stays as it is, and its second colon does
not begin another name.
-/

namespace Errata.Console

namespace Emoji

/-- The looks that can be asked for, each with the selector that stands behind the emoji. -/
def looks : List (String × Char) := [("-emoji", '\ufe0f'), ("-text", '\ufe0e')]

/-- The words of the table. -/
def tableWords : List (List Char) := Text.words emojiTable.toList

/-- The emoji among words that are names and emoji in turn. -/
def find? (name : List Char) : List (List Char) → Option (List Char)
  | key :: emoji :: rest => if key = name then some emoji else find? name rest
  | _ => none

/-- The emoji of a name. The case of its letters does not matter. -/
def ofName? (name : List Char) : Option (List Char) :=
  find? (Text.lower name) tableWords

/-- The look with which a text begins, if a colon follows it, and what follows the colon. -/
def lookAt? (cs : List Char) : Option (List Char × List Char) :=
  looks.findSome? fun look =>
    let ending := look.1.toList ++ [':']
    if ending.isPrefixOf cs then some ([look.2], cs.drop ending.length) else none

/-- A name that a colon has begun: its characters, its selector, and what follows the second colon. -/
def nameAt? : List Char → Option (List Char × List Char × List Char)
  | [] => none
  | c :: cs =>
    match lookAt? (c :: cs) with
    | some (selector, rest) => some ([], selector, rest)
    | none =>
      if c = ':' then some ([], [], cs)
      else if Text.isBlank c then none
      else (nameAt? cs).map fun p => (c :: p.1, p.2)

/-- Puts the emoji that a text names in their places; at most one for a unit of fuel. -/
def placeFrom : Nat → List Char → List Char
  | 0, cs => cs
  | _ + 1, [] => []
  | fuel + 1, c :: cs =>
    if c = ':' then
      match nameAt? cs with
      | some (name, selector, rest) =>
        let shown := match ofName? name with
          | some emoji => emoji ++ selector
          | none => c :: cs.take (cs.length - rest.length)
        shown ++ placeFrom fuel rest
      | none => c :: placeFrom fuel cs
    else c :: placeFrom fuel cs

/-- A text with the emoji that it names in their places. -/
def place (cs : List Char) : List Char := placeFrom cs.length cs

end Emoji

end Errata.Console
