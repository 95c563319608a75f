import Errata.Console.Emoji
import Errata.Console.Handler
import Errata.Console.Style

/-!
# Console markup

A text for the console may hold tags in brackets. An opening tag begins with a letter, a number sign or
an at sign; a closing tag begins with a slash, and closes the last open tag of its style, or the last
one of all when it names none. Tags take no place in the plain text. A backslash before a tag makes it
plain, and doubled backslashes before a tag stand for single ones. Between the tags, emoji may be named.
-/

namespace Errata.Console

/-- Why a text with markup has no plain text. -/
inductive MarkupFault where
  | unmatched (tag : String) (position : Nat)
  | nothingToClose (position : Nat)
  | handler (e : HandlerFault)
  | number (e : Text.IntegerFault)
  deriving DecidableEq, Repr

/-- What went wrong, in words. -/
def MarkupFault.message : MarkupFault → String
  | unmatched tag position => s!"closing tag '[{tag}]' at position {position} doesn't match any open tag"
  | nothingToClose position => s!"closing tag '[/]' at position {position} has nothing to close"
  | handler e => e.message
  | number e => e.message

/-- A part of a text with markup: plain characters, or a tag with its place. -/
inductive MarkupPart where
  | plain (cs : List Char)
  | tag (body : List Char) (position : Nat)

namespace Markup

/-- A character with which a tag may begin. -/
def isTagStart (c : Char) : Bool :=
  ('a' ≤ c && c ≤ 'z') || c = '#' || c = '/' || c = '@'

/-- The body of a tag at the head of a text that follows a bracket, and what follows the tag. -/
def tagBody? : List Char → Option (List Char × List Char)
  | [] => none
  | c :: cs =>
    if isTagStart c then
      let more := cs.takeWhile fun d => d ≠ '[' && d ≠ ']'
      match cs.drop more.length with
      | ']' :: rest => some (c :: more, rest)
      | _ => none
    else none

/-- The backslashes, the body of the tag, and the rest, where a text begins with a tag. -/
def tagAt? (cs : List Char) : Option (Nat × List Char × List Char) :=
  let slashes := cs.takeWhile (· = '\\')
  match cs.drop slashes.length with
  | '[' :: inner => (tagBody? inner).map fun p => (slashes.length, p.1, p.2)
  | _ => none

/-- The parts of a text, with at most one part for a unit of fuel. `plain` holds the characters read
since the last tag, in reverse, and `position` is the place of the head of the text. -/
def partsFrom : Nat → List Char → Nat → List Char → List MarkupPart
  | 0, _, _, _ => []
  | _ + 1, plain, _, [] => [.plain plain.reverse]
  | fuel + 1, plain, position, c :: cs =>
    match tagAt? (c :: cs) with
    | none => partsFrom fuel (c :: plain) (position + 1) cs
    | some (slashes, body, rest) =>
      let literal := List.replicate (slashes / 2) '\\'
      let next := position + slashes + body.length + 2
      let here : MarkupPart :=
        if slashes % 2 = 1 then .plain ('[' :: body ++ [']']) else .tag body (position + slashes)
      .plain plain.reverse :: .plain literal :: here :: partsFrom fuel [] next rest

/-- The parts of a text. -/
def parts (cs : List Char) : List MarkupPart := partsFrom (cs.length + 1) [] 0 cs

/-- An escaped bracket that belongs to no tag is a bracket. -/
def unescape : List Char → List Char
  | '\\' :: '[' :: cs => '[' :: unescape cs
  | c :: cs => c :: unescape cs
  | [] => []

/-- An open tag, by the name of its style and with its parameters. -/
structure OpenTag where
  name : String
  parameters : Option String
  deriving DecidableEq, Repr

/-- The name of a tag and its parameters, which follow an equals sign. -/
def divide (body : List Char) : List Char × Option String :=
  let name := body.takeWhile (· ≠ '=')
  (name, if name.length < body.length then some (String.ofList (body.drop (name.length + 1))) else none)

/-- A tag that marks a text for a handler. -/
def OpenTag.isHandler (t : OpenTag) : Bool := t.name.toList.head? == some '@'

/-- The style that a tag gives to a text. -/
def OpenTag.style (t : OpenTag) : String :=
  match t.parameters with
  | some ps => s!"{t.name} {ps}"
  | none => t.name

/-- Removes the last open tag of a style; the tags are listed last first. -/
def close (style : String) : List OpenTag → Option (OpenTag × List OpenTag)
  | [] => none
  | t :: rest =>
    if t.name = style then some (t, rest) else (close style rest).map fun p => (p.1, t :: p.2)

/-- A text without its tags, and the styles that its parts are given. -/
structure Marked where
  chars : List Char
  styles : List String
  deriving DecidableEq, Repr

/-- The tag that a closing tag with a name closes, and those that stay open. -/
def closedBy (body name : List Char) (position : Nat) (opened : List OpenTag) :
    Except MarkupFault (OpenTag × List OpenTag) :=
  let name := Text.trimBy Text.isBlank name
  if name.isEmpty then
    match opened with
    | [] => .error (.nothingToClose position)
    | t :: rest => .ok (t, rest)
  else
    match Style.nameOf name with
    | .error e => .error (.number e)
    | .ok style =>
      match close style opened with
      | some found => .ok found
      | none => .error (.unmatched (String.ofList body) position)

/-- The style of a tag that is closed. The parameters of a handler have to be readable. -/
def finish (t : OpenTag) : Except MarkupFault (List String) :=
  if t.isHandler then
    match t.parameters with
    | none => .ok []
    | some ps => if ps.isEmpty then .ok [] else ((Handler.check ps).map fun _ => []).mapError .handler
  else .ok [t.style]

/-- Reads parts of a text, with the tags that are open, last first. -/
def readParts (opened : List OpenTag) : List MarkupPart → Except MarkupFault Marked
  | [] => .ok ⟨[], opened.map OpenTag.style⟩
  | .plain cs :: rest => do
    let more ← readParts opened rest
    return { more with chars := Emoji.place (unescape cs) ++ more.chars }
  | .tag body position :: rest =>
    match divide body with
    | ('/' :: name, _) => do
      let (t, opened) ← closedBy body name position opened
      let styles ← finish t
      let more ← readParts opened rest
      return { more with styles := styles ++ more.styles }
    | (name, parameters) => do
      let name ← (Style.nameOf name).mapError .number
      readParts (⟨name, parameters⟩ :: opened) rest

/-- The control characters that are never shown. -/
def isStripped (c : Char) : Bool := [7, 8, 11, 12, 13].contains c.toNat

/-- Reads a text with markup. -/
def read (s : String) : Except MarkupFault Marked :=
  let marked :=
    if s.toList.contains '[' then readParts [] (parts s.toList)
    else .ok ⟨Emoji.place s.toList, []⟩
  marked.map fun m => { m with chars := m.chars.filter fun c => !isStripped c }

/-- The plain text, once the styles of its parts have been looked up. A style that is unknown changes
nothing, but a number in one has to be a number. -/
def Marked.shown (m : Marked) : Except MarkupFault (List Char) :=
  match m.styles.findSome? fun s =>
    match Style.read s.toList with
    | .error (.number e) => some e
    | _ => none
  with
  | some e => .error (.number e)
  | none => .ok m.chars

/-- The plain text of a text with markup. -/
def plain (s : String) : Except MarkupFault (List Char) := do (← read s).shown

end Markup

end Errata.Console
