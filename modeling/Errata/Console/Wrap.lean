import Errata.Text.Cluster
import Errata.Text.Words

/-!
# Wrapping

Lays a text out in lines of a width. A line is broken before a word that no longer fits; a word that
fits on no line is folded or cut. Widths are counted in cells.
-/

namespace Errata.Console

open Text (isBlank width Cluster clusters)

/-- What is done with a word that is too long for a line. -/
inductive Overflow where
  | fold
  | ellipsis
  deriving DecidableEq, Repr

/-- Where the text of a line stands. -/
inductive Justify where
  | none
  | left
  | center
  deriving DecidableEq, Repr

namespace Wrap

/-- The distance between two tab stops. -/
def tabSize : Nat := 8

/-- Fills up to the next tab stop after every part but the last. -/
def fillTabs (position : Nat) : List (List Char) → List Char
  | [] => []
  | [part] => part
  | part :: rest =>
    let part := part ++ [' ']
    let position := position + width part
    let fill := (tabSize - position % tabSize) % tabSize
    part ++ List.replicate fill ' ' ++ fillTabs (position + fill) rest

/-- A line with its tabs as spaces. -/
def expandTabs (cs : List Char) : List Char := fillTabs 0 (Text.splitOn (· = '\t') cs)

/-- The word at the head of a text with the blanks around it, and what follows. -/
def nextWord (cs : List Char) : List Char × List Char :=
  let before := cs.takeWhile isBlank
  let rest := cs.drop before.length
  let word := rest.takeWhile fun c => !isBlank c
  let rest := rest.drop word.length
  let after := rest.takeWhile isBlank
  (before ++ word ++ after, rest.drop after.length)

/-- The words of a text, each with the blanks around it; at most one for a unit of fuel. -/
def wordsFrom : Nat → List Char → List (List Char)
  | 0, _ => []
  | fuel + 1, cs =>
    if cs.all isBlank then [] else (nextWord cs).1 :: wordsFrom fuel (nextWord cs).2

/-- The words of a text, each with the blanks around it. -/
def words (cs : List Char) : List (List Char) := wordsFrom cs.length cs

/-- Lays clusters out in pieces that fit; `used` cells of the piece before are taken. -/
def chopFrom (limit : Nat) (piece : List Char) (used : Nat) : List Cluster → List (List Char)
  | [] => [piece]
  | c :: cs =>
    if limit < used + c.cells then piece :: chopFrom limit c.chars c.cells cs
    else chopFrom limit (piece ++ c.chars) (used + c.cells) cs

/-- Cuts a text into pieces that fit. No cluster is parted. -/
def chop (limit : Nat) (cs : List Char) : List (List Char) := chopFrom limit [] 0 (clusters cs)

/-- A text without the blanks at its end. -/
def trimEnd (cs : List Char) : List Char := (cs.reverse.dropWhile isBlank).reverse

/-- Puts words on lines. `line` is the line so far and `used` the cells that it takes; a break is only
made where the line is not the empty beginning of the text. -/
def fill (limit : Nat) (overflow : Overflow) (line : List Char) (used : Nat) :
    List (List Char) → List (List Char)
  | [] => [line]
  | word :: rest =>
    let size := width (trimEnd word)
    if used + size ≤ limit then fill limit overflow (line ++ word) (used + width word) rest
    else if limit < size then
      match overflow with
      | .fold =>
        let pieces := chop limit word
        let last := pieces.getLast?.getD []
        let full := pieces.dropLast
        if line.isEmpty then full ++ fill limit overflow last (width last) rest
        else line :: full ++ fill limit overflow last (width last) rest
      | .ellipsis =>
        if line.isEmpty then fill limit overflow word (width word) rest
        else line :: fill limit overflow word (width word) rest
    else if used ≠ 0 && !line.isEmpty then line :: fill limit overflow word (width word) rest
    else fill limit overflow (line ++ word) used rest

/-- Removes blanks at the end that stand beyond the width. -/
def trimExcess (limit : Nat) (cs : List Char) : List Char :=
  let blanks := cs.length - (trimEnd cs).length
  cs.take (cs.length - min blanks (cs.length - limit))

/-- Takes the clusters that fit in a number of cells. Half of a wide one is a space. -/
def takeCells (limit : Nat) : List Cluster → List Char
  | [] => []
  | c :: cs =>
    if c.cells ≤ limit then c.chars ++ takeCells (limit - c.cells) cs
    else List.replicate limit ' '

/-- A text cut to a number of cells. -/
def cut (limit : Nat) (cs : List Char) : List Char :=
  if limit = 0 then [] else takeCells limit (clusters cs)

/-- A text that is no wider than a line. -/
def truncate (limit : Nat) (overflow : Overflow) (cs : List Char) : List Char :=
  if width cs ≤ limit then cs
  else
    match overflow with
    | .fold => cut limit cs
    | .ellipsis => cut (limit - 1) cs ++ ['…']

/-- A text filled with spaces to the width of a line. -/
def padRight (limit : Nat) (cs : List Char) : List Char :=
  cs ++ List.replicate (limit - width cs) ' '

/-- A text in its place on a line. -/
def place (limit : Nat) (overflow : Overflow) (justify : Justify) (cs : List Char) : List Char :=
  match justify with
  | .none => truncate limit overflow cs
  | .left => padRight limit (truncate limit overflow cs)
  | .center =>
    let cs := truncate limit overflow (trimEnd cs)
    padRight limit (List.replicate ((limit - width cs) / 2) ' ' ++ cs)

/-- The lines of one paragraph. -/
def paragraph (limit : Nat) (overflow : Overflow) (justify : Justify) (cs : List Char) :
    List (List Char) :=
  let cs := expandTabs cs
  let ws := words cs
  let lines := if ws.isEmpty then [cs] else fill limit overflow [] 0 ws
  lines.map fun line => place limit overflow justify (trimExcess limit line)

end Wrap

/-- Lays a text out in lines. -/
def wrap (limit : Nat) (overflow : Overflow) (justify : Justify) (cs : List Char) :
    List (List Char) :=
  (Text.splitOn (· = '\n') cs).flatMap (Wrap.paragraph limit overflow justify)

end Errata.Console
