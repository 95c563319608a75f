import Errata.Console.Markup
import Errata.Console.Wrap

/-!
# Tables on a console

A table has a title, a head, and rows of cells. Every column is as wide as its widest cell; when that
is more than the console has, the widest columns are narrowed first. Title and cells may hold markup.
-/

namespace Errata.Console

open Text (width)

/-- The cells of a line of the console. -/
def lineWidth : Nat := 200

/-- A text as the console prints it. -/
def printed (s : String) : Except MarkupFault String :=
  (Markup.plain s).map fun cs =>
    String.ofList ((wrap lineWidth .fold .none cs).flatMap fun line => line ++ ['\n'])

/-- A table. Each row has a cell for every column of the head. -/
structure Table where
  title : String
  head : List String
  rows : List (List String)

namespace Table

/-- The characters that end a line where a text is measured. -/
def isLineEnd (c : Char) : Bool :=
  [0xA, 0xB, 0xC, 0xD, 0x1C, 0x1D, 0x1E, 0x85, 0x2028, 0x2029].contains c.toNat

/-- The cells of the widest line of a text. -/
def measure (cs : List Char) : Nat := ((Text.splitOn isLineEnd cs).map width).foldl max 0

/-- The spaces on both sides of a cell. -/
def padding : Nat := 2

/-- Divides the nearest whole number; a half goes to the even neighbour. -/
def roundDiv (a b : Nat) : Nat :=
  let q := a / b
  let r := a % b
  if 2 * r < b then q else if b < 2 * r then q + 1 else if q % 2 = 0 then q else q + 1

/-- Takes a total from the entries that are marked, in equal parts and each at most by a limit. -/
def reduce (total : Nat) : List (Bool × Nat × Nat) → List Nat
  | [] => []
  | (marked, limit, value) :: rest =>
    let marks := (rest.filter fun e => e.1).length + 1
    if marked then
      let part := min limit (roundDiv total marks)
      (value - part) :: reduce (total - part) rest
    else value :: reduce total rest

/-- The cells of all columns together. -/
def cells (ws : List Nat) : Nat := ws.foldr (· + ·) 0

/-- Narrows the widest columns, at most once for a unit of fuel, until the table fits or all columns
are equally wide. -/
def collapse (limit : Nat) : Nat → List Nat → List Nat
  | 0, ws => ws
  | fuel + 1, ws =>
    let total := cells ws
    if total ≤ limit then ws
    else
      let widest := ws.foldl max 0
      let second := (ws.map fun w => if w = widest then 0 else w).foldl max 0
      let difference := widest - second
      if difference = 0 then ws
      else
        let excess := total - limit
        let step := min excess difference
        collapse limit fuel (reduce excess (ws.map fun w => (w = widest && step ≠ 0, step, w)))

/-- The widths of the columns, with padding, when there are `limit` cells for all of them. -/
def fit (limit : Nat) (ws : List Nat) : List Nat :=
  if cells ws ≤ limit then ws
  else
    let ws := collapse limit (cells ws) ws
    if cells ws ≤ limit then ws
    else reduce (cells ws - limit) (ws.map fun w => (w ≠ 0, w, w))

/-- The transposed rows of a table with a number of columns. -/
def columns (count : Nat) (rows : List (List α)) : List (List α) :=
  (List.range count).map fun i => rows.filterMap fun row => row[i]?

/-- A horizontal border. -/
def border (left line joint right : Char) (ws : List Nat) : List Char :=
  left :: (List.intercalate [joint] (ws.map fun w => List.replicate w line)) ++ [right]

/-- The lines of a row between vertical borders. A line that measures less once its fill stands behind it
is filled again. -/
def rowLines (edge : Char) (ws : List Nat) (cells : List (List Char)) : List (List Char) :=
  let laid := (ws.zip cells).map fun p =>
    let inner := p.1 - padding
    (p.1, (wrap inner .ellipsis .left p.2).map (Wrap.padRight inner))
  let height := (laid.map fun p => p.2.length).foldl max 1
  (List.range height).map fun i =>
    let parts := laid.map fun p =>
      ' ' :: ((p.2[i]?).getD (List.replicate (p.1 - padding) ' ')) ++ [' ']
    edge :: List.intercalate [edge] parts ++ [edge]

/-- The texts of the columns, without their tags. -/
def markedColumns (t : Table) : Except MarkupFault (List (List Markup.Marked)) :=
  (columns t.head.length (t.head :: t.rows)).mapM fun column => column.mapM Markup.read

/-- The lines of a table. All cells are measured, column by column, before the title and the rows are
written. -/
def lines (t : Table) : Except MarkupFault (List (List Char)) := do
  let marked ← t.markedColumns
  let frame := t.head.length + 1
  let limit := lineWidth - frame
  let widths := fit limit (marked.map fun column =>
    min limit ((column.map fun m => measure m.chars).foldl max 0 + padding))
  let title ← Markup.plain t.title
  let rows ← (columns (t.rows.length + 1) marked).mapM fun row => row.mapM Markup.Marked.shown
  return wrap (cells widths + frame) .fold .center title ++
    [border '┏' '━' '┳' '┓' widths] ++
    (rows.take 1).flatMap (rowLines '┃' widths) ++
    [border '┡' '━' '╇' '┩' widths] ++
    (rows.drop 1).flatMap (rowLines '│' widths) ++
    [border '└' '─' '┴' '┘' widths]

/-- A table as the console prints it. -/
def printed (t : Table) : Except MarkupFault String :=
  t.lines.map fun ls => String.ofList (ls.flatMap fun line => line ++ ['\n'])

end Table

end Errata.Console
