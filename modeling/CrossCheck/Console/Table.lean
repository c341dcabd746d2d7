import CrossCheck.Console.Code
import CrossCheck.Console.Wrap
import CrossCheck.Number.Rounding

/-!
Tables on the console.  A column is as wide as its widest cell, unless the table does not fit; then
the widest columns are narrowed.  The title above and the caption below are centred and broken where
the table is narrower than they are.
-/

namespace CrossCheck
namespace Console

open Text

inductive Alignment where
  | left
  | right
  | center
deriving DecidableEq

/-- A line with blanks up to a width. -/
def fillUp (lineWidth : Nat) (line : List Char) : List Char :=
  line ++ List.replicate (lineWidth - width line) ' '

/-- A line filled with blanks to a width.  Of an odd number of blanks the last goes to the right.
Where a joiner at the end of a line hides the first blank, another one is added. -/
def align (a : Alignment) (lineWidth : Nat) (overflow : Overflow) (line : List Char) : List Char :=
  let blanks (n : Nat) := List.replicate n ' '
  match a with
  | .left => fillUp lineWidth (fillUp lineWidth (truncate lineWidth overflow line))
  | .right =>
    let line := truncate lineWidth overflow (trimRight line)
    blanks (lineWidth - width line) ++ line
  | .center =>
    let line := truncate lineWidth overflow (trimRight line)
    let left := (lineWidth - width line) / 2
    blanks left ++ line ++ blanks (lineWidth - width line - left)

/-- The characters that are drawn for a text, if its styles can be applied.  A style with nothing in
it is dropped where the text is broken into lines. -/
def drawn (lineWidth : Nat) (overflow : Overflow) (s : Markup.Shown) :
    Except Markup.Fault (List Char) :=
  if s.broken || (s.brokenEmpty && (wrap lineWidth overflow s.chars).length = 1) then
    .error .color
  else .ok s.chars

structure Column where
  header : String
  alignment : Alignment

/-- All texts are markup. -/
structure Table where
  title : String
  caption : Option String
  columns : List Column
  rows : List (List String)

namespace Table

/-- The width of the widest line. -/
def textWidth (cs : List Char) : Nat := ((Text.lines cs).map width).foldl max 0

/-- The width of a column with a blank on each side of its cells, within a limit. -/
def columnWidth (limit : Nat) (texts : List (List Char)) : Nat :=
  if limit ≤ 2 then limit else min limit ((texts.map textWidth).foldl max 0 + 2)

/-- Takes an excess from the widths that are marked, in equal shares of at most `most`, the rounding
of each share being settled by the ones after it. -/
def shrink (most : Nat) : (excess marked : Nat) → List (Nat × Bool) → List Nat
  | _, _, [] => []
  | excess, marked, (w, true) :: rest =>
    let share := min most (roundHalfEven excess marked)
    (w - share) :: shrink most (excess - share) (marked - 1) rest
  | excess, marked, (w, false) :: rest => w :: shrink most excess marked rest

/-- The width of columns side by side. -/
def total (widths : List Nat) : Nat := widths.foldl (· + ·) 0

/-- Narrows the widest columns, to the width of the next ones at a time, as long as there are
others. -/
def narrow (limit : Nat) : (fuel : Nat) → List Nat → List Nat
  | 0, widths => widths
  | fuel + 1, widths =>
    let excess := total widths - limit
    let widest := widths.foldl max 0
    let second := (widths.filter (· ≠ widest)).foldl max 0
    if excess = 0 || widest = 0 then widths
    else narrow limit fuel (shrink (min excess (widest - second)) excess (widths.count widest)
      (widths.map fun w => (w, w = widest)))

/-- The widths of the columns with their blanks.  Columns that do not fit are narrowed and measured
again. -/
def columnWidths (limit : Nat) (columns : List (List (List Char))) : List Nat :=
  let widths := columns.map fun texts => max 1 (columnWidth limit texts)
  if total widths ≤ limit then widths
  else (narrow limit (total widths) widths).zipWith columnWidth columns

/-- The lines of a cell in a column of a width. -/
def cellLines (a : Alignment) (columnWidth : Nat) (cs : List Char) : List (List Char) :=
  if columnWidth ≤ 2 then []
  else (wrap (columnWidth - 2) .ellipsis cs).map fun line =>
    ' ' :: align a (columnWidth - 2) .ellipsis line ++ [' ']

/-- Cells side by side, with marks around and between them. -/
def lineOf (edge divider : Char) (cells : List (List Char)) : List Char :=
  edge :: joinWith [divider] cells ++ [edge]

/-- A row of cells, as many lines high as its highest cell.  Lower cells are filled below, or above
where the cells stand on the ground. -/
def rowLines (edge divider : Char) (grounded : Bool) (columns : List (Alignment × Nat))
    (cells : List (List Char)) : List (List Char) :=
  let blocks := (columns.zip cells).map fun ((a, w), cell) => (w, cellLines a w cell)
  let height := (blocks.map fun (_, lines) => lines.length).foldl max 1
  let filled := blocks.map fun (w, lines) =>
    let blank := List.replicate (height - lines.length) (List.replicate w ' ')
    if grounded then blank ++ lines else lines ++ blank
  (List.range height).map fun i =>
    lineOf edge divider (filled.map fun lines => (lines[i]?).getD [])

def rule (left line divider right : Char) (widths : List Nat) : List Char :=
  left :: joinWith [divider] (widths.map (List.replicate · line)) ++ [right]

/-- A text above or below the table. -/
def centred (tableWidth : Nat) (cs : List Char) : List (List Char) :=
  (wrap tableWidth .fold cs).map (align .center tableWidth .fold)

/-- The texts of each column, its header first. -/
def columnTexts (t : Table) : List (List String) :=
  t.rows.reverse.foldl (fun columns row => row.zipWith List.cons columns)
    (t.columns.map fun _ => []) |> (t.columns.map (·.header)).zipWith List.cons

/-- The texts of a row; the headers are row 0. -/
def rowTexts (columns : List (List (List Char))) (i : Nat) : List (List Char) :=
  columns.map fun texts => (texts[i]?).getD []

/-- The frame around the texts of columns, each with its header first. -/
def frame (alignments : List Alignment) (widths : List Nat) (columns : List (List (List Char))) :
    List (List Char) :=
  let shapes := alignments.zip widths
  let rows := (columns.head?.getD []).length - 1
  rule '┏' '━' '┳' '┓' widths :: rowLines '┃' '┃' true shapes (rowTexts columns 0) ++
    rule '┡' '━' '╇' '┩' widths ::
      (List.range rows).flatMap (fun i =>
        rowLines '│' '│' false shapes (rowTexts columns (i + 1))) ++
    [rule '└' '─' '┴' '┘' widths]

/-- The lines of a table.  Without columns it is an empty line. -/
def lines (t : Table) : Except Markup.Fault (List (List Char)) := do
  if t.columns.isEmpty then return [[]]
  let shown ← t.columnTexts.mapM fun texts => texts.mapM fun s => Markup.read s.toList
  let widths := columnWidths (consoleWidth - (t.columns.length + 1))
    (shown.map fun texts => texts.map (·.chars))
  let tableWidth := (rule '┏' '━' '┳' '┓' widths).length
  let annotation (s : String) := do drawn tableWidth .fold (← Markup.read s.toList)
  let title ← annotation t.title
  let columns ← (shown.zip widths).mapM fun (texts, w) => texts.mapM (drawn (w - 2) .ellipsis)
  let caption ← match t.caption with
    | none => pure []
    | some s => pure (centred tableWidth (← annotation s))
  return centred tableWidth title ++ frame (t.columns.map (·.alignment)) widths columns ++ caption

end Table

/-- Lines, each with its end. -/
def unlines (lines : List (List Char)) : String := String.ofList (lines.flatMap (· ++ ['\n']))

/-- A text with tags as the console prints it. -/
def print (s : String) : Except Markup.Fault String := do
  let cs ← drawn consoleWidth .fold (← Markup.read s.toList)
  return unlines ((wrap consoleWidth .fold cs).map (truncate consoleWidth .fold))

def escape (s : String) : String := String.ofList (Markup.escape s.toList)

end Console
end CrossCheck
