import Docweave.Terminal.Markup

/-!
# Tables

A table is drawn with boxes: a title above it, a heavy box around the headers, and a light one around the
rows. Each column is as wide as its widest cell, with a space on both sides. When a table would be wider than the
terminal, its widest columns are narrowed and their cells take up several rows.
-/

namespace Docweave.Terminal

/-- A column of a table. -/
structure Column where
  header : Text
  alignsRight : Bool := false

/-- A table with a title, columns, and the cells of its rows, which hold markup. -/
structure Table where
  title : Text
  columns : List Column
  rows : List (List Text)

/-- The characters of a rule across a table: its ends, its filling, and where columns meet. -/
structure Rule where
  left : Char
  fill : Char
  joint : Char
  right : Char

namespace Rule

/-- The rule above the headers. -/
def top : Rule := ⟨'┏', '━', '┳', '┓'⟩

/-- The rule below the headers. -/
def head : Rule := ⟨'┡', '━', '╇', '┩'⟩

/-- The rule below the rows. -/
def bottom : Rule := ⟨'└', '─', '┴', '┘'⟩

/-- Draw a rule across columns of some widths. -/
def draw (rule : Rule) (widths : List Nat) : Text :=
  let parts := widths.map fun width => List.replicate width rule.fill
  rule.left :: Text.join [rule.joint] parts ++ [rule.right]

end Rule

namespace Table

/-- The quotient of two numbers, rounded to the nearest number, and to the even one of two that are equally
near. -/
def roundedQuotient (dividend divisor : Nat) : Nat :=
  let quotient := dividend / divisor
  let rest := 2 * (dividend % divisor)
  if rest < divisor ∨ (rest = divisor ∧ quotient % 2 = 0) then quotient else quotient + 1

/-- Take an excess away from the `count` widths that are equal to `widest`, in even parts, but no more than `most`
from each of them. -/
def narrowEach (widest most : Nat) : (excess count : Nat) → List Nat → List Nat
  | _, _, [] => []
  | excess, count, width :: rest =>
    if width = widest then
      let part := min most (roundedQuotient excess count)
      (width - part) :: narrowEach widest most (excess - part) (count - 1) rest
    else width :: narrowEach widest most excess count rest

/-- Narrow the widest columns until all of them fit into a number of columns of the terminal. Each round makes the
widest columns as narrow as the next ones, or takes away what is left of the excess. -/
def narrow (available : Nat) : (fuel : Nat) → List Nat → List Nat
  | 0, widths => widths
  | fuel + 1, widths =>
    let excess := widths.sum - available
    let widest := widths.foldl max 0
    let second := (widths.filter (· ≠ widest)).foldl max 0
    if excess = 0 ∨ widest = second then widths
    else narrow available fuel (narrowEach widest (min excess (widest - second)) excess (widths.count widest) widths)

/-- The widths of columns with the spaces around their cells. -/
def widths (headers : List Text) (rows : List (List Text)) : List Nat :=
  let available := screenWidth - (headers.length + 1)
  let widest := rows.foldl (fun widths cells => List.zipWith max widths (cells.map Fit.widest))
    (headers.map Fit.widest)
  narrow available available.succ (widest.map fun width => min (width + 2) available)

/-- Fill a cell up to a number of rows, at its bottom or at its top. -/
def fillRows (atBottom : Bool) (height width : Nat) (rows : List Text) : List Text :=
  let blank := List.replicate (height - rows.length) (List.replicate width ' ')
  if atBottom then rows ++ blank else blank ++ rows

/-- Draw a row of cells with a character between them. -/
def drawRow (isHeader : Bool) (columns : List Column) (widths : List Nat) (cells : List Text) : List Text :=
  let bar : Char := if isHeader then '┃' else '│'
  let cell (column : Column) (size : Nat × Text) : List Text :=
    (Fit.rows (if column.alignsRight then .right else .left) .ellipsis (size.1 - 2) size.2).map fun row =>
      ' ' :: row ++ [' ']
  let shown := List.zipWith cell columns (widths.zip cells)
  let height := max 1 ((shown.map List.length).foldl max 0)
  let filled := List.zipWith (fillRows (!isHeader) height) widths shown
  (List.range height).map fun index =>
    bar :: Text.join [bar] (filled.map fun rows => (rows[index]?).getD []) ++ [bar]

/-- Draw a table, row by row. -/
def draw (table : Table) : Except MarkupError (List Text) := do
  let headers ← (table.columns.map Column.header).mapM Markup.read
  let rows ← table.rows.mapM fun cells => cells.mapM Markup.read
  let title ← Markup.read table.title
  let widths := widths headers rows
  let top := Rule.top.draw widths
  return Fit.rows .center .fold top.length title ++ top :: drawRow true table.columns widths headers
    ++ Rule.head.draw widths :: rows.flatMap (drawRow false table.columns widths) ++ [Rule.bottom.draw widths]

end Table

end Docweave.Terminal
