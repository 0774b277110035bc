import Docweave.Text.Space
import Docweave.Text.Width

/-!
# Fitting texts into columns

A text is shown in rows of a number of columns. A word that does not fit behind the words before it starts a new
row. A word that is wider than a whole row is folded into several rows or cut off. Each row is then put into its
columns: white space beyond the last column is dropped, and an aligned row is filled up with spaces.
-/

namespace Docweave.Terminal

/-- What becomes of a word that is wider than a row: it goes on in the next row, or it is cut off and ends with
an ellipsis. -/
inductive Overflow where
  | fold
  | ellipsis
  deriving DecidableEq, Repr

/-- Where a row stands in its columns. A free row is not filled up. -/
inductive Alignment where
  | free
  | left
  | center
  | right
  deriving DecidableEq, Repr

namespace Fit

/-- The width of the widest row of a text, where every kind of break ends a row and tabs have no width. -/
def widest (text : Text) : Nat := ((text.splitOnP Text.isBreak).map Text.width).foldl max 0

/-- The start of a text that takes up a number of columns, looked for by halving the offsets from `start` to
`stop`. A wide character that would reach beyond the last column is replaced by a space. -/
def cutBetween (columns : Nat) (text : Text) : (fuel start stop : Nat) → Text
  | 0, _, _ => text
  | fuel + 1, start, stop =>
    let middle := (start + stop) / 2
    let before := text.take (middle + 1)
    let width := Text.width before
    if width = columns + 1 ∧ before.getLast?.any (Text.charWidth · = 2) then before.dropLast ++ [' ']
    else if width = columns then before
    else if columns < width then cutBetween columns text fuel start middle
    else cutBetween columns text fuel middle stop

/-- The start of a text that is wider than a number of columns. -/
def cut (columns : Nat) (text : Text) : Text :=
  if columns = 0 then [] else cutBetween columns text (text.length + 1) 0 text.length

/-- Cut off what does not fit into a number of columns. -/
def crop (overflow : Overflow) (columns : Nat) (text : Text) : Text :=
  if Text.width text ≤ columns then text
  else
    match overflow with
    | .fold => cut columns text
    | .ellipsis => cut (columns - 1) text ++ ['…']

/-- Cut a text into pieces of at most a number of columns. `piece` holds the open piece in reverse, which takes
up `width` columns. -/
def chopFrom (columns width : Nat) (piece : Text) : Text → List Text
  | [] => [piece.reverse]
  | char :: rest =>
    let next := Text.charWidth char
    if columns < width + next then piece.reverse :: chopFrom columns next [char] rest
    else chopFrom columns (width + next) (char :: piece) rest

/-- The words of a row, each with the white space behind it, and the first one with the white space before it. A
row of white space has no words. -/
def words (row : Text) : List Text :=
  match row.splitBy fun left right => !Text.isSpace left || Text.isSpace right with
  | first :: second :: rest => if first.all Text.isSpace then (first ++ second) :: rest else first :: second :: rest
  | [only] => if only.all Text.isSpace then [] else [only]
  | [] => []

/-- A row that is being divided: the offsets at which it is divided, the last one first, the offset of the next
word, and the columns taken up since the last division. -/
structure Division where
  offsets : List Nat := []
  next : Nat := 0
  width : Nat := 0

namespace Division

/-- Divide before an offset. The start of the row is no place to divide it. -/
def divideBefore (offset : Nat) (offsets : List Nat) : List Nat := if offset = 0 then offsets else offset :: offsets

/-- Divide before each of several pieces, the first of which starts at an offset. -/
def divideBeforeAll (offsets : List Nat) : (offset : Nat) → List Text → List Nat
  | _, [] => offsets
  | offset, piece :: rest => divideBeforeAll (divideBefore offset offsets) (offset + piece.length) rest

/-- Go on with a word. -/
def add (overflow : Overflow) (columns : Nat) (division : Division) (word : Text) : Division :=
  let shown := Text.width (Text.stripRight word)
  let next := division.next + word.length
  if division.width + shown ≤ columns then { division with next, width := division.width + Text.width word }
  else if columns < shown ∧ overflow = .fold then
    let pieces := chopFrom columns 0 [] word
    { offsets := divideBeforeAll division.offsets division.next pieces
      next
      width := Text.width (pieces.getLastD []) }
  else { offsets := divideBefore division.next division.offsets, next, width := Text.width word }

end Division

/-- The parts of a text between offsets that count from `start`. -/
def partsFrom (start : Nat) (text : Text) : List Nat → List Text
  | [] => [text]
  | offset :: rest => text.take (offset - start) :: partsFrom offset (text.drop (offset - start)) rest

/-- Divide a row into rows that fit into a number of columns. -/
def divide (overflow : Overflow) (columns : Nat) (row : Text) : List Text :=
  partsFrom 0 row ((words row).foldl (Division.add overflow columns) {}).offsets.reverse

/-- Drop white space from the end of a row that has more characters than columns, but no more than that. -/
def dropExcess (columns : Nat) (row : Text) : Text :=
  let blank := (row.reverse.takeWhile Text.isSpace).length
  row.take (row.length - min blank (row.length - columns))

/-- Put a row into its columns. -/
def place (alignment : Alignment) (overflow : Overflow) (columns : Nat) (row : Text) : Text :=
  match alignment with
  | .free => crop overflow columns row
  | .left => Text.padRight columns (crop overflow columns row)
  | .center =>
    let row := crop overflow columns (Text.stripRight row)
    Text.padRight columns (List.replicate ((columns - Text.width row) / 2) ' ' ++ row)
  | .right => Text.padLeft columns (crop overflow columns (Text.stripRight row))

/-- The rows in which a text is shown. Without columns there are none. -/
def rows (alignment : Alignment) (overflow : Overflow) (columns : Nat) (text : Text) : List Text :=
  if columns = 0 then []
  else
    (Text.rows text).flatMap fun row =>
      (divide overflow columns (Text.expandTabs 0 row)).map fun row =>
        place alignment overflow columns (dropExcess columns row)

end Fit

end Docweave.Terminal
