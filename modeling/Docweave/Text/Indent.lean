import Docweave.Text.Basic

/-!
# Indentation and padding of rows

The indentation of a row is its leading run of blanks. Rows that hold blanks only have no say in the
indentation that a list of rows shares.
-/

namespace Docweave.Text

/-- The leading blanks of a row. -/
def indentOf (row : Text) : Text := row.takeWhile isBlank

/-- The longest common prefix of two texts. -/
def commonPrefix : Text → Text → Text
  | first :: firstRest, second :: secondRest =>
    if first = second then first :: commonPrefix firstRest secondRest else []
  | _, _ => []

/-- The indentation shared by all rows that are not blank. -/
def commonIndent (rows : List Text) : Text :=
  match rows.filter (fun row => !allBlank row) with
  | [] => []
  | row :: others => others.foldl (fun shared other => commonPrefix shared (indentOf other)) (indentOf row)

/-- Put an indentation before every row. -/
def indentRows (rows : List Text) (indent : Text) : List Text := rows.map (indent ++ ·)

/-- Take an indentation off a row, or all its leading blanks when it does not start with it. -/
def dropIndent (indent row : Text) : Text :=
  match after? indent row with
  | some rest => rest
  | none => row.dropWhile isBlank

/-- Take the shared indentation off every row of a text. -/
def deindent (text : Text) : Text :=
  unrows ((rows text).map (dropIndent (commonIndent (rows text))))

/-- Repeat a text, or another list, up to exactly `length` characters. The empty text cannot fill
anything. -/
def fill {α : Type} (length : Int) (unit : List α) : List α :=
  if unit.isEmpty then []
  else (List.replicate (length.toNat / unit.length + 1) unit).flatten.take length.toNat

/-- Drop the empty rows at both ends. -/
def trimRows (rows : List Text) : List Text :=
  ((rows.dropWhile List.isEmpty).reverse.dropWhile List.isEmpty).reverse

/-- Put spaces before a text until it has the given width. -/
def alignRight (width : Int) (text : Text) : Text :=
  List.replicate (width - text.length).toNat ' ' ++ text

/-- Pad rows on the left, with one lead for the first row and one for all others, both right-aligned
in a field of `width` characters. -/
def padRows (rows : List Text) (first other : Text) (width : Int) : List Text :=
  match rows with
  | [] => []
  | row :: rest =>
    (alignRight width first ++ row) :: rest.map (alignRight width other ++ ·)

end Docweave.Text
