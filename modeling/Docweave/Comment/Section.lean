import Docweave.Comment.Bullet
import Docweave.Text.Indent
import Docweave.Block.Basic

/-!
# Sections of a comment

The rows of a comment fall into sections: paragraphs, lists and literal blocks. Blank rows separate
sections, and so does the first row after a list that neither starts an item nor continues one. A list
whose bullet differs nests below the last item of the list before it, unless a list further out already
has that bullet: then the inner lists end there.
-/

namespace Docweave.Comment

open Text

/-- What a section holds besides its items. -/
structure SectionHead where
  startRow : Int := 0
  rowsBefore : Nat := 0
  rowsAfter : Nat := 0
  rowCount : Int := 0
  rows : List Text := []
  text : Text := []
  literal : Bool := false
  bullet : Option Text := none
  indent : Text := []
  deriving DecidableEq, Repr, Inhabited

mutual

/-- A section with the items of its list. -/
inductive Section where
  | mk (head : SectionHead) (items : List SectionItem)

/-- An item of a list: its text, or the section that nests below it. -/
inductive SectionItem where
  | text (text : Text)
  | nested (inner : Section)

end

namespace Section

/-- What a section holds besides its items. -/
def head : Section → SectionHead
  | .mk head _ => head

/-- The items of a section. -/
def items : Section → List SectionItem
  | .mk _ items => items

/-- A section without items. -/
def ofHead (head : SectionHead) : Section := .mk head []

instance : Inhabited Section := ⟨ofHead {}⟩

/-- Change what a section holds besides its items. -/
def modifyHead (change : SectionHead → SectionHead) : Section → Section
  | .mk head items => .mk (change head) items

/-- Put an item at the end of the list. -/
def pushItem (item : SectionItem) : Section → Section
  | .mk head items => .mk head (items ++ [item])

/-- Whether the items define names. -/
def isDefinitionList (part : Section) : Bool :=
  match part.head.bullet with
  | some bullet => endsWith definitionMark bullet
  | none => false

/-- Add the item that starts on a row. The item of a definition keeps the name. -/
def addItem (row : Text) (part : Section) : Section :=
  if part.isDefinitionList then part.pushItem (.text (trim row))
  else part.pushItem (.text (row.drop (part.head.bullet.getD []).length))

/-- Join a row to the last item. -/
def continueItem (row : Text) (part : Section) : Section :=
  match part.items.getLast? with
  | some (.text last) =>
    .mk part.head (part.items.dropLast ++ [.text (trim last ++ ' ' :: trim row)])
  | _ => part.pushItem (.text (trim row))

/-- Add a row that belongs to no item. -/
def addRow (row : Text) (part : Section) : Section :=
  part.modifyHead fun head => { head with rows := head.rows ++ [row] }

/-- Whether a row opens a literal block. -/
def opensLiteral (row : Text) : Bool := startsWith "::" (row.dropWhile isBlank)

/-- The rows of a literal block: the mark is taken out of the first one, empty rows at both ends and the
shared indentation are dropped. -/
def literalRows : List Text → List Text
  | [] => []
  | row :: rest =>
    let kept := trimRows (replaceFirst "::" [] row :: rest)
    kept.map (List.drop (commonIndent kept).length)

/-- Settle text and size of a section whose last row stands before row `number`. -/
def close (number : Int) (part : Section) : Section :=
  part.modifyHead fun head =>
    let closed := { head with indent := commonIndent head.rows, rowCount := number - head.startRow }
    match head.rows with
    | row :: rest =>
      if opensLiteral row then
        let kept := literalRows (row :: rest)
        { closed with literal := true, rows := kept, text := unrows kept }
      else { closed with literal := false, text := join " " ((trimRows head.rows).map trim) }
    | [] => { closed with literal := false, text := [] }

/-- Where the reading of rows stands. The sections read so far and the sections that are still open are
kept with the last one first; an open section nests in the one after it. -/
structure Reading where
  done : List Section
  opened : List Section
  number : Int
  empty : Nat

namespace Reading

/-- Let the last section know how many blank rows follow it. -/
def settleRowsAfter (empty : Nat) : List Section → List Section
  | [] => []
  | last :: earlier => last.modifyHead (fun head => { head with rowsAfter := empty }) :: earlier

/-- Close the current section as the last item of the one around it, `count` times. -/
def closeInto (number : Int) : (count : Nat) → (current : Section) → (around : List Section) →
    List Section
  | count + 1, current, outer :: around =>
    closeInto number count (outer.pushItem (.nested (current.close number))) around
  | _, current, around => current :: around

/-- Close the open sections from the innermost one outwards until `depth` of them are left around the
current one. -/
def closeTo (number : Int) (depth : Nat) : List Section → List Section
  | [] => []
  | current :: around => closeInto number (around.length - depth) current around

/-- Close every open section and set the outermost one down. -/
def finish (reading : Reading) : Reading :=
  match closeTo reading.number 0 reading.opened with
  | [] => reading
  | outermost :: _ =>
    { reading with done := outermost.close reading.number :: reading.done, opened := [] }

/-- Start a section on the current row. -/
def start (reading : Reading) : Reading :=
  { reading with
    done := settleRowsAfter reading.empty reading.done
    opened := [ofHead { startRow := reading.number, rowsBefore := reading.empty }]
    empty := 0 }

/-- Start a list below the last item of the current one. When that item is a text, it becomes the text
of the section that holds the new list. -/
def nest (number : Int) (bullet row : Text) (current : Section) (around : List Section) :
    List Section :=
  let fresh : SectionHead := { startRow := number - 1, bullet := some bullet }
  match current.items.getLast? with
  | some (.text last) =>
    (ofHead { fresh with rows := [last] }).addItem row
      :: Section.mk current.head current.items.dropLast :: around
  | _ => (ofHead fresh).addItem row :: current :: around

/-- Take an item with a given bullet into the open sections. -/
def takeItem (number : Int) (bullet row : Text) : List Section → List Section
  | [] => []
  | current :: around =>
    if current.head.bullet = none ∨ current.head.bullet = some bullet then
      (current.modifyHead fun head => { head with bullet := some bullet }).addItem row :: around
    else
      match around.reverse.findIdx? (fun outer => outer.head.bullet == some bullet) with
      | none => nest number bullet row current around
      | some depth =>
        match closeTo number depth (current :: around) with
        | [] => []
        | matching :: outer => matching.addItem row :: outer

/-- Take a row that starts no item into the current section, if it belongs there. -/
def takeText? (row : Text) : List Section → Option (List Section)
  | [] => none
  | current :: around =>
    match current.head.bullet with
    | none => some (current.addRow row :: around)
    | some bullet =>
      if startsWith (List.replicate bullet.length ' ') row then
        some (current.continueItem row :: around)
      else none

/-- Read a row that is not blank. A row that does not belong to the open sections starts a new one. -/
def readText (row : Text) (reading : Reading) : Reading :=
  let reading := if reading.opened.isEmpty then reading.start else reading
  match bullet? row with
  | some bullet => { reading with opened := takeItem reading.number bullet row reading.opened }
  | none =>
    match takeText? row reading.opened with
    | some opened => { reading with opened }
    | none =>
      let fresh := reading.finish.start
      { fresh with opened := fresh.opened.map (addRow row) }

/-- Read a blank row, which ends the open sections. -/
def readBlank (reading : Reading) : Reading :=
  let ended := reading.finish
  { ended with empty := ended.empty + 1 }

/-- Read one row. -/
def step (reading : Reading) (row : Text) : Reading :=
  let read := if allBlank row then reading.readBlank else reading.readText row
  { read with number := read.number + 1 }

end Reading

/-- The sections of rows, the first of which is row `number`. -/
def split (rows : List Text) (number : Int) : List Section :=
  let read := (rows.foldl Reading.step ⟨[], [], number, 0⟩).finish
  (Reading.settleRowsAfter read.empty read.done).reverse

/-- Versions of a section, each with the age of its rows. Rows of one age are the same rows, so that all versions of
that age hold them as the last one does. -/
def shareRows (versions : List (Section × Nat)) : List Section :=
  versions.map fun (part, age) =>
    match (versions.filter fun version => version.2 = age).getLast? with
    | some (last, _) => part.modifyHead fun head => { head with rows := last.head.rows }
    | none => part

/-- The sections of a comment; code has none. -/
def ofBlock (block : Block) : List Section := if block.isComment then split block.rows block.row else []

end Section

end Docweave.Comment
