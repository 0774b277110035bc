import Docweave.Forest.Link
import Docweave.Terminal.Table

/-!
# Lists of blocks

The blocks of a file are listed in a table, one row for each block: where it stands, of what kind it is, which
rows it takes up, how many blank rows are around it, whether it is linked to the next block, its name, and the
start of its text.
-/

namespace Docweave.Command

open Terminal

/-- How much of a text is shown. -/
def shownLength : Nat := 50

/-- The start of the first row of a text. -/
def textStart (text : Text) : Text :=
  let row := (Text.strip text).takeWhile (· ≠ '\n')
  if row.length > shownLength then row.take shownLength ++ "..." else row

/-- The rows that a block takes up. -/
def rowRange (block : Block) : Text :=
  let last := block.row + block.rowCount - 1
  if last = block.row then Text.ofInt block.row else Text.ofInt block.row ++ '-' :: Text.ofInt last

/-- Marks for the levels at which a block is linked to the next one. -/
def linkMarks (forest : Forest) (id : BlockId) : Text :=
  let mark (level : Level) (char : Char) : Char := if (forest.step? level .forward id).isSome then char else '.'
  [mark .adjacent '1', mark .grouped '2']

/-- The cells for a block at a depth. -/
def blockCells (forest : Forest) (depth : Nat) (id : BlockId) : List Text :=
  let block := forest.block id
  [List.replicate (2 * depth) ' ' ++ Text.ofInt (forest.index id), block.kind.name, rowRange block,
    Text.ofNat block.blankBefore ++ '/' :: Text.ofNat block.blankAfter, linkMarks forest id,
    Markup.escape ((forest.displayName? id).getD []), Markup.escape (textStart block.raw)]

/-- The cells for blocks and, down to a depth, for the blocks inside of them. -/
def cellsFrom (forest : Forest) : (more depth : Nat) → List BlockId → List (List Text)
  | 0, depth, ids => ids.map (blockCells forest depth)
  | more + 1, depth, ids =>
    ids.flatMap fun id =>
      let inside := match (forest.entry id).nested with
        | none => []
        | some content => cellsFrom forest more (depth + 1) (forest.members content)
      blockCells forest depth id :: inside

/-- The cells for the blocks of a content, and for those inside of them if they are wanted. There are no more
levels than contents. -/
def contentCells (forest : Forest) (nested : Bool) (content : ContentId) : List (List Text) :=
  cellsFrom forest (if nested then forest.contents.size else 0) 0 (forest.members content)

/-- The table of blocks of a file. -/
def blockTable (title : Text) (cells : List (List Text)) : Table where
  title := title
  columns := [⟨"#", true⟩, ⟨"Kind", false⟩, ⟨"Rows", false⟩, ⟨"Blank", false⟩, ⟨"Links", false⟩,
    ⟨"Name", false⟩, ⟨"Text", false⟩]
  rows := cells

end Docweave.Command
