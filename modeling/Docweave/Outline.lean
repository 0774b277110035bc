import Docweave.Block.Basic
import Docweave.Block.Classify

/-!
# Outlines

The outline of a text is the sequence of its blocks, where some blocks hold an outline of their own: a
class holds its members, and a function holds the blocks of its body when the comment before it asks
for that with `@parse`. Nothing of the text is lost: the gap at the start and the raw text, row end and
gap of every block, one after the other, are the text again.
-/

namespace Docweave

open Text

/-- A block and the blocks of its body, when that is opened. -/
inductive BlockTree where
  | leaf (block : Block)
  | branch (block : Block) (members : List BlockTree)
  deriving Repr, Inhabited

/-- The block at the root of a tree. -/
def BlockTree.block : BlockTree → Block
  | .leaf block => block
  | .branch block _ => block

/-- A text, the row on which it starts and the blocks it is cut into. -/
structure Outline where
  text : Text
  row : Int
  members : List BlockTree
  deriving Repr, Inhabited

namespace Outline

/-- The blank rows at the start of a text. When nothing but blanks follows them, that belongs to the
gap too. -/
def gap (text : Text) : Text :=
  let lead := text.takeWhile isSeparator
  if lead.length = text.length then lead else dropTrailing isBlank lead

/-- The blanks at the start of a text and the newline after them, if there is one. -/
def rowEnd (text : Text) : Text :=
  let blanks := text.takeWhile isBlank
  match text.drop blanks.length with
  | '\n' :: _ => blanks ++ ['\n']
  | _ => blanks

/-- Whether the body of a block is opened, where `note` is the nearest comment in the run of blocks
without blank rows before it. -/
def opensBody (block : Block) (note : Option Block) : Bool :=
  match block.kind with
  | .classDecl => true
  | .functionDecl | .assignment =>
    block.body?.isSome &&
      match note with
      | some comment => !(comment.directivesOf "parse").isEmpty
      | none => false
  | _ => false

/-- The first block of a text that starts on `row` after `blanks` blank rows, and what follows it. -/
def cutBlock (blanks : Nat) (row : Int) (text : Text) : Block × Text :=
  let found := classify text
  let afterRaw := text.drop found.length
  let lineEnd := rowEnd afterRaw
  let afterRow := afterRaw.drop lineEnd.length
  let gapAfter := gap afterRow
  (⟨found.kind, text.take found.length, row, blanks, gapAfter.count '\n', lineEnd, gapAfter⟩,
    afterRow.drop gapAfter.length)

/-- The row on which the block after a given one starts. -/
def rowAfter (block : Block) : Int :=
  block.row + (block.rowCount - 1 : Nat) + (if block.endsRow then 1 else 0) + block.blankAfter

/-- The blocks of a text that starts on `row` after `blanks` blank rows. `note` is the nearest comment
in the run of blocks that ends before the text. Every block and every body is shorter than the text it
is taken from, so the length of the text is enough fuel. -/
def membersFrom : (fuel : Nat) → (note : Option Block) → (blanks : Nat) → (row : Int) → Text →
    List BlockTree
  | 0, _, _, _, _ => []
  | fuel + 1, note, blanks, row, text =>
    if text.isEmpty then []
    else
      let (block, rest) := cutBlock blanks row text
      let note := if blanks = 0 then note else none
      let tree :=
        match opensBody block note, block.body? with
        | true, some body =>
          let lead := gap body.text
          let blanks := lead.count '\n'
          .branch block (membersFrom fuel none blanks (body.row + blanks) (body.text.drop lead.length))
        | _, _ => .leaf block
      let note := if block.isComment then some block else note
      tree :: membersFrom fuel note block.blankAfter (rowAfter block) rest

/-- The outline of a text that starts on `row`. -/
def parse (text : Text) (row : Int) : Outline :=
  let lead := gap text
  let blanks := lead.count '\n'
  ⟨text, row, membersFrom text.length none blanks (row + blanks) (text.drop lead.length)⟩

/-- The blank rows before the first block. -/
def leadingGap (outline : Outline) : Text := gap outline.text

/-- The text of blocks in order, with their row ends and gaps. -/
def blockText (blocks : List Block) : Text :=
  (blocks.map fun block => block.raw ++ block.lineEnd ++ block.gapAfter).flatten

/-- The text that the blocks of an outline make up. -/
def sourceText (outline : Outline) : Text :=
  outline.leadingGap ++ blockText (outline.members.map BlockTree.block)

end Outline

end Docweave
