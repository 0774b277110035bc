import Docweave.Proofs.Comment.Tiling
import Docweave.Proofs.Outline.Blocks

/-!
# The source rows of sections

A row that holds a directive is no row of the text of a comment.  So a section starts further down in the
raw text than its row number says, by one row for each directive before it, and the number is right
exactly when there is none.
-/

namespace Docweave

open Text

/-! ## Rows of text -/

/-- An item that passes a test stands behind as many others that do as its place among them tells. -/
theorem countP_take_of_filter_zipIdx {α : Type} (test : α → Bool) {items : List α}
    {first offset index : Nat} {item : α}
    (found : ((items.zipIdx first).filter fun entry => test entry.1)[offset]? = some (item, index)) :
    ∃ place, index = first + place ∧ items[place]? = some item ∧ test item = true ∧
      (items.take place).countP test = offset := by
  induction items generalizing first offset with
  | nil => cases found
  | cons head items ih =>
      rw [List.zipIdx_cons, List.filter_cons] at found
      cases passes : test head with
      | true =>
          rw [if_pos passes] at found
          cases offset with
          | zero =>
              cases found
              exact ⟨0, rfl, rfl, passes, rfl⟩
          | succ offset =>
              obtain ⟨place, rfl, atPlace, passesItem, count_eq⟩ := ih found
              refine ⟨place + 1, by omega, atPlace, passesItem, ?_⟩
              rw [List.take_succ_cons, List.countP_cons_of_pos passes, count_eq]
      | false =>
          rw [if_neg (by simp [passes])] at found
          obtain ⟨place, rfl, atPlace, passesItem, count_eq⟩ := ih found
          refine ⟨place + 1, by omega, atPlace, passesItem, ?_⟩
          rw [List.take_succ_cons, List.countP_cons_of_neg (by simp [passes]), count_eq]

theorem CommentInfo.rows_ofRows (number : Int) (unmarked : List Text) :
    (ofRows number unmarked).rows =
      (unmarked.map (dropTrailing isBlank)).filter fun row => !isDirectiveRow row := by
  induction unmarked generalizing number with
  | nil => rfl
  | cons row rest ih =>
      rw [ofRows, List.map_cons]
      cases isDirective : isDirectiveRow (dropTrailing isBlank row) with
      | true => rw [List.filter_cons_of_neg (by simp [isDirective]), ← ih (number + 1)]; rfl
      | false => rw [List.filter_cons_of_pos (by simp [isDirective]), ← ih (number + 1)]; rfl

namespace Block

variable {block : Block}

/-- A row of a comment without its marks and the blanks at its end. -/
def unmarked (block : Block) (row : Text) : Text :=
  dropTrailing isBlank
    ((if block.kind = .lineComment then CommentInfo.unmarkLine else CommentInfo.unmarkBlock) row)

/-- Whether a row of a comment holds a directive. -/
def holdsDirective (block : Block) (row : Text) : Bool := CommentInfo.isDirectiveRow (block.unmarked row)

/-- The rows of a comment that hold no directive, each with its index among all rows. -/
def textRows (block : Block) : List (Text × Nat) :=
  (Text.rows block.raw).zipIdx.filter fun entry => !block.holdsDirective entry.1

theorem rows_eq (comment : block.isComment = true) :
    block.rows = block.textRows.map fun entry => block.unmarked entry.1 := by
  have read : block.rows = (CommentInfo.read block.kind block.raw block.row).rows := by
    rw [rows, info]
    rw [isComment] at comment
    cases kind : block.kind with
    | lineComment | blockComment => rfl
    | moduleImport | functionDecl | variableDecl | classDecl | methodDecl | assignment | unknown =>
        rw [kind] at comment
        cases comment
  rw [read, CommentInfo.read, CommentInfo.rows_ofRows, List.map_map, List.filter_map]
  conv_lhs => rw [← List.zipIdx_map_fst 0 (Text.rows block.raw), List.filter_map, List.map_map]
  rfl

end Block

namespace Comment.Section

variable {block : Block} {part : Section} {index : Nat}

/-- The first row of a section of a comment is taken from a row of the raw text. -/
def StartsAt (part : Section) (block : Block) (index : Nat) : Prop :=
  ∃ lead before held behind trail source,
    block.rows = lead ++ before ++ (block.unmarked source :: held) ++ behind ++ trail ∧
    part.StandsIn block.row lead before (block.unmarked source :: held) behind ∧
    block.textRows[(lead ++ before).length]? = some (source, index)

theorem exists_startsAt (block : Block) : ∀ part ∈ ofBlock block, ∃ index, part.StartsAt block index := by
  intro part member
  rw [ofBlock] at member
  split at member
  · rename_i comment
    obtain ⟨gap, tiled⟩ := exists_tiled block.rows block.row
    obtain ⟨lead, before, held, behind, trail, rows_eq, stands⟩ := tiled.exists_standsIn part member
    obtain ⟨firstRow, others, rfl⟩ := List.exists_cons_of_ne_nil stands.held_nonempty
    have atFirst : block.rows[(lead ++ before).length]? = some firstRow := by
      rw [rows_eq]
      simp
    rw [Block.rows_eq comment, List.getElem?_map, Option.map_eq_some_iff] at atFirst
    obtain ⟨⟨source, index⟩, taken, rfl⟩ := atFirst
    exact ⟨index, lead, before, others, behind, trail, source, rows_eq, stands, taken⟩
  · cases member

/-- The row number of a section settles where it starts. -/
theorem StartsAt.unique {other : Nat} (starts : part.StartsAt block index)
    (startsOther : part.StartsAt block other) : other = index := by
  obtain ⟨lead, before, held, behind, trail, source, -, stands, taken⟩ := starts
  obtain ⟨lead', before', held', behind', trail', source', -, stands', taken'⟩ := startsOther
  have same : (lead' ++ before').length = (lead ++ before).length := by
    have := stands.startRow_eq
    have := stands'.startRow_eq
    omega
  rw [same, taken] at taken'
  cases taken'
  rfl

/-- The row number of a section falls behind the row of the raw text that its first row is taken from, by
one for each directive before that. -/
theorem StartsAt.source (starts : part.StartsAt block index) :
    ∃ source, (Text.rows block.raw)[index]? = some source ∧ block.holdsDirective source = false ∧
      part.head.startRow + ((Text.rows block.raw).take index).countP block.holdsDirective =
        block.row + index := by
  obtain ⟨lead, before, held, behind, trail, source, -, stands, taken⟩ := starts
  rw [Block.textRows] at taken
  obtain ⟨place, place_eq, found, isText, count_eq⟩ :=
    countP_take_of_filter_zipIdx (fun row => !block.holdsDirective row) taken
  obtain rfl : index = place := by omega
  refine ⟨source, found, by simpa using isText, ?_⟩
  have small : index < (Text.rows block.raw).length := (List.getElem?_eq_some_iff.mp found).1
  have split_eq := List.length_eq_countP_add_countP block.holdsDirective
    (l := (Text.rows block.raw).take index)
  rw [List.length_take, Nat.min_eq_left small.le] at split_eq
  simp only [Bool.not_eq_true, Bool.decide_eq_false] at split_eq
  rw [stands.startRow_eq, ← count_eq]
  omega

/-- The row of the raw text that a section starts on.  Its row number is that row exactly when no directive
stands before it. -/
theorem sourceRow_of_section (block : Block) : ∀ part ∈ ofBlock block, ∃ index source,
    (∀ other, part.StartsAt block other ↔ other = index) ∧
    (Text.rows block.raw)[index]? = some source ∧ block.holdsDirective source = false ∧
    part.head.startRow + ((Text.rows block.raw).take index).countP block.holdsDirective =
      block.row + index ∧
    (part.head.startRow = block.row + index ↔
      ∀ row ∈ (Text.rows block.raw).take index, block.holdsDirective row = false) := by
  intro part member
  obtain ⟨index, starts⟩ := exists_startsAt block part member
  obtain ⟨source, found, isText, number_eq⟩ := starts.source
  refine ⟨index, source, ?_, found, isText, number_eq, ?_⟩
  · exact fun other => ⟨starts.unique, fun same => same ▸ starts⟩
  · have none_iff : ((Text.rows block.raw).take index).countP block.holdsDirective = 0 ↔
        ∀ row ∈ (Text.rows block.raw).take index, block.holdsDirective row = false := by
      simp only [List.countP_eq_zero, Bool.not_eq_true]
    rw [← none_iff]
    omega

/-- The section below a directive in the middle of a comment. -/
theorem sourceRow_of_section_after_directive :
    ∃ block ∈ (Outline.parse "/**\n * Title\n * @alias a\n *\n * Text\n */" 1).blocks,
      ∃ part ∈ ofBlock block, part.head.startRow = 4 ∧ part.head.text = "Text".toList ∧
        (Text.rows block.raw)[4]? = some " * Text".toList ∧
        ∀ index, part.StartsAt block index ↔ index = 4 := by
  let block : Block := ⟨.blockComment, "/**\n * Title\n * @alias a\n *\n * Text\n */", 1, 0, 0, [], []⟩
  have isBlock : block ∈ (Outline.parse "/**\n * Title\n * @alias a\n *\n * Text\n */" 1).blocks := by
    decide +kernel
  obtain ⟨part, member, startRow_eq, text_eq⟩ :
      ∃ part ∈ ofBlock block, part.head.startRow = 4 ∧ part.head.text = "Text".toList := by decide +kernel
  obtain ⟨index, source, only, found, -, number_eq, -⟩ := sourceRow_of_section block part member
  have few : index < 6 := (List.getElem?_eq_some_iff.mp found).1
  have settled : ∀ index < 6, (4 : Int) + ((Text.rows block.raw).take index).countP block.holdsDirective =
      1 + index → index = 4 := by decide +kernel
  rw [startRow_eq] at number_eq
  obtain rfl := settled index few number_eq
  exact ⟨block, isBlock, part, member, startRow_eq, text_eq, by decide +kernel, only⟩

/-- A directive on the first row of a comment is counted in no row number of its sections. -/
theorem startRow_ne_sourceRow : ¬ ∀ text row, ∀ block ∈ (Outline.parse text row).blocks,
    ∀ part ∈ ofBlock block, ∀ index, part.StartsAt block index →
      part.head.startRow = block.row + index := by
  intro agree
  let block : Block := ⟨.lineComment, "// @alias x\n// Title", 1, 0, 0, ['\n'], []⟩
  have isBlock : block ∈ (Outline.parse "// @alias x\n// Title\nvar a = 1\n" 1).blocks := by
    decide +kernel
  obtain ⟨part, member, startRow_eq⟩ : ∃ part ∈ ofBlock block, part.head.startRow = 1 := by
    decide +kernel
  obtain ⟨index, starts⟩ := exists_startsAt block part member
  obtain ⟨source, found, isText, -⟩ := starts.source
  have agrees : part.head.startRow = 1 + index := agree _ 1 block isBlock part member index starts
  obtain rfl : index = 0 := by omega
  have firstRow : (Text.rows block.raw)[0]? = some "// @alias x".toList := by decide +kernel
  have isDirective : block.holdsDirective "// @alias x" = true := by decide +kernel
  obtain rfl := Option.some.inj (firstRow.symm.trans found)
  exact Bool.true_eq_false.mp (isDirective.symm.trans isText)

end Comment.Section

end Docweave
