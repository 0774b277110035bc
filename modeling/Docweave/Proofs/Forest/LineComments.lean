import Docweave.Proofs.Forest.Source

/-!
# Runs of line comments

Line comments on rows one after the other are one block.  The block takes every such row from its first
one on, so it stops before the end of a row only where the text ends, and the row after it is none of
them: between two such blocks there is a blank row, and they are never linked as neighbours.
-/

namespace Docweave

open Text

variable {text blanks : Text} {row : Int}

/-! ## Rows put together and taken apart -/

namespace Text

theorem unrows_append {pieces others : List Text} (nonempty : pieces ≠ []) (othersNonempty : others ≠ []) :
    unrows (pieces ++ others) = unrows pieces ++ '\n' :: unrows others := by
  obtain ⟨other, others, rfl⟩ := List.exists_cons_of_ne_nil othersNonempty
  induction pieces with
  | nil => exact absurd rfl nonempty
  | cons piece pieces ih =>
      cases pieces with
      | nil => simp [unrows, join, List.intercalate_cons_cons]
      | cons next pieces =>
          have rest := ih (List.cons_ne_nil _ _)
          simp only [unrows, join, List.cons_append, List.intercalate_cons_cons] at rest ⊢
          rw [rest]
          simp

/-- What stands on the row before a text goes to its first row. -/
theorem rows_append_of_not_mem {lead : Text} (onRow : '\n' ∉ lead) (text : Text) :
    rows (lead ++ text) = (rows text).modifyHead (lead ++ ·) := by
  induction lead with
  | nil =>
      cases pieces : rows text with
      | nil => exact absurd pieces (rows_ne_nil text)
      | cons piece pieces => rw [List.nil_append, pieces]; rfl
  | cons char lead ih =>
      rw [List.mem_cons, not_or] at onRow
      rw [List.cons_append, rows_cons (Ne.symm onRow.1), ih onRow.2]
      cases rows text with
      | nil => rfl
      | cons piece pieces => rfl

theorem StartsVisible.append (visible : StartsVisible text) (after : Text) :
    StartsVisible (text ++ after) := by
  obtain ⟨blanks, char, rest, rfl, blank, notSeparator⟩ := startsVisible_iff.mp visible
  exact startsVisible_iff.mpr ⟨blanks, char, rest ++ after, by simp, blank, notSeparator⟩

end Text

/-! ## The run at the start of a text -/

namespace Comment

/-- The row starts, after blanks, with the mark of a line comment. -/
def IsLine (row : Text) : Prop :=
  ∃ blanks rest, row = blanks ++ '/' :: '/' :: rest ∧ ∀ char ∈ blanks, isBlank char = true

theorem isLine_iff {row : Text} : IsLine row ↔ isLineRow row = true := by
  rw [isLineRow, startsWith_iff]
  constructor
  · rintro ⟨blanks, rest, rfl, blank⟩
    exact ⟨rest, dropWhile_append_of_outside blank rfl ('/' :: rest)⟩
  · rintro ⟨rest, marked⟩
    refine ⟨row.takeWhile isBlank, rest, ?_, fun char membership => mem_takeWhile_inClass membership⟩
    have whole := List.takeWhile_append_dropWhile (p := isBlank) (l := row)
    rw [marked] at whole
    exact whole.symm

theorem IsLine.append {row : Text} (isLine : IsLine row) (blank : ∀ char ∈ blanks, isBlank char = true) :
    IsLine (blanks ++ row) := by
  obtain ⟨more, rest, rfl, moreBlank⟩ := isLine
  refine ⟨blanks ++ more, rest, (List.append_assoc ..).symm, ?_⟩
  exact List.forall_mem_append.mpr ⟨blank, moreBlank⟩

/-- The first row of the text is a line comment. -/
def StartsLine (text : Text) : Prop := IsLine ((rows text).headD [])

theorem StartsLine.append (starts : StartsLine text) (blank : ∀ char ∈ blanks, isBlank char = true) :
    StartsLine (blanks ++ text) := by
  rw [StartsLine, rows_append_of_not_mem (newline_not_mem_of_blank blank)]
  obtain ⟨first, lines, rowsEqual⟩ := List.exists_cons_of_ne_nil (rows_ne_nil text)
  rw [StartsLine, rowsEqual] at starts
  rw [rowsEqual]
  exact IsLine.append starts blank

theorem not_startsLine_nil : ¬ StartsLine [] := by
  rintro ⟨blanks, rest, equal, -⟩
  simp at equal

theorem startsLine_of_mark {rest : Text} (marked : text = "//" ++ rest) : StartsLine text := by
  obtain ⟨first, lines, markedRows⟩ := exists_rows_of_mark rest
  rw [StartsLine, marked, markedRows]
  exact ⟨[], first, rfl, fun char membership => absurd membership List.not_mem_nil⟩

/-- The rows of a run are all line comments, and it goes on up to the end of the text or of a row after
which there is none. -/
structure IsRun (run rest : Text) : Prop where
  isLine : ∀ line ∈ rows run, IsLine line
  stops : rest = [] ∨ ∃ others, rest = '\n' :: others ∧ ¬ StartsLine others

/-- Blanks before a run are part of it. -/
theorem IsRun.append {run rest : Text} (isRun : IsRun run rest)
    (blank : ∀ char ∈ blanks, isBlank char = true) : IsRun (blanks ++ run) rest := by
  refine ⟨fun line membership => ?_, isRun.stops⟩
  rw [rows_append_of_not_mem (newline_not_mem_of_blank blank)] at membership
  obtain ⟨first, lines, rowsEqual⟩ := List.exists_cons_of_ne_nil (rows_ne_nil run)
  have inRun := isRun.isLine
  rw [rowsEqual] at membership inRun
  rcases List.mem_cons.mp membership with rfl | later
  · exact (inRun first (List.mem_cons_self ..)).append blank
  · exact inRun line (List.mem_cons_of_mem _ later)

/-- Taking rows as long as they are line comments gives a run when the first row is one. -/
theorem exists_isRun (starts : StartsLine text) :
    ∃ rest, text = unrows ((rows text).takeWhile isLineRow) ++ rest ∧
      IsRun (unrows ((rows text).takeWhile isLineRow)) rest := by
  have split := List.takeWhile_append_dropWhile (p := isLineRow) (l := rows text)
  have isLine : ∀ line ∈ (rows text).takeWhile isLineRow, IsLine line :=
    fun line membership => isLine_iff.mpr (List.all_eq_true.mp List.all_takeWhile line membership)
  have onRow : ∀ line ∈ rows text, '\n' ∉ line := fun line => newline_not_mem_of_mem_rows
  have nonempty : (rows text).takeWhile isLineRow ≠ [] := by
    obtain ⟨first, lines, rowsEqual⟩ := List.exists_cons_of_ne_nil (rows_ne_nil text)
    rw [StartsLine, rowsEqual, List.headD_cons] at starts
    rw [rowsEqual, List.takeWhile_cons_of_pos (isLine_iff.mp starts)]
    exact List.cons_ne_nil _ _
  have runRows : rows (unrows ((rows text).takeWhile isLineRow)) = (rows text).takeWhile isLineRow :=
    rows_unrows (fun line membership => onRow line ((List.takeWhile_prefix _).subset membership)) nonempty
  -- What remains is empty, or it follows after a newline and its first row is no line comment.
  cases remaining : (rows text).dropWhile isLineRow with
  | nil =>
      rw [remaining, List.append_nil] at split
      refine ⟨[], ?_, by rwa [runRows], .inl rfl⟩
      rw [split, unrows_rows, List.append_nil]
  | cons first lines =>
      have remainingRows : rows (unrows (first :: lines)) = first :: lines := by
        refine rows_unrows (fun line membership => onRow line ?_) (List.cons_ne_nil _ _)
        exact (List.dropWhile_suffix isLineRow).subset (remaining ▸ membership)
      refine ⟨'\n' :: unrows (first :: lines), ?_, by rwa [runRows], .inr ⟨_, rfl, ?_⟩⟩
      · rw [← unrows_append nonempty (List.cons_ne_nil _ _), ← remaining, split, unrows_rows]
      · rw [StartsLine, remainingRows, List.headD_cons, isLine_iff]
        have notLine := List.head?_dropWhile_not isLineRow (rows text)
        simpa [remaining] using notLine

/-- The block that a mark of line comments starts is a run, after the blanks before the mark. -/
theorem exists_isRun_take (visible : StartsVisible text)
    (found : startsWith "//" (Header.skip text) = true) : StartsLine text ∧
      IsRun (text.take (runLength text)) (text.drop (runLength text)) := by
  obtain ⟨blanks, visible⟩ := startsVisible_iff.mp visible
  obtain ⟨rest, marked⟩ := startsWith_iff.mp found
  have starts := startsLine_of_mark marked
  obtain ⟨remaining, split, isRun⟩ := exists_isRun starts
  have whole := skip_of_visibleAfter visible
  have lead := visible.takeWhile_isSeparator
  obtain ⟨-, -, -, blank, -⟩ := visible
  have runLength_eq : runLength text =
      (blanks ++ unrows ((rows (Header.skip text)).takeWhile isLineRow)).length := by
    rw [runLength, lead, List.length_append]
    rfl
  constructor
  · rw [whole]
    exact starts.append blank
  · rw [split, ← List.append_assoc] at whole
    rw [runLength_eq, drop_of_append whole, ← List.prefix_iff_eq_take.mp ⟨_, whole.symm⟩]
    exact isRun.append blank

end Comment

/-- What is classified as line comments is a run. -/
theorem isRun_of_classify (visible : StartsVisible text)
    (kind : (classify text).kind = .lineComment) : Comment.StartsLine text ∧
      Comment.IsRun (text.take (classify text).length) (text.drop (classify text).length) := by
  have nonempty : text ≠ [] := by
    rintro rfl
    cases kind
  rcases classify_cases nonempty with ⟨recognised, -⟩ | unknown
  · generalize classify text = result at kind recognised
    cases recognised with
    | lineComment found => exact Comment.exists_isRun_take visible found
    | _ => cases kind
  · rw [unknown] at kind
    cases kind

/-- The blanks before a row do not matter, and a blank row ends the run. -/
example : classify "  // a\n\t// b\n\n// c" = ⟨.lineComment, 12⟩ := by decide +kernel

/-! ## Blocks of an outline -/

namespace Outline

variable {block : Block} {index : Nat}

/-- Each block is what is cut off the text of the blocks from it on. -/
theorem cutBlock_members (note : Option Block) (blanks : Nat) (row : Int) (text : Text) (index : Nat)
    (found : ((membersFrom text.length note blanks row text).map BlockTree.block)[index]? =
      some block) : ∃ before start, block = (cutBlock before start
        (blockText (((membersFrom text.length note blanks row text).map BlockTree.block).drop
          index))).1 := by
  by_cases nonempty : text = []
  · subst nonempty
    simp [membersFrom] at found
  · cases index with
    | zero =>
        rw [List.drop_zero, blockText_members]
        rw [membersFrom_cut nonempty, List.map_cons, block_treeOf, List.getElem?_cons_zero,
          Option.some.injEq] at found
        exact ⟨blanks, row, found.symm⟩
    | succ index =>
        rw [membersFrom_cut nonempty, List.map_cons, List.getElem?_cons_succ] at found
        rw [membersFrom_cut nonempty, List.map_cons, List.drop_succ_cons]
        exact cutBlock_members _ _ _ _ index found
termination_by index

theorem cutBlock_parse (found : (parse text row).blocks[index]? = some block) :
    ∃ before start, block =
      (cutBlock before start (blockText ((parse text row).blocks.drop index))).1 := by
  have equal : (parse text row).blocks = _ := congrArg (List.map BlockTree.block) (parse_members text row)
  rw [equal] at found ⊢
  exact cutBlock_members _ _ _ _ index found

theorem isSeparator_of_mem_gap {char : Char} (membership : char ∈ gap text) :
    isSeparator char = true := by
  rw [gap] at membership
  split at membership
  · exact mem_takeWhile_inClass membership
  · exact mem_takeWhile_inClass ((dropTrailing_isPrefix isBlank _).subset membership)

/-- A gap without a blank row is blank. -/
theorem isBlank_of_mem_gapAfter {char : Char} {blanks : Nat}
    (noRow : (cutBlock blanks row text).1.blankAfter = 0)
    (membership : char ∈ (cutBlock blanks row text).1.gapAfter) : isBlank char = true := by
  obtain ⟨afterRow, gap_eq⟩ : ∃ afterRow, (cutBlock blanks row text).1.gapAfter = gap afterRow :=
    ⟨_, rfl⟩
  rw [(cutBlock_isCut blanks row text).blankAfter_eq] at noRow
  have other : char ≠ '\n' := by
    rintro rfl
    exact List.count_eq_zero.mp noRow membership
  have separator := isSeparator_of_mem_gap (gap_eq ▸ membership)
  simpa [isSeparator, other] using separator

theorem blockText_append (blocks others : List Block) :
    blockText (blocks ++ others) = blockText blocks ++ blockText others := by
  simp only [blockText, List.map_append, List.flatten_append]

theorem blockText_drop (found : (parse text row).blocks[index]? = some block) :
    blockText ((parse text row).blocks.drop index) = block.raw ++ (block.lineEnd ++ (block.gapAfter ++
      blockText ((parse text row).blocks.drop (index + 1)))) := by
  obtain ⟨bound, rfl⟩ := List.getElem?_eq_some_iff.mp found
  rw [List.drop_eq_getElem_cons bound]
  simp only [blockText, List.map_cons, List.flatten_cons, List.append_assoc]

/-- What classification leaves of the text is the end of the row, the gap and the blocks that follow. -/
theorem drop_classify_parse (found : (parse text row).blocks[index]? = some block) :
    (blockText ((parse text row).blocks.drop index)).drop
        (classify (blockText ((parse text row).blocks.drop index))).length =
      block.lineEnd ++ (block.gapAfter ++ blockText ((parse text row).blocks.drop (index + 1))) := by
  obtain ⟨before, start, cut⟩ := cutBlock_parse found
  have split := blockText_drop found
  have raw_eq := congrArg Block.raw cut
  generalize blockText ((parse text row).blocks.drop index) = part at split raw_eq ⊢
  have length_eq : block.raw.length = (classify part).length := by
    rw [raw_eq]
    exact List.length_take_of_le (classify_length_le part)
  rw [← length_eq]
  exact drop_of_append split

/-- A block of line comments is a run in what is left of the text where it starts. -/
theorem isRun_parse (found : (parse text row).blocks[index]? = some block)
    (kind : block.kind = .lineComment) :
    Comment.StartsLine (blockText ((parse text row).blocks.drop index)) ∧
      Comment.IsRun block.raw (block.lineEnd ++ (block.gapAfter ++
        blockText ((parse text row).blocks.drop (index + 1)))) := by
  obtain ⟨before, start, cut⟩ := cutBlock_parse found
  have visible : StartsVisible (blockText ((parse text row).blocks.drop index)) := by
    rw [blockText_drop found]
    exact (visible_parse (List.mem_of_getElem? found)).append _
  obtain ⟨starts, isRun⟩ := isRun_of_classify visible ((congrArg Block.kind cut).symm.trans kind)
  rw [drop_classify_parse found] at isRun
  exact ⟨starts, (congrArg Block.raw cut) ▸ isRun⟩

/-- Between two runs of line comments stands a blank row. -/
theorem blankAfter_pos_of_lineComment {before after : Block}
    (atIndex : (parse text row).blocks[index]? = some before)
    (next : (parse text row).blocks[index + 1]? = some after)
    (kindBefore : before.kind = .lineComment) (kindAfter : after.kind = .lineComment) :
    0 < before.blankAfter := by
  obtain ⟨starts, -⟩ := isRun_parse next kindAfter
  obtain ⟨-, isRun⟩ := isRun_parse atIndex kindBefore
  obtain ⟨blanks, start, cut⟩ := cutBlock_parse atIndex
  apply Nat.pos_of_ne_zero
  intro noRow
  -- Without a blank row only blanks stand before the second run on the row where the first one stops.
  have blank : ∀ char ∈ before.gapAfter, isBlank char = true := by
    rw [cut] at noRow ⊢
    exact fun char => isBlank_of_mem_gapAfter noRow
  have startsToo := starts.append blank
  rcases isRun.stops with atEnd | ⟨others, newline, notLine⟩
  · rw [(List.append_eq_nil_iff.mp atEnd).2] at startsToo
    exact Comment.not_startsLine_nil startsToo
  · have lineEnd_eq : before.lineEnd = rowEnd ('\n' :: others) := by
      rw [← newline, ← drop_classify_parse atIndex]
      exact congrArg Block.lineEnd cut
    have noBlanks : rowEnd ('\n' :: others) = ['\n'] := rfl
    rw [lineEnd_eq, noBlanks, List.singleton_append, List.cons.injEq] at newline
    exact notLine (newline.2 ▸ startsToo)

end Outline

namespace Forest

variable {forest : Forest} {content : ContentId} {index : Nat} {id before after : BlockId}

/-! ## Blocks of a forest -/

namespace Reads

/-- The text of a content is what stands before a block of line comments, the block, which is a run, and
what follows it. -/
theorem exists_isRun (reads : Reads text row forest)
    (found : (forest.members content)[index]? = some id) (kind : (forest.block id).kind = .lineComment) :
    ∃ rest, (forest.content content).text = Outline.gap (forest.content content).text ++
        (Outline.blockText (((forest.members content).take index).map forest.block) ++
          ((forest.block id).raw ++ rest)) ∧
      Comment.IsRun (forest.block id).raw rest := by
  have inOutline := reads.getElem?_blocks found
  refine ⟨_, ?_, (Outline.isRun_parse inOutline kind).2⟩
  rw [← Outline.blockText_drop inOutline, List.map_take,
    reads.blocks (reads.placed.hasContent_of_member (List.mem_of_getElem? found)),
    ← Outline.blockText_append, List.take_append_drop, Outline.blockText_parse]

theorem blankAfter_pos_of_lineComment (reads : Reads text row forest)
    (atIndex : (forest.members content)[index]? = some before)
    (next : (forest.members content)[index + 1]? = some after)
    (kindBefore : (forest.block before).kind = .lineComment)
    (kindAfter : (forest.block after).kind = .lineComment) : 0 < (forest.block before).blankAfter :=
  Outline.blankAfter_pos_of_lineComment (reads.getElem?_blocks atIndex) (reads.getElem?_blocks next)
    kindBefore kindAfter

/-- Runs of line comments are no linked neighbours. -/
theorem not_linked_of_lineComment (reads : Reads text row forest) (precedes : forest.Precedes before after)
    (kindBefore : (forest.block before).kind = .lineComment)
    (kindAfter : (forest.block after).kind = .lineComment) :
    Level.adjacent.linked (forest.block before) (forest.block after) = false := by
  obtain ⟨content, index, atIndex, next⟩ := precedes
  have positive := reads.blankAfter_pos_of_lineComment atIndex next kindBefore kindAfter
  rw [← (reads.follows atIndex next).blankBefore_eq] at positive
  simpa [Level.linked] using Nat.ne_of_gt positive

end Reads

/-- However many bodies are opened, a block of line comments holds rows of line comments only and stops
at the end of a row or of the text, with a blank row before the next such block, and the two are not
linked. -/
theorem lineComments_openAll (text : Text) (row : Int) (ids : List BlockId) :
    let forest := (ofText text row).1.openAll ids
    (∀ content (index : Nat) id, (forest.members content)[index]? = some id →
      (forest.block id).kind = .lineComment →
      ∃ rest, (forest.content content).text = Outline.gap (forest.content content).text ++
          (Outline.blockText (((forest.members content).take index).map forest.block) ++
            ((forest.block id).raw ++ rest)) ∧
        Comment.IsRun (forest.block id).raw rest) ∧
    (∀ content (index : Nat) before after, (forest.members content)[index]? = some before →
      (forest.members content)[index + 1]? = some after →
      (forest.block before).kind = .lineComment → (forest.block after).kind = .lineComment →
      0 < (forest.block before).blankAfter ∧ 0 < (forest.block after).blankBefore ∧
        (forest.block before).row + (forest.block before).rowCount < (forest.block after).row) ∧
    ∀ direction id other, forest.next? .adjacent direction none id = some other →
      ¬ ((forest.block id).kind = .lineComment ∧ (forest.block other).kind = .lineComment) := by
  intro forest
  have reads : Reads text row forest := (reads_ofText text row).openAll ids
  refine ⟨?_, ?_, ?_⟩
  · intro content index id found kind
    exact reads.exists_isRun found kind
  · intro content index before after atIndex next kindBefore kindAfter
    have positive := reads.blankAfter_pos_of_lineComment atIndex next kindBefore kindAfter
    have follows := reads.follows atIndex next
    have beforeToo := positive
    rw [← follows.blankBefore_eq] at beforeToo
    refine ⟨positive, beforeToo, Int.not_le.mp ?_⟩
    rw [← follows.blankBefore_eq_zero_iff]
    exact Nat.ne_of_gt beforeToo
  · rintro direction id other linked ⟨kind, kindOther⟩
    rw [next?_eq_step?] at linked
    cases direction with
    | forward =>
        obtain ⟨precedes, areLinked⟩ := (step?_forward_iff reads.placed).mp linked
        rw [reads.not_linked_of_lineComment precedes kind kindOther] at areLinked
        cases areLinked
    | backward =>
        obtain ⟨precedes, areLinked⟩ := (step?_backward_iff reads.placed).mp linked
        rw [reads.not_linked_of_lineComment precedes kindOther kind] at areLinked
        cases areLinked

/-- Two rows are one block, and the next one stands after a blank row. -/
theorem lineComments_openAll_rows :
    let forest := (ofText "// a\n  // b\n\n// c" 1).1.openAll []
    (forest.block ⟨0⟩).kind = .lineComment ∧ (forest.block ⟨1⟩).kind = .lineComment ∧
      (forest.block ⟨0⟩).raw = "// a\n  // b" ∧
      (∃ rest, Comment.IsRun (forest.block ⟨0⟩).raw rest) ∧ 0 < (forest.block ⟨0⟩).blankAfter := by
  intro forest
  have first : (forest.members ⟨0⟩)[0]? = some ⟨0⟩ := by decide +kernel
  have second : (forest.members ⟨0⟩)[1]? = some ⟨1⟩ := by decide +kernel
  have kindFirst : (forest.block ⟨0⟩).kind = .lineComment := by decide +kernel
  have kindSecond : (forest.block ⟨1⟩).kind = .lineComment := by decide +kernel
  obtain ⟨runs, apart, -⟩ := lineComments_openAll "// a\n  // b\n\n// c" 1 []
  obtain ⟨rest, -, isRun⟩ := runs ⟨0⟩ 0 ⟨0⟩ first kindFirst
  exact ⟨kindFirst, kindSecond, by decide +kernel, ⟨rest, isRun⟩,
    (apart ⟨0⟩ 0 ⟨0⟩ ⟨1⟩ first second kindFirst kindSecond).1⟩

end Forest

end Docweave
