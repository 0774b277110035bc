import Docweave.Proofs.Outline.Cutting

/-!
# The blocks of an outline

What holds of the blocks that parsing a text gives, each fact by the induction over
cuts.  The blocks and gaps make up the text; each block is visible on its first row;
its rows lie in the rows of the text that its row number names; it follows the block
before it at the distance that its blank rows tell; and an opened body is the outline
of that body.
-/

namespace Docweave

open Text

/-- Every body that is opened in the tree holds the blocks of that body, and a class is
always opened. -/
inductive BlockTree.Faithful : BlockTree → Prop where
  | leaf {block : Block} (notClass : block.kind ≠ .classDecl) : Faithful (.leaf block)
  | branch {block : Block} {body : Body} (found : block.body? = some body)
      (inside : ∀ tree ∈ (Outline.parse body.text body.row).members, tree.Faithful) :
      Faithful (.branch block (Outline.parse body.text body.row).members)

namespace Outline

variable {text : Text} {row : Int} {block : Block} {tree : BlockTree}

/-- The blocks of an outline, in order. -/
def blocks (outline : Outline) : List Block := outline.members.map BlockTree.block

/-! ## The text -/

theorem blockText_members (note : Option Block) (blanks : Nat) (row : Int) (text : Text) :
    blockText ((membersFrom text.length note blanks row text).map BlockTree.block) = text := by
  apply members_induction (motive := fun _ _ _ text trees =>
    blockText (trees.map BlockTree.block) = text)
  · intro note blanks row
    rfl
  · intro note blanks row text block rest trees nonempty cut restText
    rw [cut.append, ← restText]
    simp [blockText]

/-- Nothing of a text is lost when it is parsed. -/
theorem blockText_parse (text : Text) (row : Int) :
    gap text ++ blockText (parse text row).blocks = text := by
  rw [blocks, parse_members, blockText_members]
  exact (gap_append_drop text).symm

/-! ## Visible blocks and braces -/

/-- What every cut gives its block, and hands on to what follows the block, holds of all blocks. -/
theorem forall_members (start : Text → Prop) (property : Block → Prop)
    (ofCut : ∀ blanks row text block rest, text ≠ [] → IsCut blanks row text block rest →
      start text → property block ∧ start rest)
    (note : Option Block) (blanks : Nat) (row : Int) (text : Text) :
    start text → ∀ tree ∈ membersFrom text.length note blanks row text, property tree.block := by
  apply members_induction (motive := fun _ _ _ text trees =>
    start text → ∀ tree ∈ trees, property tree.block)
  · intro note blanks row begins tree membership
    cases membership
  · intro note blanks row text block rest trees nonempty cut ih begins tree membership
    obtain ⟨holds, continues⟩ := ofCut blanks row text block rest nonempty cut begins
    rw [List.mem_cons] at membership
    rcases membership with rfl | inRest
    · rw [block_treeOf]
      exact holds
    · exact ih continues tree inRest

/-- A block of an outline is cut from what follows the gap at the start. -/
theorem exists_tree_of_mem_blocks (membership : block ∈ (parse text row).blocks) :
    ∃ tree ∈ membersFrom (text.drop (gap text).length).length none ((gap text).count '\n')
      (row + (gap text).count '\n') (text.drop (gap text).length), tree.block = block := by
  rw [blocks, parse_members, List.mem_map] at membership
  exact membership

theorem visible_parse (membership : block ∈ (parse text row).blocks) :
    StartsVisible block.raw := by
  obtain ⟨tree, inMembers, rfl⟩ := exists_tree_of_mem_blocks membership
  refine forall_members (fun text => text = [] ∨ StartsVisible text)
    (fun block => StartsVisible block.raw) ?_ _ _ _ _ (visible_drop_gap text) tree inMembers
  intro blanks row text block rest nonempty cut visible
  exact ⟨cut.raw_visible (visible.resolve_left nonempty), cut.rest_visible⟩

theorem holdsBrace_parse (membership : block ∈ (parse text row).blocks) : block.HoldsBrace := by
  obtain ⟨tree, inMembers, rfl⟩ := exists_tree_of_mem_blocks membership
  refine forall_members (fun _ => True) Block.HoldsBrace ?_ _ _ _ _ trivial tree inMembers
  intro blanks row text block rest nonempty cut _
  exact ⟨cut.holdsBrace, trivial⟩

theorem raw_length_le_parse (membership : block ∈ (parse text row).blocks) :
    block.raw.length ≤ text.length := by
  obtain ⟨tree, inMembers, rfl⟩ := exists_tree_of_mem_blocks membership
  refine forall_members (fun part => part.length ≤ text.length)
    (fun block => block.raw.length ≤ text.length) ?_ _ _ _ _ ?_ tree inMembers
  · intro blanks row part block rest nonempty cut short
    exact ⟨Nat.le_trans cut.raw_length_le short,
      Nat.le_trans (Nat.le_of_lt (cut.rest_length_lt nonempty)) short⟩
  · rw [List.length_drop]
    exact Nat.sub_le _ _

/-! ## Opened bodies -/

/-- A class has a body, whatever its text. -/
theorem body?_isSome_of_classDecl (kind : block.kind = .classDecl) :
    ∃ body, block.body? = some body := by
  simp [Block.body?, Block.info, kind, BlockInfo.read]

theorem faithful_treeOf {note : Option Block}
    (inside : ∀ body, block.body? = some body →
      ∀ tree ∈ (parse body.text body.row).members, tree.Faithful) :
    (treeOf note block).Faithful := by
  rw [treeOf]
  split
  · rename_i body opened found
    exact .branch found (inside body found)
  · rename_i notOpened
    apply BlockTree.Faithful.leaf
    intro kind
    obtain ⟨body, found⟩ := body?_isSome_of_classDecl kind
    exact notOpened body (by simp [opensBody, kind]) found

/-- Every body opened by parsing holds the blocks of that body, at every depth. -/
theorem faithful_parse (text : Text) (row : Int) :
    ∀ tree ∈ (parse text row).members, tree.Faithful := by
  -- The induction is on the length of the text, since bodies are shorter; inside it the
  -- blocks of one text are taken by the induction over cuts.
  have bounded : ∀ size text row, text.length ≤ size →
      ∀ tree ∈ (parse text row).members, tree.Faithful := by
    intro size
    induction size with
    | zero =>
        intro text row small tree membership
        have empty : text = [] := List.length_eq_zero_iff.mp (Nat.le_zero.mp small)
        subst empty
        cases membership
    | succ size ih =>
        intro text row small
        rw [parse_members]
        apply members_induction (motive := fun _ _ _ text trees =>
          text.length ≤ size + 1 → ∀ tree ∈ trees, tree.Faithful)
        · intro note blanks row small tree membership
          cases membership
        · intro note blanks row text block rest trees nonempty cut restFaithful small tree membership
          rw [List.mem_cons] at membership
          rcases membership with rfl | inRest
          · apply faithful_treeOf
            intro body found
            have shorter := cut.body_length_lt found
            exact ih body.text body.row (by omega)
          · have shorter := cut.rest_length_lt nonempty
            exact restFaithful (by omega) tree inRest
        · simp only [List.length_drop]
          omega
  exact bounded text.length text row (Nat.le_refl _)

/-! ## Rows -/

theorem rowsLieIn_members (note : Option Block) (blanks : Nat) (row : Int) (text : Text) :
    ∀ tree ∈ membersFrom text.length note blanks row text,
      ∃ offset : Nat, tree.block.row = row + offset ∧ RowsLieIn tree.block.raw offset text := by
  apply members_induction (motive := fun _ _ row text trees => ∀ tree ∈ trees,
    ∃ offset : Nat, tree.block.row = row + offset ∧ RowsLieIn tree.block.raw offset text)
  · intro note blanks row tree membership
    cases membership
  · intro note blanks row text block rest trees nonempty cut ih tree membership
    rw [List.mem_cons] at membership
    rcases membership with rfl | inRest
    · refine ⟨0, by simp [cut.row_eq], ?_⟩
      rw [block_treeOf, cut.append, List.append_assoc, List.append_assoc]
      exact RowsLieIn.append_right block.raw _
    · obtain ⟨offset, rowEqual, inside⟩ := ih tree inRest
      refine ⟨(block.raw ++ block.lineEnd ++ block.gapAfter).count '\n' + offset, ?_, ?_⟩
      · rw [rowEqual, rowAfter, cut.row_eq, cut.blankAfter_eq]
        simp only [List.count_append, cut.count_lineEnd, Block.rowCount]
        split <;> omega
      · rw [cut.append]
        exact inside.trans (RowsLieIn.append_left _ rest)

/-- The rows of a block lie in the rows of the text that its row number names. -/
theorem rowsLieIn_parse (membership : block ∈ (parse text row).blocks) :
    ∃ offset : Nat, block.row = row + offset ∧ RowsLieIn block.raw offset text := by
  obtain ⟨tree, inMembers, rfl⟩ := exists_tree_of_mem_blocks membership
  obtain ⟨offset, rowEqual, inside⟩ := rowsLieIn_members _ _ _ _ tree inMembers
  refine ⟨(gap text).count '\n' + offset, by rw [rowEqual]; omega, ?_⟩
  have moved := inside.trans (.append_left (gap text) (text.drop (gap text).length))
  rwa [← gap_append_drop] at moved

/-! ## Neighbours -/

/-- `after` starts right where `before` and the blank rows after it end. -/
structure Follows (before after : Block) : Prop where
  blankBefore_eq : after.blankBefore = before.blankAfter
  row_eq : after.row = rowAfter before
  endsRow_of_blank : 0 < before.blankAfter → before.endsRow = true

theorem follows_members (note : Option Block) (blanks : Nat) (row : Int) (text : Text) :
    (∀ tree : BlockTree, (membersFrom text.length note blanks row text)[0]? = some tree →
      tree.block.row = row ∧ tree.block.blankBefore = blanks) ∧
    ∀ (index : Nat) before after,
      (membersFrom text.length note blanks row text)[index]? = some before →
      (membersFrom text.length note blanks row text)[index + 1]? = some after →
      Follows before.block after.block := by
  apply members_induction (motive := fun _ blanks row _ trees =>
    (∀ tree : BlockTree, trees[0]? = some tree →
      tree.block.row = row ∧ tree.block.blankBefore = blanks) ∧
    ∀ (index : Nat) before after, trees[index]? = some before → trees[index + 1]? = some after →
      Follows before.block after.block)
  · intro note blanks row
    simp
  · intro note blanks row text block rest trees nonempty cut ih
    obtain ⟨firstRest, inRest⟩ := ih
    constructor
    · intro tree first
      simp only [List.getElem?_cons_zero, Option.some.injEq] at first
      subst first
      rw [block_treeOf]
      exact ⟨cut.row_eq, cut.blankBefore_eq⟩
    · intro index before after atIndex afterIndex
      cases index with
      | zero =>
          simp only [List.getElem?_cons_zero, Option.some.injEq] at atIndex
          subst atIndex
          obtain ⟨rowEqual, blankEqual⟩ := firstRest after (by simpa using afterIndex)
          rw [block_treeOf]
          exact ⟨blankEqual, rowEqual, cut.endsRow_of_blank⟩
      | succ index => exact inRest index before after atIndex afterIndex

/-- Neighbouring blocks of an outline follow each other. -/
theorem follows_parse {index : Nat} {before after : Block}
    (atIndex : (parse text row).blocks[index]? = some before)
    (afterIndex : (parse text row).blocks[index + 1]? = some after) : Follows before after := by
  rw [blocks, parse_members, List.getElem?_map, Option.map_eq_some_iff] at atIndex afterIndex
  obtain ⟨beforeTree, beforeFound, rfl⟩ := atIndex
  obtain ⟨afterTree, afterFound, rfl⟩ := afterIndex
  exact (follows_members _ _ _ _).2 index beforeTree afterTree beforeFound afterFound

/-- Blocks that follow each other have no blank row between them exactly when the second
starts no later than the row after the first. -/
theorem Follows.blankBefore_eq_zero_iff {before after : Block} (follows : Follows before after) :
    after.blankBefore = 0 ↔ after.row ≤ before.row + before.rowCount := by
  have blankEqual := follows.blankBefore_eq
  have rowEqual := follows.row_eq
  have ending := follows.endsRow_of_blank
  have count : before.rowCount = before.raw.count '\n' + 1 := rfl
  rw [rowAfter] at rowEqual
  constructor
  · intro none
    split at rowEqual <;> omega
  · intro early
    apply Nat.eq_zero_of_not_pos
    intro some
    have ends := ending (by omega)
    rw [ends, if_pos rfl] at rowEqual
    omega

end Outline

end Docweave
