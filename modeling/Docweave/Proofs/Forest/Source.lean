import Docweave.Proofs.Block.Directives
import Docweave.Proofs.Forest.Opened

/-!
# What the contents of a text say about it

However many bodies are opened, every content makes up its text again, and the rows that
blocks and directives name are rows of the whole text, at every depth.
-/

namespace Docweave

open Text

theorem Directive.StandsOn.of_infix {directive : Directive} {row source : Text}
    (stands : directive.StandsOn row) (within : row <:+: source) : directive.StandsOn source := by
  obtain ⟨stretch, inRow, cleaned⟩ := stands
  exact ⟨stretch, inRow.trans within, cleaned⟩

namespace Forest

/-- Open bodies one after the other. -/
def openAll (ids : List BlockId) (forest : Forest) : Forest :=
  ids.foldl (fun forest id => forest.openBody id) forest

variable {text : Text} {row : Int} {forest : Forest} {content : ContentId} {id : BlockId}

theorem Reads.openAll (reads : Reads text row forest) (ids : List BlockId) :
    Reads text row (forest.openAll ids) := by
  induction ids generalizing forest with
  | nil => exact reads
  | cons id ids ih => exact ih (reads.openBody id)

namespace Reads

/-! ## The text of a content -/

theorem blocks (reads : Reads text row forest) (has : forest.HasContent content) :
    (forest.members content).map forest.block =
      (Outline.parse (forest.content content).text (forest.content content).row).blocks := by
  by_cases top : content = ⟨0⟩
  · rw [top, reads.topText, reads.topRow]
    exact reads.topBlocks
  · obtain ⟨id, opened⟩ := reads.opened content has top
    exact opened.blocks

theorem sourceText (reads : Reads text row forest) (has : forest.HasContent content) :
    forest.sourceText content = (forest.content content).text := by
  rw [Forest.sourceText, reads.blocks has]
  exact Outline.blockText_parse _ _

theorem getElem?_blocks (reads : Reads text row forest) {index : Nat}
    (found : (forest.members content)[index]? = some id) :
    (Outline.parse (forest.content content).text (forest.content content).row).blocks[index]? =
      some (forest.block id) := by
  rw [← reads.blocks (reads.placed.hasContent_of_member (List.mem_of_getElem? found)),
    List.getElem?_map, found]
  rfl

theorem block_mem (reads : Reads text row forest) (member : id ∈ forest.members content) :
    forest.block id ∈
      (Outline.parse (forest.content content).text (forest.content content).row).blocks := by
  rw [← reads.blocks (reads.placed.hasContent_of_member member)]
  exact List.mem_map_of_mem member

theorem visible (reads : Reads text row forest) (member : id ∈ forest.members content) :
    StartsVisible (forest.block id).raw :=
  Outline.visible_parse (reads.block_mem member)

theorem isBodyOf (reads : Reads text row forest) {inner : ContentId}
    (nested : (forest.entry id).nested = some inner) : forest.IsBodyOf inner id :=
  (reads.read id (hasBlock_of_eq_some Entry.nested rfl nested)).nested inner nested

/-! ## Rows at every depth -/

/-- The rows of a content lie in the rows of the text that its row number names. -/
theorem rowsLieIn (reads : Reads text row forest) (content : ContentId)
    (has : forest.HasContent content) :
    ∃ offset : Nat, (forest.content content).row = row + offset ∧
      RowsLieIn (forest.content content).text offset text := by
  by_cases top : content = ⟨0⟩
  · subst top
    rw [reads.topText, reads.topRow]
    exact ⟨0, by simp, .refl text⟩
  · obtain ⟨id, opened⟩ := reads.opened content has top
    obtain ⟨place, atPlace, older⟩ := opened.older
    obtain ⟨body, found, textEqual, rowEqual⟩ := opened.body
    -- The block that the content belongs to stands in an older content, whose rows lie in the text.
    obtain ⟨outerOffset, outerRow, outerInside⟩ := reads.rowsLieIn place.content
      (reads.placed.hasContent atPlace)
    have member := List.mem_of_getElem? ((reads.placed _ _ _).mpr atPlace)
    have inOutline := reads.block_mem member
    obtain ⟨blockOffset, blockRow, blockInside⟩ := Outline.rowsLieIn_parse inOutline
    have opensAtBrace := (Outline.holdsBrace_parse inOutline).opensAtBrace found
    obtain ⟨bodyOffset, bodyRow, bodyInside⟩ := opensAtBrace.rowsLieIn
    refine ⟨outerOffset + blockOffset + bodyOffset, ?_, ?_⟩
    · rw [rowEqual, bodyRow, blockRow, outerRow]
      omega
    · rw [textEqual]
      exact bodyInside.trans (blockInside.trans outerInside)
termination_by content.index

theorem rowsLieIn_block (reads : Reads text row forest) (member : id ∈ forest.members content) :
    ∃ offset : Nat, (forest.block id).row = row + offset ∧
      RowsLieIn (forest.block id).raw offset text := by
  obtain ⟨outerOffset, outerRow, outerInside⟩ :=
    reads.rowsLieIn content (reads.placed.hasContent_of_member member)
  obtain ⟨offset, blockRow, inside⟩ := Outline.rowsLieIn_parse (reads.block_mem member)
  refine ⟨outerOffset + offset, ?_, inside.trans outerInside⟩
  rw [blockRow, outerRow]
  omega

/-! ## Neighbours -/

theorem follows (reads : Reads text row forest) {index : Nat} {before after : BlockId}
    (atIndex : (forest.members content)[index]? = some before)
    (next : (forest.members content)[index + 1]? = some after) :
    Outline.Follows (forest.block before) (forest.block after) :=
  Outline.follows_parse (reads.getElem?_blocks atIndex) (reads.getElem?_blocks next)

/-- Neighbours are linked on the second level exactly when no row stands between them. -/
theorem next?_adjacent_iff (reads : Reads text row forest) {index : Nat} {before after : BlockId}
    (atIndex : (forest.members content)[index]? = some before)
    (next : (forest.members content)[index + 1]? = some after) :
    forest.next? .adjacent .forward none before = some after ↔
      (forest.block after).row ≤ (forest.block before).row + (forest.block before).rowCount := by
  have precedes : forest.Precedes before after := ⟨content, index, atIndex, next⟩
  rw [next?_eq_step?, step?_forward_iff reads.placed,
    ← (reads.follows atIndex next).blankBefore_eq_zero_iff]
  simp [precedes, Level.linked]

end Reads

/-- Parsing goes forward with every block, ends with room to spare and loses nothing, in the
text and in every body that is open. -/
theorem sourceText_openAll (text : Text) (row : Int) (ids : List BlockId) :
    let forest := (ofText text row).1.openAll ids
    let top := (ofText text row).2
    (∀ part, part ≠ [] → 0 < (classify part).length ∧ (classify part).length ≤ part.length) ∧
    (∀ fuel, text.length ≤ fuel →
      Outline.membersFrom fuel none ((Outline.gap text).count '\n')
        (row + (Outline.gap text).count '\n') (text.drop (Outline.gap text).length) =
        (Outline.parse text row).members) ∧
    forest.sourceText top = text ∧
    (∀ id ∈ forest.members top, StartsVisible (forest.block id).raw) ∧
    (∀ content, ∀ id ∈ forest.members content, (forest.block id).kind = .classDecl →
      (forest.entry id).nested.isSome) ∧
    (∀ id body, (forest.block id).body? = some body →
      ((forest.openBody id).entry id).nested.isSome) ∧
    ∀ id inner, (forest.entry id).nested = some inner →
      ∃ body, (forest.block id).body? = some body ∧ forest.sourceText inner = body.text ∧
        ∀ member ∈ forest.members inner, StartsVisible (forest.block member).raw := by
  intro forest top
  have reads : Reads text row forest := (reads_ofText text row).openAll ids
  refine ⟨?_, ?_, ?_, ?_, ?_, ?_, ?_⟩
  · intro part nonempty
    exact ⟨classify_length_pos nonempty, classify_length_le part⟩
  · intro fuel enough
    apply Outline.membersFrom_fuel
    · simp only [List.length_drop]
      omega
    · simp only [List.length_drop]
      omega
  · exact (reads.sourceText reads.hasTop).trans reads.topText
  · intro id member
    exact reads.visible member
  · intro content id member
    exact (reads.read id (reads.placed.hasBlock member)).opened
  · intro id body found
    exact isSome_nested_openBody found
  · intro id inner nested
    have opened := reads.isBodyOf nested
    obtain ⟨body, found, textEqual, -⟩ := opened.body
    refine ⟨body, found, (reads.sourceText opened.hasContent).trans textEqual, ?_⟩
    intro member inside
    exact reads.visible inside

/-- Blocks, their distances and their directives name rows of the whole text, at every depth. -/
theorem rows_openAll (text : Text) (row : Int) (ids : List BlockId) :
    let forest := (ofText text row).1.openAll ids
    (∀ content, ∀ id ∈ forest.members content, ∀ index < (forest.block id).rowCount,
      ∃ (line : Nat) (part source : Text), (line : Int) = (forest.block id).row - row + index ∧
        (rows (forest.block id).raw)[index]? = some part ∧ (rows text)[line]? = some source ∧
        part <:+: source) ∧
    (∀ content (index : Nat) before after, (forest.members content)[index]? = some before →
      (forest.members content)[index + 1]? = some after →
      (forest.block before).blankAfter = (forest.block after).blankBefore ∧
      (forest.next? .adjacent .forward none before = some after ↔
        (forest.block after).row ≤ (forest.block before).row + (forest.block before).rowCount)) ∧
    ∀ content, ∀ id ∈ forest.members content, ∀ directive ∈ (forest.block id).directives,
      ∃ (line : Nat) (source : Text), (line : Int) = directive.row - row ∧
        (rows text)[line]? = some source ∧ directive.StandsOn source := by
  intro forest
  have reads : Reads text row forest := (reads_ofText text row).openAll ids
  refine ⟨?_, ?_, ?_⟩
  · intro content id member index within
    obtain ⟨offset, rowEqual, inside⟩ := reads.rowsLieIn_block member
    have enough : index < (rows (forest.block id).raw).length := by
      rw [length_rows]
      exact within
    have found := List.getElem?_eq_getElem enough
    obtain ⟨source, inText, around⟩ := inside index _ found
    exact ⟨offset + index, _, source, by omega, found, inText, around⟩
  · intro content index before after atIndex next
    exact ⟨(reads.follows atIndex next).blankBefore_eq.symm, reads.next?_adjacent_iff atIndex next⟩
  · intro content id member directive inBlock
    obtain ⟨offset, rowEqual, inside⟩ := reads.rowsLieIn_block member
    obtain ⟨index, part, found, directiveRow, stands⟩ := Block.directive_standsOn inBlock
    obtain ⟨source, inText, around⟩ := inside index part found
    exact ⟨offset + index, source, by omega, inText, stands.of_infix around⟩

end Forest

end Docweave
