import Docweave.Block.Basic
import Docweave.Proofs.Text.Rows

/-!
# Where the directives of a comment are written

Reading a comment takes marks off its rows and never joins two of them.  So each
directive stands on one row of the raw text, as far below the first row as its own row
number is above that of the block, and there it is written out, blanks apart.
-/

namespace Docweave

open Text

/-- A directive as it is written in a comment, with single spaces. -/
def Directive.written (directive : Directive) : Text :=
  join [' '] (('@' :: directive.verb) :: directive.args)

/-- A row on which a directive is written out, with any blanks between its words. -/
def Directive.StandsOn (directive : Directive) (row : Text) : Prop :=
  ∃ stretch, stretch <:+: row ∧ clean stretch = directive.written

namespace CommentInfo

variable {directive : Directive}

/-! ## Marks of rows -/

theorem unmarkLine_suffix (row : Text) : unmarkLine row <:+ row := by
  rw [unmarkLine]
  cases found : after? "//" (row.dropWhile isBlank) with
  | none => exact List.suffix_refl row
  | some rest => exact (suffix_of_after? found).trans (List.dropWhile_suffix isBlank)

theorem dropEndMark_isPrefix (row : Text) : dropEndMark row <+: row := by
  simp only [dropEndMark]
  split
  · split
    · exact List.nil_prefix
    · exact (List.take_prefix _ _).trans (dropTrailing_isPrefix isBlank row)
  · exact List.prefix_refl row

theorem dropStartMark_suffix (row : Text) : dropStartMark row <:+ row := by
  have suffix := List.dropWhile_suffix (l := row) isBlank
  rw [dropStartMark]
  split
  · rename_i rest equal
    rw [equal] at suffix
    have marks := (List.suffix_cons '*' rest).trans (List.suffix_cons '/' ('*' :: rest))
    exact (List.dropWhile_suffix _).trans (marks.trans suffix)
  · rename_i rest equal
    rw [equal] at suffix
    exact (List.suffix_cons '*' rest).trans suffix
  · exact suffix

theorem unmarkBlock_infix (row : Text) : unmarkBlock row <:+: row :=
  (dropStartMark_suffix (dropEndMark row)).isInfix.trans (dropEndMark_isPrefix row).isInfix

/-! ## Reading a directive -/

/-- Squeezing blanks only touches the leading ones by shortening them. -/
theorem dropWhile_squeeze (afterBlank : Bool) (text : Text) :
    (squeeze afterBlank text).dropWhile isBlank = squeeze false (text.dropWhile isBlank) := by
  induction text generalizing afterBlank with
  | nil => rfl
  | cons char rest ih =>
      by_cases blank : isBlank char = true
      · have space : isBlank ' ' = true := rfl
        cases afterBlank <;> simp [squeeze, blank, space, ih]
      · simp [squeeze, blank]

/-- The cleaned text of a directive row starts with the sign of directives. -/
theorem clean_of_isDirectiveRow {row : Text} (isDirective : isDirectiveRow row = true) :
    ∃ rest, clean row = '@' :: rest := by
  rw [isDirectiveRow] at isDirective
  split at isDirective
  · rename_i char rest equal
    refine ⟨dropTrailing isBlank (squeeze false (char :: rest)), ?_⟩
    have notBlank : isBlank '@' = false := rfl
    rw [clean, trim, stripOf, dropWhile_squeeze, equal, squeeze, notBlank, if_neg (by simp),
      dropTrailing_cons notBlank]
  · cases isDirective

theorem written_readDirective {row : Text} (isDirective : isDirectiveRow row = true)
    (number : Int) : (readDirective row number).written = clean row := by
  obtain ⟨rest, equal⟩ := clean_of_isDirectiveRow isDirective
  obtain ⟨piece, pieces, split⟩ := List.exists_cons_of_ne_nil (splitChar_ne_nil ' ' rest)
  have words : splitChar ' ' (clean row) = ('@' :: piece) :: pieces := by
    rw [equal]
    simp [splitChar, split]
  rw [readDirective, words]
  simp only [Directive.written, List.drop_succ_cons, List.drop_zero]
  rw [← words, join_splitChar]

theorem row_readDirective (row : Text) (number : Int) : (readDirective row number).row = number := by
  rw [readDirective]
  split <;> rfl

/-- A directive that is sorted out of rows was read off one of them. -/
theorem standsOn_of_mem_ofRows {number : Int} {unmarked : List Text}
    (membership : directive ∈ (ofRows number unmarked).directives) :
    ∃ (offset : Nat) (row : Text), unmarked[offset]? = some row ∧
      directive.row = number + offset ∧ directive.StandsOn row := by
  induction unmarked generalizing number with
  | nil => simp [ofRows] at membership
  | cons row rest ih =>
      have later : directive ∈ (ofRows (number + 1) rest).directives →
          ∃ (offset : Nat) (found : Text), (row :: rest)[offset]? = some found ∧
            directive.row = number + offset ∧ directive.StandsOn found := by
        intro inRest
        obtain ⟨offset, found, atOffset, rowEqual, stands⟩ := ih inRest
        exact ⟨offset + 1, found, by simpa using atOffset, by omega, stands⟩
      simp only [ofRows] at membership
      split at membership
      · rename_i isDirective
        rw [List.mem_cons] at membership
        rcases membership with rfl | inRest
        · refine ⟨0, row, rfl, by simp [row_readDirective], dropTrailing isBlank row, ?_, ?_⟩
          · exact (dropTrailing_isPrefix isBlank row).isInfix
          · exact (written_readDirective isDirective number).symm
        · exact later inRest
      · exact later membership

end CommentInfo

/-- Each directive of a block stands on the row of the raw text that its number names. -/
theorem Block.directive_standsOn {block : Block} {directive : Directive}
    (membership : directive ∈ block.directives) :
    ∃ (offset : Nat) (source : Text), (Text.rows block.raw)[offset]? = some source ∧
      directive.row = block.row + offset ∧ directive.StandsOn source := by
  have reading : directive ∈ (CommentInfo.read block.kind block.raw block.row).directives := by
    rw [directives, info] at membership
    cases kind : block.kind with
    | lineComment | blockComment => simpa [kind, BlockInfo.read] using membership
    | moduleImport | functionDecl | variableDecl | classDecl | methodDecl | assignment | unknown =>
        simp [kind, BlockInfo.read] at membership
  obtain ⟨offset, unmarked, found, rowEqual, stretch, within, cleaned⟩ :=
    CommentInfo.standsOn_of_mem_ofRows reading
  rw [List.getElem?_map, Option.map_eq_some_iff] at found
  obtain ⟨source, inRaw, rfl⟩ := found
  refine ⟨offset, source, inRaw, rowEqual, stretch, within.trans ?_, cleaned⟩
  split
  · exact (CommentInfo.unmarkLine_suffix source).isInfix
  · exact CommentInfo.unmarkBlock_infix source

end Docweave
