import Docweave.Block.Classify
import Docweave.Proofs.Block.Extent
import Docweave.Proofs.Block.Header

/-!
# What classification promises

`Recognised` lists, kind by kind, what a recognised block can be: the header that was
found and the extent that was measured.  From it follow the facts on which parsing
rests.  A block takes at least one character and no more than there are; when the
first row of the text is visible, so is the first row of the block; and a block with
a body holds the brace that opens it.
-/

namespace Docweave

open Text

/-- What the header at the start of a text can give. -/
inductive Recognised (text : Text) : Classified → Prop where
  | lineComment (found : startsWith "//" (Header.skip text) = true) :
      Recognised text ⟨.lineComment, Comment.runLength text⟩
  | blockComment (found : startsWith "/*" (Header.skip text) = true) :
      Recognised text ⟨.blockComment, Comment.blockLength text⟩
  | moduleImport
      (found : (Header.require? text).isSome = true ∨ (Header.import? text).isSome = true) :
      Recognised text ⟨.moduleImport, Extent.line text⟩
  | functionDecl (found : (Header.function? text).isSome = true) :
      Recognised text ⟨.functionDecl, Extent.braced text⟩
  | variableDecl (found : (Header.variableStart? text).isSome = true) :
      Recognised text ⟨.variableDecl, Classified.assignedLength text⟩
  | classDecl (found : (Header.class? text).isSome = true) :
      Recognised text ⟨.classDecl, Extent.braced text⟩
  | assignment (found : (Header.assignment? text).isSome = true) :
      Recognised text ⟨.assignment, Classified.assignedLength text⟩
  | methodDecl (found : (Header.method? text).isSome = true) :
      Recognised text ⟨.methodDecl, Extent.braced text⟩

variable {text blanks : Text} {result : Classified}

theorem Recognised.of_recognise? (found : Classified.recognise? text = some result) :
    Recognised text result := by
  simp only [Classified.recognise?] at found
  split at found
  · rename_i header
    cases found
    exact .lineComment header
  split at found
  · rename_i header
    cases found
    exact .blockComment header
  split at found
  · rename_i header
    cases found
    exact .moduleImport (.inl header)
  split at found
  · rename_i header
    cases found
    exact .moduleImport (.inr header)
  split at found
  · rename_i header
    cases found
    exact .functionDecl header
  split at found
  · rename_i header
    cases found
    exact .variableDecl header
  split at found
  · rename_i header
    cases found
    exact .classDecl header
  split at found
  · rename_i header
    cases found
    exact .assignment header
  split at found
  · rename_i header
    cases found
    exact .methodDecl header
  · cases found

/-- A text that is not empty starts with a recognised block or with an unknown row. -/
theorem classify_cases (nonempty : text ≠ []) :
    (Recognised text (classify text) ∧ 0 < (classify text).length) ∨
      classify text = Classified.unknownRow text := by
  have notEmpty : text.isEmpty = false := by simpa using nonempty
  simp only [classify, notEmpty, Bool.false_eq_true, if_false]
  split
  · exact .inr rfl
  · split
    · rename_i found recognised
      split
      · exact .inr rfl
      · rename_i positive
        exact .inl ⟨.of_recognise? recognised, Nat.pos_of_ne_zero positive⟩
    · exact .inr rfl

/-! ## A block fits into its text -/

namespace Comment

theorem runLength_le (text : Text) : runLength text ≤ text.length := by
  have prefixRows := unrows_isPrefix
    (List.takeWhile_prefix (l := rows (text.dropWhile isSeparator)) isLineRow)
  have shorter := prefixRows.length_le
  rw [unrows_rows] at shorter
  have whole := congrArg List.length
    (List.takeWhile_append_dropWhile (p := isSeparator) (l := text))
  simp only [List.length_append] at whole
  simp only [runLength]
  omega

theorem blockLength_le (text : Text) : blockLength text ≤ text.length := by
  simp only [blockLength]
  split
  · rename_i offset found
    obtain ⟨before, after, equal, rfl⟩ := eq_append_of_find? found
    have sizes := congrArg List.length equal
    simp only [List.length_drop, List.length_append] at sizes
    have two : "*/".toList.length = 2 := rfl
    omega
  · exact Nat.le_refl _

end Comment

theorem Recognised.length_le (recognised : Recognised text result) :
    result.length ≤ text.length := by
  cases recognised with
  | lineComment => exact Comment.runLength_le text
  | blockComment => exact Comment.blockLength_le text
  | moduleImport => exact Extent.line_le text
  | functionDecl | classDecl | methodDecl => exact Extent.braced_le text
  | variableDecl | assignment => exact Extent.statement_le ..

theorem classify_length_le (text : Text) : (classify text).length ≤ text.length := by
  by_cases nonempty : text = []
  · subst nonempty
    exact Nat.le_refl 0
  · rcases classify_cases nonempty with ⟨recognised, _⟩ | unknown
    · exact recognised.length_le
    · have row := Extent.line_le text
      have positive := List.length_pos_iff.mpr nonempty
      rw [unknown]
      simp only [Classified.unknownRow]
      omega

theorem classify_length_pos (nonempty : text ≠ []) : 0 < (classify text).length := by
  rcases classify_cases nonempty with ⟨_, positive⟩ | unknown
  · exact positive
  · rw [unknown]
    simp only [Classified.unknownRow]
    omega

/-! ## A block shows itself on its first row -/

theorem skip_of_visibleAfter (visible : VisibleAfter blanks text) :
    text = blanks ++ Header.skip text := by
  rw [Header.skip, ← visible.takeWhile_isSeparator, List.takeWhile_append_dropWhile]

namespace Comment

theorem exists_rows_of_mark (rest : Text) :
    ∃ first others, rows ("//" ++ rest) = ('/' :: '/' :: first) :: others := by
  obtain ⟨first, others, rowsEqual⟩ := List.exists_cons_of_ne_nil (rows_ne_nil rest)
  refine ⟨first, others, ?_⟩
  change rows ('/' :: '/' :: rest) = _
  rw [rows_cons (by decide), rows_cons (by decide), rowsEqual]
  rfl

theorem runLength_gt_blanks (visible : VisibleAfter blanks text)
    (found : startsWith "//" (Header.skip text) = true) : blanks.length < runLength text := by
  obtain ⟨rest, equal⟩ := startsWith_iff.mp found
  obtain ⟨row, others, firstRows⟩ := exists_rows_of_mark rest
  have bodyRows : rows (text.dropWhile isSeparator) = ('/' :: '/' :: row) :: others := by
    rw [← firstRows, ← equal]
    rfl
  have lineRow : isLineRow ('/' :: '/' :: row) = true := startsWith_iff.mpr ⟨row, rfl⟩
  have run := (unrows_isPrefix (List.prefix_append ['/' :: '/' :: row]
    (others.takeWhile isLineRow))).length_le
  simp only [runLength, visible.takeWhile_isSeparator, bodyRows, List.takeWhile_cons, lineRow,
    if_true]
  simp only [unrows, join, List.intercalate_singleton, List.length_cons,
    List.singleton_append] at run ⊢
  omega

theorem blockLength_gt_blanks (visible : VisibleAfter blanks text)
    (found : startsWith "/*" (Header.skip text) = true) : blanks.length < blockLength text := by
  obtain ⟨rest, equal⟩ := startsWith_iff.mp found
  have whole := skip_of_visibleAfter visible
  rw [equal, ← List.append_assoc] at whole
  have isFound := find?_isSome_of_append blanks "/*" rest
  rw [← whole] at isFound
  obtain ⟨offset, isFound⟩ := Option.isSome_iff_exists.mp isFound
  obtain ⟨before, after, split, rfl⟩ := eq_append_of_find? isFound
  have lead : blanks.length ≤ before.length := by
    rw [split, List.append_assoc] at visible
    exact visible.length_le_of_mark (by decide)
  simp only [blockLength, isFound, Option.getD_some]
  split
  · omega
  · exact visible.length_lt

end Comment

theorem Classified.assignedLength_gt_blanks (visible : VisibleAfter blanks text)
    (equals : '=' ∈ text) : blanks.length < assignedLength text := by
  obtain ⟨before, after, split, _, found⟩ := findChar?_of_mem equals
  have lead : blanks.length ≤ before.length := by
    rw [split] at visible
    exact visible.length_le_of_mark (by decide)
  have row := Extent.line_gt_blanks visible
  have size := visible.length_lt
  simp only [assignedLength, found, Option.map_some, Option.getD_some]
  rcases Extent.statement_eq_line_or_ge text (before.length + 1) with whole | reach
  · omega
  · omega

theorem Recognised.brace_mem (recognised : Recognised text result)
    (braced : result.kind = .functionDecl ∨ result.kind = .classDecl ∨
      result.kind = .methodDecl) : '{' ∈ text ∧ result.length = Extent.braced text := by
  cases recognised with
  | functionDecl found =>
      obtain ⟨rest, found⟩ := Option.isSome_iff_exists.mp found
      exact ⟨(Header.function?_suffix found).mem (List.mem_cons_self ..), rfl⟩
  | classDecl found =>
      obtain ⟨rest, found⟩ := Option.isSome_iff_exists.mp found
      exact ⟨(Header.class?_suffix found).mem (List.mem_cons_self ..), rfl⟩
  | methodDecl found =>
      obtain ⟨rest, found⟩ := Option.isSome_iff_exists.mp found
      exact ⟨(Header.method?_suffix found).mem (List.mem_cons_self ..), rfl⟩
  | lineComment | blockComment | moduleImport | variableDecl | assignment => simp at braced

theorem Recognised.gt_blanks (recognised : Recognised text result)
    (visible : VisibleAfter blanks text) : blanks.length < result.length := by
  cases recognised with
  | lineComment found => exact Comment.runLength_gt_blanks visible found
  | blockComment found => exact Comment.blockLength_gt_blanks visible found
  | moduleImport => exact Extent.line_gt_blanks visible
  | functionDecl found =>
      exact Extent.braced_gt_blanks visible ((functionDecl found).brace_mem (by simp)).1
  | variableDecl found =>
      exact Classified.assignedLength_gt_blanks visible (Header.equals_mem_of_variableStart? found)
  | classDecl found =>
      exact Extent.braced_gt_blanks visible ((classDecl found).brace_mem (by simp)).1
  | assignment found =>
      exact Classified.assignedLength_gt_blanks visible (Header.equals_mem_of_assignment? found)
  | methodDecl found =>
      exact Extent.braced_gt_blanks visible ((methodDecl found).brace_mem (by simp)).1

/-- A block cut off a visible text is visible on its first row. -/
theorem startsVisible_take_classify (visible : StartsVisible text) :
    StartsVisible (text.take (classify text).length) := by
  rw [startsVisible_iff] at visible ⊢
  obtain ⟨blanks, visible⟩ := visible
  refine ⟨blanks, visible.take ?_⟩
  have nonempty : text ≠ [] := List.ne_nil_of_length_pos (Nat.zero_lt_of_lt visible.length_lt)
  rcases classify_cases nonempty with ⟨recognised, _⟩ | unknown
  · exact recognised.gt_blanks visible
  · have row := Extent.line_gt_blanks visible
    rw [unknown]
    simp only [Classified.unknownRow]
    omega

/-! ## A block with a body holds its brace -/

theorem brace_mem_take_classify
    (braced : (classify text).kind = .functionDecl ∨ (classify text).kind = .classDecl ∨
      (classify text).kind = .methodDecl) : '{' ∈ text.take (classify text).length := by
  have nonempty : text ≠ [] := by
    rintro rfl
    simp [classify] at braced
  rcases classify_cases nonempty with ⟨recognised, _⟩ | unknown
  · obtain ⟨brace, length⟩ := recognised.brace_mem braced
    obtain ⟨before, after, rfl, fresh⟩ := List.eq_append_cons_of_mem brace
    have reach := Extent.braced_gt_brace fresh after
    rw [length, List.take_append, List.mem_append]
    right
    obtain ⟨extra, past⟩ : ∃ extra, Extent.braced (before ++ '{' :: after) - before.length =
        extra + 1 := ⟨_, (Nat.succ_pred_eq_of_pos (by omega)).symm⟩
    rw [past, List.take_succ_cons]
    exact List.mem_cons_self ..
  · simp [unknown, Classified.unknownRow] at braced

end Docweave
