import Docweave.Block.Basic
import Docweave.Proofs.Block.Header
import Docweave.Proofs.Text.Rows

/-!
# Where a body lies in its block

The body of a block is what follows the brace that opens it, without what closes it
and without the indentation its rows share.  So a body is shorter than the raw text of
its block, and its rows lie in the rows of the raw text, from the row of the brace on.
This holds for the first brace of a declaration and for the brace of an assigned
function, which is found by counting back from the end of the assigned value.
-/

namespace Docweave

open Text

variable {text rest raw parameters : Text}

/-! ## What closes a body -/

namespace Body

/-- The closing brace at the end of a row, with the semicolons after it and the blanks
around it, is a stretch without newlines. -/
theorem eq_append_of_closing {inner before : Text}
    (closing : dropTrailing isBlank (dropTrailing (· = ';') (dropTrailing isBlank inner)) =
      before ++ ['}']) :
    ∃ dropped, inner = dropTrailing isBlank before ++ dropped ∧ '\n' ∉ dropped := by
  obtain ⟨outside, outsideEqual, outsideBlank⟩ := eq_dropTrailing_append isBlank inner
  obtain ⟨marks, marksEqual, allMarks⟩ :=
    eq_dropTrailing_append (· = ';') (dropTrailing isBlank inner)
  obtain ⟨between, betweenEqual, betweenBlank⟩ :=
    eq_dropTrailing_append isBlank (dropTrailing (· = ';') (dropTrailing isBlank inner))
  obtain ⟨lead, leadEqual, leadBlank⟩ := eq_dropTrailing_append isBlank before
  refine ⟨lead ++ '}' :: (between ++ marks ++ outside), ?_, ?_⟩
  · calc inner = dropTrailing isBlank inner ++ outside := outsideEqual
      _ = before ++ ['}'] ++ between ++ marks ++ outside := by
          rw [marksEqual, betweenEqual, closing]
      _ = dropTrailing isBlank before ++ (lead ++ '}' :: (between ++ marks ++ outside)) := by
          rw [← List.append_assoc, ← leadEqual]
          simp
  · have noMark : '\n' ∉ marks := fun newline => by simpa using allMarks _ newline
    simp [newline_not_mem_of_blank leadBlank, newline_not_mem_of_blank betweenBlank,
      newline_not_mem_of_blank outsideBlank, noMark]

theorem cutFinalNewline_append (text : Text) :
    text = (cutFinalNewline text).1 ++ (cutFinalNewline text).2 := by
  rw [cutFinalNewline]
  split
  · rename_i last
    obtain ⟨before, rfl⟩ := List.getLast?_eq_some_iff.mp last
    simp
  · simp

theorem cutFinalNewline_newline (text : Text) :
    (cutFinalNewline text).2 = [] ∨ (cutFinalNewline text).2 = ['\n'] := by
  rw [cutFinalNewline]
  split
  · exact .inr rfl
  · exact .inl rfl

/-- Dropping what closes a body takes a stretch without newlines off the end, or from
before the newline that ends the text. -/
theorem dropClosing_cases (text : Text) :
    dropClosing text = text ∨ ∃ kept dropped newline,
      text = kept ++ dropped ++ newline ∧ dropClosing text = kept ++ newline ∧
        '\n' ∉ dropped ∧ (newline = [] ∨ newline = ['\n']) := by
  simp only [dropClosing]
  split
  · rename_i closing
    obtain ⟨before, beforeEqual⟩ := List.getLast?_eq_some_iff.mp closing
    obtain ⟨dropped, equal, noNewline⟩ := eq_append_of_closing beforeEqual
    refine .inr ⟨dropTrailing isBlank before, dropped, (cutFinalNewline text).2, ?_, ?_, noNewline,
      cutFinalNewline_newline text⟩
    · rw [← equal]
      exact cutFinalNewline_append text
    · rw [beforeEqual, List.dropLast_concat]
  · exact .inl rfl

theorem dropClosing_rowsLieIn (text : Text) : RowsLieIn (dropClosing text) 0 text := by
  rcases dropClosing_cases text with same | ⟨kept, dropped, newline, rfl, cut, noNewline, ending⟩
  · rw [same]
    exact .refl text
  · rw [cut]
    have inside := RowsLieIn.append_right kept dropped
    rcases ending with rfl | rfl
    · simpa using inside
    · exact inside.append_newline (by simp [List.count_eq_zero.mpr noNewline]) []

theorem length_dropClosing_le (text : Text) : (dropClosing text).length ≤ text.length := by
  rcases dropClosing_cases text with same | ⟨kept, dropped, newline, rfl, cut, _⟩
  · exact Nat.le_of_eq (congrArg List.length same)
  · rw [cut]
    simp

/-- A body that opens with a brace of the raw text. -/
theorem read_eq {head inner : Text} (row : Int) :
    read (head ++ '{' :: inner) (some head.length) row =
      ⟨deindent (dropClosing inner), row + head.count '\n'⟩ := by
  simp [read, bodyPart, headerPart]

end Body

/-! ## Assigned functions -/

namespace FunctionValue

theorem openBody?_suffix (found : openBody? text = some rest) : '{' :: rest <:+ text := by
  rw [openBody?, after?_eq_some] at found
  have suffix := List.dropWhile_suffix (l := text) isSpace
  rw [stripLeft] at found
  rwa [found] at suffix

theorem parentheses?_suffix (found : parentheses? text = some (parameters, rest)) :
    rest <:+ text := by
  simp only [parentheses?, Option.bind_eq_bind, Option.bind_eq_some_iff, Option.some.injEq,
    Prod.mk.injEq] at found
  obtain ⟨inside, readOpen, afterwards, readClose, _, rfl⟩ := found
  have closeSuffix := (suffix_of_after? readClose).trans (List.drop_suffix _ inside)
  exact closeSuffix.trans (suffix_of_after? readOpen)

theorem named?_suffix (found : named? text = some (parameters, rest)) : '{' :: rest <:+ text := by
  simp only [named?, Option.bind_eq_bind, Option.bind_eq_some_iff, Option.some.injEq,
    Prod.mk.injEq] at found
  obtain ⟨afterWord, readWord, ⟨inner, afterParameters⟩, readParameters, body, readBody, _, rfl⟩ :=
    found
  have nameSuffix : stripLeft ((stripLeft afterWord).dropWhile Header.isNameChar) <:+ afterWord :=
    (List.dropWhile_suffix _).trans
      ((List.dropWhile_suffix _).trans (List.dropWhile_suffix _))
  have wordSuffix := nameSuffix.trans (suffix_of_after? readWord)
  exact (openBody?_suffix readBody).trans ((parentheses?_suffix readParameters).trans wordSuffix)

theorem arrow?_suffix (found : arrow? text = some (parameters, rest)) : '{' :: rest <:+ text := by
  simp only [arrow?, Option.bind_eq_bind, Option.bind_eq_some_iff, Option.some.injEq,
    Prod.mk.injEq] at found
  obtain ⟨⟨inner, afterParameters⟩, readParameters, afterArrow, readArrow, body, readBody, _, rfl⟩ :=
    found
  have arrowSuffix := (suffix_of_after? readArrow).trans (List.dropWhile_suffix _)
  exact (openBody?_suffix readBody).trans (arrowSuffix.trans (parentheses?_suffix readParameters))

theorem bareArrow?_suffix (found : bareArrow? text = some (parameters, rest)) :
    '{' :: rest <:+ text := by
  simp only [bareArrow?, Option.bind_eq_bind, Option.bind_eq_some_iff, Option.some.injEq,
    Prod.mk.injEq] at found
  obtain ⟨afterName, readName, afterArrow, readArrow, body, readBody, _, rfl⟩ := found
  have arrowSuffix := (suffix_of_after? readArrow).trans (List.dropWhile_suffix _)
  exact (openBody?_suffix readBody).trans (arrowSuffix.trans (Header.suffix_of_some? readName))

theorem synchronous?_suffix (found : synchronous? text = some (parameters, rest)) :
    '{' :: rest <:+ text := by
  simp only [synchronous?, Option.orElse_eq_orElse, Option.orElse_eq_or,
    Option.or_eq_some_iff] at found
  rcases found with named | ⟨_, arrow | ⟨_, bare⟩⟩
  · exact named?_suffix named
  · exact arrow?_suffix arrow
  · exact bareArrow?_suffix bare

/-- A function expression is read up to the brace that opens its body. -/
theorem header?_suffix (found : header? text = some (parameters, rest)) :
    '{' :: rest <:+ text := by
  simp only [header?, Option.orElse_eq_orElse, Option.orElse_eq_or, Option.or_eq_some_iff,
    Option.bind_eq_bind, Option.bind_eq_some_iff] at found
  rcases found with ⟨afterWord, readWord, value, readBlanks, read⟩ | ⟨_, read⟩
  · have wordSuffix := (Header.suffix_of_some? readBlanks).trans (suffix_of_after? readWord)
    exact (synchronous?_suffix read).trans wordSuffix
  · exact synchronous?_suffix read

end FunctionValue

/-- The value of an assignment starts what follows the equals sign, white space apart. -/
theorem value_isPrefix (assigned : Text) :
    stripRight (dropTrailing (· = ';') (strip assigned)) <+: stripLeft assigned :=
  (dropTrailing_isPrefix isSpace _).trans
    ((dropTrailing_isPrefix _ _).trans (dropTrailing_isPrefix isSpace _))

/-- The text after the equals sign is the end of the raw text. -/
theorem Body.bodyPart_suffix (raw : Text) (mark : Option Nat) : bodyPart raw mark <:+ raw := by
  cases mark with
  | none => exact List.suffix_refl raw
  | some offset => exact List.drop_suffix (offset + 1) raw

namespace Block

/-- `body` is what follows a brace of the raw text, and its row is that of the brace. -/
def OpensAtBrace (block : Block) (body : Body) : Prop :=
  ∃ head inner, block.raw = head ++ '{' :: inner ∧
    body = ⟨deindent (Body.dropClosing inner), block.row + head.count '\n'⟩

/-- A declaration that has a body holds a brace. -/
def HoldsBrace (block : Block) : Prop :=
  block.kind = .functionDecl ∨ block.kind = .classDecl ∨ block.kind = .methodDecl →
    '{' ∈ block.raw

variable {block : Block} {body : Body}

theorem opensAtBrace_first (brace : '{' ∈ block.raw) :
    block.OpensAtBrace (Body.read block.raw (findChar? '{' block.raw) block.row) := by
  obtain ⟨head, inner, equal, _, found⟩ := findChar?_of_mem brace
  refine ⟨head, inner, equal, ?_⟩
  rw [found, equal]
  exact Body.read_eq block.row

theorem opensAtBrace_assigned {value : FunctionValue}
    (found : (AssignmentInfo.read block.raw block.row).function = some value) :
    block.OpensAtBrace value.body := by
  simp only [AssignmentInfo.read] at found
  split at found
  · cases found
  · rename_i parameters rest header
    cases found
    -- The raw text is what stands before the value, the value, and what was stripped off it.
    obtain ⟨front, frontEqual⟩ := FunctionValue.header?_suffix header
    obtain ⟨tail, tailEqual⟩ :=
      value_isPrefix (Body.bodyPart block.raw (findChar? '=' block.raw))
    obtain ⟨start, startEqual⟩ :=
      (List.dropWhile_suffix isSpace).trans
        (Body.bodyPart_suffix block.raw (findChar? '=' block.raw))
    rw [← stripLeft, ← tailEqual, ← frontEqual] at startEqual
    refine ⟨start ++ front, rest ++ tail, by simpa using startEqual.symm, ?_⟩
    rw [← tailEqual, ← frontEqual]
    have brace : block.raw.length - (front ++ '{' :: rest ++ tail).length +
        ((front ++ '{' :: rest).length - rest.length) - 1 = (start ++ front).length := by
      rw [← startEqual]
      simp only [List.length_append, List.length_cons]
      omega
    rw [brace]
    have whole : block.raw = (start ++ front) ++ '{' :: (rest ++ tail) := by
      simpa using startEqual.symm
    rw [whole]
    exact Body.read_eq block.row

/-- Every body of a block that holds its brace opens at a brace. -/
theorem HoldsBrace.opensAtBrace (holds : block.HoldsBrace) (found : block.body? = some body) :
    block.OpensAtBrace body := by
  cases kind : block.kind with
  | functionDecl =>
      simp only [body?, info, kind, BlockInfo.read, Option.some.injEq] at found
      subst found
      exact opensAtBrace_first (holds (by simp [kind]))
  | classDecl =>
      simp only [body?, info, kind, BlockInfo.read, Option.some.injEq] at found
      subst found
      exact opensAtBrace_first (holds (by simp [kind]))
  | methodDecl =>
      simp only [body?, info, kind, BlockInfo.read, Option.some.injEq] at found
      subst found
      exact opensAtBrace_first (holds (by simp [kind]))
  | assignment =>
      simp only [body?, info, kind, BlockInfo.read, Option.map_eq_some_iff] at found
      obtain ⟨value, read, rfl⟩ := found
      exact opensAtBrace_assigned read
  | lineComment | blockComment | moduleImport | variableDecl | unknown =>
      simp [body?, info, kind, BlockInfo.read] at found

theorem OpensAtBrace.length_lt (opens : block.OpensAtBrace body) :
    body.text.length < block.raw.length := by
  obtain ⟨head, inner, equal, rfl⟩ := opens
  have deindented := length_deindent_le (Body.dropClosing inner)
  have closed := Body.length_dropClosing_le inner
  rw [equal]
  simp only [List.length_append, List.length_cons]
  omega

/-- The rows of a body lie in the rows of its block, from the row of the brace on. -/
theorem OpensAtBrace.rowsLieIn (opens : block.OpensAtBrace body) :
    ∃ offset : Nat, body.row = block.row + offset ∧ RowsLieIn body.text offset block.raw := by
  obtain ⟨head, inner, equal, rfl⟩ := opens
  refine ⟨head.count '\n', rfl, ?_⟩
  have cut := (deindent_rowsLieIn (Body.dropClosing inner)).trans (Body.dropClosing_rowsLieIn inner)
  have placed := RowsLieIn.append_left (head ++ ['{']) inner
  rw [equal]
  simpa using cut.trans placed

end Block

end Docweave
