import Docweave.Text.Indent
import Docweave.Proofs.Text.Cut

/-!
# Laws of rows

The rows of a text are its pieces between newlines, so there is one more of them
than there are newlines, and joining them gives the text back.  The relation
`RowsLieIn` says where the rows of a stretch of text are found in the text it was
taken from.  It composes, and it survives the two changes that are made to the
body of a block before that is read: dropping what closes it and taking its shared
indentation off.
-/

namespace Docweave.Text

variable {part whole outer text : Text} {offset index : Nat}

/-! ## Rows and newlines -/

theorem splitChar_eq_splitOn (separator : Char) (text : Text) :
    splitChar separator text = text.splitOn separator := by
  induction text with
  | nil => rfl
  | cons char rest ih =>
      simp only [splitChar, List.splitOn_cons_eq_if_modifyHead, beq_iff_eq, ih]
      split
      · rfl
      · cases pieces : rest.splitOn separator with
        | nil => exact absurd pieces (List.splitOn_ne_nil separator rest)
        | cons piece pieces => rfl

/-- The pieces of a text joined again are the text. -/
theorem join_splitChar (separator : Char) (text : Text) :
    join [separator] (splitChar separator text) = text := by
  rw [splitChar_eq_splitOn, join, List.intercalate_splitOn]

theorem splitChar_ne_nil (separator : Char) (text : Text) : splitChar separator text ≠ [] := by
  rw [splitChar_eq_splitOn]
  exact List.splitOn_ne_nil separator text

theorem splitChar_cons {separator char : Char} (other : char ≠ separator) (text : Text) :
    splitChar separator (char :: text) = (splitChar separator text).modifyHead (char :: ·) := by
  simp only [splitChar_eq_splitOn, List.splitOn_cons_eq_if_modifyHead, beq_iff_eq, if_neg other]

@[simp] theorem rows_nil : rows [] = [[]] := rfl

@[simp] theorem rows_newline (text : Text) : rows ('\n' :: text) = [] :: rows text := by
  simp [rows, splitChar]

theorem rows_cons {char : Char} (notNewline : char ≠ '\n') (text : Text) :
    rows (char :: text) = (rows text).modifyHead (char :: ·) :=
  splitChar_cons notNewline text

theorem rows_ne_nil (text : Text) : rows text ≠ [] := splitChar_ne_nil '\n' text

theorem rows_append_newline (before after : Text) :
    rows (before ++ '\n' :: after) = rows before ++ rows after := by
  simp only [rows, splitChar_eq_splitOn]
  exact List.splitOn_append_cons_self before after

@[simp] theorem length_rows (text : Text) : (rows text).length = text.count '\n' + 1 := by
  induction text with
  | nil => rfl
  | cons char rest ih =>
      by_cases newline : char = '\n'
      · subst newline
        simp [ih]
      · rw [rows_cons newline, List.length_modifyHead, ih, List.count_cons_of_ne newline]

theorem unrows_rows (text : Text) : unrows (rows text) = text := join_splitChar '\n' text

/-- No piece of a text holds the character at which it is cut. -/
theorem not_mem_of_mem_splitChar {separator : Char} {piece : Text}
    (membership : piece ∈ splitChar separator text) : separator ∉ piece := by
  induction text generalizing piece with
  | nil => simp_all [splitChar]
  | cons char rest ih =>
      by_cases here : char = separator
      · rw [splitChar, if_pos here, List.mem_cons] at membership
        rcases membership with rfl | inRest
        · simp
        · exact ih inRest
      · rw [splitChar_cons here] at membership
        cases pieces : splitChar separator rest with
        | nil => exact absurd pieces (splitChar_ne_nil separator rest)
        | cons first pieces =>
            rw [pieces, List.modifyHead_cons, List.mem_cons] at membership
            rcases membership with rfl | inRest
            · have fresh : separator ∉ first := ih (by simp [pieces])
              simp [fresh, Ne.symm here]
            · exact ih (by simp [pieces, inRest])

theorem newline_not_mem_of_mem_rows {row : Text} (membership : row ∈ rows text) : '\n' ∉ row :=
  not_mem_of_mem_splitChar membership

/-- Rows that hold no newline are the rows of the text they are joined to. -/
theorem rows_unrows {pieces : List Text} (noNewline : ∀ piece ∈ pieces, '\n' ∉ piece)
    (nonempty : pieces ≠ []) : rows (unrows pieces) = pieces := by
  rw [rows, splitChar_eq_splitOn]
  exact List.splitOn_intercalate '\n' noNewline nonempty

/-- Rows from the first on make up a text that starts the whole. -/
theorem unrows_isPrefix {pieces others : List Text} (starts : pieces <+: others) :
    unrows pieces <+: unrows others := by
  obtain ⟨added, rfl⟩ := starts
  induction pieces with
  | nil => exact List.nil_prefix
  | cons piece pieces ih =>
      cases pieces with
      | nil =>
          cases added with
          | nil => exact List.prefix_refl _
          | cons next added =>
              simp only [unrows, join, List.cons_append, List.nil_append,
                List.intercalate_singleton, List.intercalate_cons_cons]
              exact ⟨['\n'] ++ List.intercalate ['\n'] (next :: added), by simp⟩
      | cons next pieces =>
          simp only [unrows, join, List.cons_append, List.intercalate_cons_cons] at ih ⊢
          exact (List.prefix_append_right_inj (piece ++ ['\n'])).mpr ih

/-! ## Visible rows -/

/-- The first row of the text holds a character that is neither blank nor newline. -/
def StartsVisible (text : Text) : Prop :=
  ∃ char ∈ (rows text).headD [], isSeparator char = false

/-- The text is `blanks`, then a character that is neither blank nor newline, then
anything. -/
def VisibleAfter (blanks text : Text) : Prop :=
  ∃ char rest, text = blanks ++ char :: rest ∧ (∀ blank ∈ blanks, isBlank blank = true) ∧
    isSeparator char = false

theorem isSeparator_of_isBlank {char : Char} (blank : isBlank char = true) :
    isSeparator char = true := by
  simp [isSeparator, blank]

theorem ne_newline_of_isBlank {char : Char} (blank : isBlank char = true) : char ≠ '\n' := by
  rintro rfl
  simp [isBlank] at blank

theorem newline_not_mem_of_blank {blanks : Text}
    (allBlank : ∀ char ∈ blanks, isBlank char = true) : '\n' ∉ blanks :=
  fun newline => ne_newline_of_isBlank (allBlank _ newline) rfl

theorem startsVisible_iff : StartsVisible text ↔ ∃ blanks, VisibleAfter blanks text := by
  induction text with
  | nil => simp [StartsVisible, VisibleAfter]
  | cons char tail ih =>
      by_cases newline : char = '\n'
      · subst newline
        simp only [StartsVisible, rows_newline, List.headD_cons, List.not_mem_nil, false_and,
          exists_false, false_iff]
        rintro ⟨blanks, first, rest, equal, blank, visible⟩
        cases blanks with
        | nil =>
            simp only [List.nil_append, List.cons.injEq] at equal
            simp [← equal.1, isSeparator] at visible
        | cons head blanks =>
            simp only [List.cons_append, List.cons.injEq] at equal
            exact ne_newline_of_isBlank (blank head (by simp)) equal.1.symm
      · have first : (rows (char :: tail)).headD [] = char :: (rows tail).headD [] := by
          rw [rows_cons newline]
          cases pieces : rows tail with
          | nil => exact absurd pieces (rows_ne_nil tail)
          | cons piece pieces => rfl
        by_cases separator : isSeparator char = true
        · have blank : isBlank char = true := by
            simpa [isSeparator, newline] using separator
          simp only [StartsVisible, first, List.mem_cons, exists_eq_or_imp, separator,
            Bool.true_eq_false, false_or] at ih ⊢
          rw [ih]
          constructor
          · rintro ⟨blanks, visible, rest, rfl, allBlank, notSeparator⟩
            refine ⟨char :: blanks, visible, rest, rfl, ?_, notSeparator⟩
            simpa [blank] using allBlank
          · rintro ⟨blanks, visible, rest, equal, allBlank, notSeparator⟩
            cases blanks with
            | nil =>
                simp only [List.nil_append, List.cons.injEq] at equal
                simp [← equal.1, separator] at notSeparator
            | cons head blanks =>
                simp only [List.cons_append, List.cons.injEq] at equal
                exact ⟨blanks, visible, rest, equal.2, fun blank inBlanks =>
                  allBlank blank (by simp [inBlanks]), notSeparator⟩
        · have visible : isSeparator char = false := by simpa using separator
          constructor
          · intro _
            exact ⟨[], char, tail, rfl, by simp, visible⟩
          · intro _
            refine ⟨char, ?_, visible⟩
            rw [first]
            exact List.mem_cons_self ..

namespace VisibleAfter

variable {blanks : Text}

theorem length_lt (visible : VisibleAfter blanks text) : blanks.length < text.length := by
  obtain ⟨char, rest, rfl, _, _⟩ := visible
  simp

/-- A mark that is no blank cannot stand among the blanks. -/
theorem length_le_of_mark {before after : Text} {mark : Char}
    (visible : VisibleAfter blanks (before ++ mark :: after)) (notBlank : isBlank mark = false) :
    blanks.length ≤ before.length := by
  obtain ⟨char, rest, equal, allBlank, _⟩ := visible
  apply Nat.le_of_not_lt
  intro shorter
  have inBlanks : blanks[before.length]? = some mark := by
    have found := congrArg (fun text => text[before.length]?) equal
    simpa [List.getElem?_append_left shorter] using found.symm
  have blank := allBlank mark (List.mem_of_getElem? inBlanks)
  rw [notBlank] at blank
  cases blank

theorem take {length : Nat} (visible : VisibleAfter blanks text)
    (reaches : blanks.length < length) : VisibleAfter blanks (text.take length) := by
  obtain ⟨char, rest, rfl, allBlank, notSeparator⟩ := visible
  refine ⟨char, rest.take (length - blanks.length - 1), ?_, allBlank, notSeparator⟩
  obtain ⟨extra, rfl⟩ : ∃ extra, length = blanks.length + (extra + 1) :=
    ⟨length - blanks.length - 1, by omega⟩
  rw [List.take_length_add_append, List.take_succ_cons]
  congr 3
  omega

theorem takeWhile_isSeparator (visible : VisibleAfter blanks text) :
    text.takeWhile isSeparator = blanks := by
  obtain ⟨char, rest, rfl, allBlank, notSeparator⟩ := visible
  exact takeWhile_append_of_outside
    (fun blank inBlanks => isSeparator_of_isBlank (allBlank blank inBlanks)) notSeparator rest

/-- The first row reaches past the blanks. -/
theorem length_lt_row (visible : VisibleAfter blanks text) :
    blanks.length < (text.takeWhile (· ≠ '\n')).length := by
  obtain ⟨char, rest, rfl, allBlank, notSeparator⟩ := visible
  have inRow : ∀ blank ∈ blanks, decide (blank ≠ '\n') = true := by
    intro blank inBlanks
    simpa using ne_newline_of_isBlank (allBlank blank inBlanks)
  have notNewline : char ≠ '\n' := by
    rintro rfl
    simp [isSeparator] at notSeparator
  rw [List.takeWhile_append_of_pos inRow]
  simp [notNewline]

end VisibleAfter

/-! ## Where the rows of a part lie -/

/-- Each row of `part` lies in the row of `whole` that is `offset` rows further
down. -/
def RowsLieIn (part : Text) (offset : Nat) (whole : Text) : Prop :=
  ∀ index row, (rows part)[index]? = some row →
    ∃ source, (rows whole)[offset + index]? = some source ∧ row <:+: source

namespace RowsLieIn

theorem refl (text : Text) : RowsLieIn text 0 text := by
  intro index row found
  exact ⟨row, by simpa using found, List.infix_refl row⟩

theorem trans {inner : Nat} (first : RowsLieIn part inner whole)
    (second : RowsLieIn whole offset outer) : RowsLieIn part (offset + inner) outer := by
  intro index row found
  obtain ⟨middle, inWhole, within⟩ := first index row found
  obtain ⟨source, inOuter, around⟩ := second (inner + index) middle inWhole
  refine ⟨source, ?_, within.trans around⟩
  rw [Nat.add_assoc]
  exact inOuter

/-- Text added at the end only lengthens the last row or adds rows after it. -/
theorem prefix_row_append (part after : Text) :
    ∀ (index : Nat) row, (rows part)[index]? = some row →
      ∃ source, (rows (part ++ after))[index]? = some source ∧ row <+: source := by
  induction part with
  | nil =>
      intro index row found
      cases index with
      | zero =>
          simp only [rows_nil, List.getElem?_cons_zero, Option.some.injEq] at found
          subst found
          cases pieces : rows after with
          | nil => exact absurd pieces (rows_ne_nil after)
          | cons piece pieces => exact ⟨piece, by simp [pieces], List.nil_prefix⟩
      | succ index => simp at found
  | cons char part ih =>
      intro index row found
      by_cases newline : char = '\n'
      · subst newline
        rw [rows_newline] at found
        rw [List.cons_append, rows_newline]
        cases index with
        | zero => exact ⟨[], rfl, by simpa using found.symm⟩
        | succ index => exact ih index row found
      · rw [rows_cons newline] at found
        rw [List.cons_append, rows_cons newline]
        cases index with
        | zero =>
            simp only [List.getElem?_modifyHead_zero, Option.map_eq_some_iff] at found ⊢
            obtain ⟨piece, inPart, rfl⟩ := found
            obtain ⟨source, inWhole, starts⟩ := ih 0 piece inPart
            exact ⟨char :: source, ⟨source, inWhole, rfl⟩, (List.prefix_cons_inj char).mpr starts⟩
        | succ index =>
            rw [List.getElem?_modifyHead_succ] at found ⊢
            exact ih (index + 1) row found

theorem append_right (part after : Text) : RowsLieIn part 0 (part ++ after) := by
  intro index row found
  obtain ⟨source, inWhole, starts⟩ := prefix_row_append part after index row found
  exact ⟨source, by simpa using inWhole, starts.isInfix⟩

/-- Text added in front moves every row down by the newlines it holds. -/
theorem append_left (before part : Text) :
    RowsLieIn part (before.count '\n') (before ++ part) := by
  induction before with
  | nil => exact refl part
  | cons char before ih =>
      intro index row found
      obtain ⟨source, inWhole, within⟩ := ih index row found
      by_cases newline : char = '\n'
      · subst newline
        refine ⟨source, ?_, within⟩
        rw [List.count_cons_self, List.cons_append, rows_newline, Nat.add_right_comm]
        exact inWhole
      · rw [List.count_cons_of_ne newline, List.cons_append, rows_cons newline]
        -- Only the first row of what follows is lengthened by the new character.
        cases position : before.count '\n' + index with
        | zero =>
            rw [position] at inWhole
            refine ⟨char :: source, ?_, within.trans (List.suffix_cons ..).isInfix⟩
            rw [List.getElem?_modifyHead_zero, inWhole, Option.map_some]
        | succ position' =>
            rw [position] at inWhole
            exact ⟨source, by simpa using inWhole, within⟩

/-- Rows added after a newline on both sides lie in each other. -/
theorem append_newline (inside : RowsLieIn part 0 whole)
    (sameCount : part.count '\n' = whole.count '\n') (tail : Text) :
    RowsLieIn (part ++ '\n' :: tail) 0 (whole ++ '\n' :: tail) := by
  intro index row found
  have sameLength : (rows part).length = (rows whole).length := by
    rw [length_rows, length_rows, sameCount]
  rw [rows_append_newline] at found
  rw [rows_append_newline, Nat.zero_add]
  by_cases inPart : index < (rows part).length
  · rw [List.getElem?_append_left inPart] at found
    rw [List.getElem?_append_left (sameLength ▸ inPart)]
    simpa using inside index row found
  · rw [List.getElem?_append_right (Nat.le_of_not_lt inPart)] at found
    rw [List.getElem?_append_right (sameLength ▸ Nat.le_of_not_lt inPart), ← sameLength]
    exact ⟨row, found, List.infix_refl row⟩

/-- Rows that are each cut down within themselves stay where they are. -/
theorem unrows_map {change : Text → Text} (cuts : ∀ row, change row <:+: row) (text : Text) :
    RowsLieIn (unrows ((rows text).map change)) 0 text := by
  have noNewline : ∀ piece ∈ (rows text).map change, '\n' ∉ piece := by
    intro piece membership
    rw [List.mem_map] at membership
    obtain ⟨row, inText, rfl⟩ := membership
    exact fun newline => newline_not_mem_of_mem_rows inText ((cuts row).subset newline)
  have nonempty : (rows text).map change ≠ [] := by
    simp [rows_ne_nil]
  intro index row found
  rw [rows_unrows noNewline nonempty, List.getElem?_map, Option.map_eq_some_iff] at found
  obtain ⟨source, inText, rfl⟩ := found
  exact ⟨source, by simpa using inText, cuts source⟩

end RowsLieIn

/-! ## Indentation -/

theorem dropIndent_suffix (indent row : Text) : dropIndent indent row <:+ row := by
  rw [dropIndent]
  split
  · rename_i rest found
    exact suffix_of_after? found
  · exact List.dropWhile_suffix isBlank

theorem deindent_rowsLieIn (text : Text) : RowsLieIn (deindent text) 0 text :=
  .unrows_map (fun row => (dropIndent_suffix _ row).isInfix) text

theorem length_unrows_map_le {change : Text → Text}
    (shortens : ∀ row, (change row).length ≤ row.length) (pieces : List Text) :
    (unrows (pieces.map change)).length ≤ (unrows pieces).length := by
  induction pieces with
  | nil => simp
  | cons piece pieces ih =>
      cases pieces with
      | nil => simpa [unrows, join] using shortens piece
      | cons next pieces =>
          have shorter := shortens piece
          simp only [unrows, join, List.map_cons, List.intercalate_cons_cons,
            List.length_append] at ih ⊢
          omega

theorem count_unrows_map {char : Char} {change : Text → Text} {pieces : List Text}
    (keeps : ∀ piece ∈ pieces, (change piece).count char = piece.count char) :
    (unrows (pieces.map change)).count char = (unrows pieces).count char := by
  induction pieces with
  | nil => rfl
  | cons piece pieces ih =>
      have first := keeps piece List.mem_cons_self
      have others := ih fun other membership => keeps other (List.mem_cons_of_mem _ membership)
      cases pieces with
      | nil => simpa [unrows, join] using first
      | cons next pieces =>
          simp only [unrows, join, List.map_cons, List.intercalate_cons_cons,
            List.count_append] at others ⊢
          omega

theorem commonPrefix_isPrefix (first second : Text) : commonPrefix first second <+: first := by
  induction first generalizing second with
  | nil => exact List.nil_prefix
  | cons char first ih =>
      cases second with
      | nil => exact List.nil_prefix
      | cons other second =>
          rw [commonPrefix]
          split
          · exact (List.prefix_cons_inj char).mpr (ih second)
          · exact List.nil_prefix

/-- The shared indentation is a run of blanks. -/
theorem isBlank_of_mem_commonIndent {char : Char} {pieces : List Text}
    (membership : char ∈ commonIndent pieces) : isBlank char = true := by
  rw [commonIndent] at membership
  split at membership
  · cases membership
  · rename_i row others _
    have shared : ∀ (others : List Text) (indent : Text),
        others.foldl (fun shared other => commonPrefix shared (indentOf other)) indent <+: indent := by
      intro others
      induction others with
      | nil => exact List.prefix_refl
      | cons other others ih =>
          intro indent
          exact (ih _).trans (commonPrefix_isPrefix indent _)
    exact mem_takeWhile_inClass ((shared others (indentOf row)).subset membership)

/-- Indentation is made of blanks, so all other characters are kept. -/
theorem count_deindent {char : Char} (visible : isBlank char = false) (text : Text) :
    (deindent text).count char = text.count char := by
  have noBlank {blanks : Text} (inside : ∀ other ∈ blanks, isBlank other = true) :
      blanks.count char = 0 := by
    rw [List.count_eq_zero]
    intro membership
    rw [inside char membership] at visible
    cases visible
  have keeps (row : Text) : (dropIndent (commonIndent (rows text)) row).count char = row.count char := by
    rw [dropIndent]
    split
    · rename_i rest found
      rw [after?_eq_some.mp found, List.count_append,
        noBlank fun _ => isBlank_of_mem_commonIndent, Nat.zero_add]
    · rw [← List.takeWhile_append_dropWhile (p := isBlank) (l := row), List.count_append,
        noBlank fun _ => mem_takeWhile_inClass, Nat.zero_add,
        List.takeWhile_append_dropWhile]
  rw [deindent, count_unrows_map fun row _ => keeps row, unrows_rows]

theorem length_deindent_le (text : Text) : (deindent text).length ≤ text.length := by
  have shorter := length_unrows_map_le
    (fun row => (dropIndent_suffix (commonIndent (rows text)) row).length_le) (rows text)
  rwa [unrows_rows] at shorter

end Docweave.Text
