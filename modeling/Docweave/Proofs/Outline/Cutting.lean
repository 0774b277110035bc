import Docweave.Outline
import Docweave.Proofs.Block.Body
import Docweave.Proofs.Block.Classified

/-!
# Cutting a text into blocks

One cut takes a block, the end of its row and the blank rows after it off a text.  The
pieces together are the text again, at least one character is taken, and what remains
is empty or visible on its first row.  So cutting comes to an end by itself: the
allowance of steps that `membersFrom` carries is never used up, and the blocks of an
opened body are those that parsing the body alone gives.
-/

namespace Docweave.Outline

open Text

variable {text : Text} {note : Option Block} {blanks : Nat} {row : Int} {block : Block}

/-! ## Gaps and row ends -/

theorem gap_isPrefix (text : Text) : gap text <+: text := by
  simp only [gap]
  split
  · exact List.takeWhile_prefix isSeparator
  · exact (dropTrailing_isPrefix isBlank _).trans (List.takeWhile_prefix isSeparator)

theorem gap_append_drop (text : Text) : text = gap text ++ text.drop (gap text).length :=
  (List.prefix_iff_eq_append.mp (gap_isPrefix text)).symm

/-- After a gap the text is at its end or visible on its first row. -/
theorem visible_drop_gap (text : Text) :
    text.drop (gap text).length = [] ∨ StartsVisible (text.drop (gap text).length) := by
  have whole := List.takeWhile_append_dropWhile (p := isSeparator) (l := text)
  simp only [gap]
  split
  · rename_i all
    left
    rw [all]
    exact List.drop_length
  · rename_i shorter
    right
    cases visible : text.dropWhile isSeparator with
    | nil =>
        rw [visible, List.append_nil] at whole
        exact absurd (congrArg List.length whole) shorter
    | cons char rest =>
        obtain ⟨lead, leadEqual, leadBlank⟩ :=
          eq_dropTrailing_append isBlank (text.takeWhile isSeparator)
        rw [startsVisible_iff]
        refine ⟨lead, char, rest, ?_, leadBlank, not_inClass_of_dropWhile visible⟩
        rw [visible, leadEqual, List.append_assoc] at whole
        exact drop_of_append whole.symm

/-- A text that starts with something visible has no gap. -/
theorem gap_eq_nil {char : Char} {rest : Text} (visible : isSeparator char = false) :
    gap (char :: rest) = [] := by
  simp [gap, visible, dropTrailing]

/-- A row end holds its newline at the end or not at all.  In the second case no gap
follows it. -/
theorem rowEnd_cases (text : Text) :
    ∃ rest, text = rowEnd text ++ rest ∧
      ((∃ blanks, rowEnd text = blanks ++ ['\n'] ∧ '\n' ∉ blanks) ∨
        ('\n' ∉ rowEnd text ∧ gap rest = [])) := by
  have whole := List.takeWhile_append_dropWhile (p := isBlank) (l := text)
  have noNewline : '\n' ∉ text.takeWhile isBlank :=
    newline_not_mem_of_blank fun char membership => mem_takeWhile_inClass membership
  simp only [rowEnd, drop_of_append whole.symm]
  split
  · rename_i rest newline
    refine ⟨rest, ?_, .inl ⟨text.takeWhile isBlank, rfl, noNewline⟩⟩
    rw [newline] at whole
    simpa using whole.symm
  · rename_i notNewline
    refine ⟨text.dropWhile isBlank, whole.symm, .inr ⟨noNewline, ?_⟩⟩
    cases after : text.dropWhile isBlank with
    | nil => rfl
    | cons char rest =>
        have notBlank := not_inClass_of_dropWhile after
        have different : char ≠ '\n' := by
          rintro rfl
          exact notNewline rest after
        exact gap_eq_nil (by simp [isSeparator, notBlank, different])

/-! ## One cut -/

/-- What is known of a block that is cut off a text, and of the rest. -/
structure IsCut (blanks : Nat) (row : Int) (text : Text) (block : Block) (rest : Text) : Prop where
  append : text = block.raw ++ block.lineEnd ++ block.gapAfter ++ rest
  row_eq : block.row = row
  blankBefore_eq : block.blankBefore = blanks
  blankAfter_eq : block.blankAfter = block.gapAfter.count '\n'
  count_lineEnd : block.lineEnd.count '\n' = if block.endsRow then 1 else 0
  endsRow_of_blank : 0 < block.blankAfter → block.endsRow = true
  raw_pos : text ≠ [] → 0 < block.raw.length
  raw_visible : StartsVisible text → StartsVisible block.raw
  rest_visible : rest = [] ∨ StartsVisible rest
  holdsBrace : block.HoldsBrace

theorem cutBlock_isCut (blanks : Nat) (row : Int) (text : Text) :
    IsCut blanks row text (cutBlock blanks row text).1 (cutBlock blanks row text).2 := by
  obtain ⟨afterRow, rowSplit, ending⟩ := rowEnd_cases (text.drop (classify text).length)
  have cut : cutBlock blanks row text =
      (⟨(classify text).kind, text.take (classify text).length, row, blanks,
        (gap afterRow).count '\n', rowEnd (text.drop (classify text).length), gap afterRow⟩,
        afterRow.drop (gap afterRow).length) := by
    simp only [cutBlock, drop_of_append rowSplit]
  rw [cut]
  refine
    { append := ?_, row_eq := rfl, blankBefore_eq := rfl, blankAfter_eq := rfl,
      count_lineEnd := ?_, endsRow_of_blank := ?_, raw_pos := ?_,
      raw_visible := startsVisible_take_classify, rest_visible := visible_drop_gap afterRow,
      holdsBrace := brace_mem_take_classify }
  · calc text = text.take (classify text).length ++ text.drop (classify text).length :=
          (List.take_append_drop ..).symm
      _ = text.take (classify text).length ++
          (rowEnd (text.drop (classify text).length) ++ afterRow) := by rw [← rowSplit]
      _ = _ := by
          conv => lhs; rw [gap_append_drop afterRow]
          simp only [List.append_assoc]
  · rcases ending with ⟨blanks, newline, fresh⟩ | ⟨fresh, _⟩
    · have ends : endsWith ['\n'] (blanks ++ ['\n']) = true :=
        endsWith_singleton.mpr ⟨blanks, rfl⟩
      simp [Block.endsRow, newline, ends, List.count_eq_zero.mpr fresh]
    · have ends : ¬ endsWith ['\n'] (rowEnd (text.drop (classify text).length)) = true := by
        rw [endsWith_singleton]
        rintro ⟨before, equal⟩
        rw [equal] at fresh
        simp at fresh
      simp [Block.endsRow, ends, List.count_eq_zero.mpr fresh]
  · intro blank
    rcases ending with ⟨blanks, newline, _⟩ | ⟨_, noGap⟩
    · exact endsWith_singleton.mpr ⟨blanks, newline⟩
    · simp [noGap] at blank
  · intro nonempty
    have positive := classify_length_pos nonempty
    have size := List.length_pos_iff.mpr nonempty
    simp only [List.length_take]
    omega

namespace IsCut

variable {rest : Text}

theorem raw_length_le (cut : IsCut blanks row text block rest) :
    block.raw.length ≤ text.length := by
  rw [cut.append]
  simp only [List.length_append]
  omega

theorem rest_length_lt (cut : IsCut blanks row text block rest) (nonempty : text ≠ []) :
    rest.length < text.length := by
  have positive := cut.raw_pos nonempty
  have size := congrArg List.length cut.append
  simp only [List.length_append] at size
  omega

/-- The body of a block is shorter than the text that the block was cut off. -/
theorem body_length_lt (cut : IsCut blanks row text block rest) {body : Body}
    (found : block.body? = some body) : body.text.length < text.length :=
  Nat.lt_of_lt_of_le (cut.holdsBrace.opensAtBrace found).length_lt cut.raw_length_le

end IsCut

/-! ## All cuts -/

/-- More steps than the text has characters give no more blocks. -/
theorem membersFrom_fuel {fuel other : Nat} (enough : text.length ≤ fuel)
    (alsoEnough : text.length ≤ other) :
    membersFrom fuel note blanks row text = membersFrom other note blanks row text := by
  induction fuel generalizing other note blanks row text with
  | zero =>
      have empty : text = [] := List.length_eq_zero_iff.mp (Nat.le_zero.mp enough)
      subst empty
      cases other <;> rfl
  | succ fuel ih =>
      by_cases empty : text = []
      · subst empty
        cases other <;> rfl
      · obtain ⟨other, rfl⟩ : ∃ smaller, other = smaller + 1 :=
          ⟨other - 1, by have := List.length_pos_iff.mpr empty; omega⟩
        have cut := cutBlock_isCut blanks row text
        have shorter := cut.rest_length_lt empty
        simp only [membersFrom, List.isEmpty_iff, empty, if_false]
        congr 1
        · split
          · rename_i body opened found
            have inside := cut.body_length_lt found
            congr 1
            apply ih
            · simp only [List.length_drop]
              omega
            · simp only [List.length_drop]
              omega
          · rfl
        · apply ih
          · omega
          · omega

/-- The tree of a block, where `note` is the comment that speaks for it.  Its body is
parsed like a text of its own. -/
def treeOf (note : Option Block) (block : Block) : BlockTree :=
  match opensBody block note, block.body? with
  | true, some body => .branch block (parse body.text body.row).members
  | _, _ => .leaf block

@[simp] theorem block_treeOf (note : Option Block) (block : Block) :
    (treeOf note block).block = block := by
  rw [treeOf]
  split <;> rfl

/-- The comment that speaks for a block, unless blank rows stand between. -/
def heard (blanks : Nat) (note : Option Block) : Option Block :=
  if blanks = 0 then note else none

/-- The comment that may speak for the block after `block`. -/
def noteAfter (note : Option Block) (block : Block) : Option Block :=
  if block.isComment then some block else note

theorem membersFrom_cut (nonempty : text ≠ []) :
    membersFrom text.length note blanks row text =
      treeOf (heard blanks note) (cutBlock blanks row text).1 ::
        membersFrom (cutBlock blanks row text).2.length
          (noteAfter (heard blanks note) (cutBlock blanks row text).1)
          (cutBlock blanks row text).1.blankAfter (rowAfter (cutBlock blanks row text).1)
          (cutBlock blanks row text).2 := by
  have cut := cutBlock_isCut blanks row text
  have shorter := cut.rest_length_lt nonempty
  obtain ⟨fuel, size⟩ : ∃ fuel, text.length = fuel + 1 :=
    ⟨text.length - 1, by have := List.length_pos_iff.mpr nonempty; omega⟩
  rw [size]
  simp only [membersFrom, List.isEmpty_iff, nonempty, if_false]
  congr 1
  · change _ = treeOf (if blanks = 0 then note else none) _
    rw [treeOf]
    cases opened : opensBody (cutBlock blanks row text).1 (if blanks = 0 then note else none) with
    | false => rfl
    | true =>
        cases found : (cutBlock blanks row text).1.body? with
        | none => rfl
        | some body =>
            have inside := cut.body_length_lt found
            simp only [parse]
            congr 1
            apply membersFrom_fuel
            · simp only [List.length_drop]
              omega
            · simp only [List.length_drop]
              omega
  · apply membersFrom_fuel
    · omega
    · omega

/-- Cutting a text block by block, as an induction.  The cut is handed to the step
with all that is known of it. -/
theorem members_induction
    {motive : (note : Option Block) → (blanks : Nat) → (row : Int) → Text → List BlockTree → Prop}
    (empty : ∀ note blanks row, motive note blanks row [] [])
    (step : ∀ note blanks row text block rest trees, text ≠ [] →
      IsCut blanks row text block rest →
      motive (noteAfter (heard blanks note) block) block.blankAfter (rowAfter block) rest trees →
      motive note blanks row text (treeOf (heard blanks note) block :: trees))
    (note : Option Block) (blanks : Nat) (row : Int) (text : Text) :
    motive note blanks row text (membersFrom text.length note blanks row text) := by
  by_cases nonempty : text = []
  · subst nonempty
    exact empty note blanks row
  · rw [membersFrom_cut nonempty]
    have cut := cutBlock_isCut blanks row text
    exact step note blanks row text _ _ _ nonempty cut (members_induction empty step _ _ _ _)
termination_by text.length
decreasing_by exact cut.rest_length_lt nonempty

/-- Parsing cuts what follows the gap at the start of the text. -/
theorem parse_members (text : Text) (row : Int) :
    (parse text row).members =
      membersFrom (text.drop (gap text).length).length none ((gap text).count '\n')
        (row + (gap text).count '\n') (text.drop (gap text).length) := by
  apply membersFrom_fuel
  · simp only [List.length_drop]
    omega
  · exact Nat.le_refl _

end Docweave.Outline
