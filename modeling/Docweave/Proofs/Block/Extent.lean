import Docweave.Block.Extent
import Docweave.Proofs.Text.Rows

/-!
# How far extents reach

An extent never reaches past the text, and it always reaches past the place where
its construct begins: a row past its first visible character, a construct in braces
past its opening brace, a statement past its equals sign.
-/

namespace Docweave.Extent

open Text

variable {text rest before blanks : Text}

theorem line_le (text : Text) : line text ≤ text.length :=
  (List.takeWhile_prefix _).length_le

theorem line_gt_blanks (visible : VisibleAfter blanks text) : blanks.length < line text :=
  visible.length_lt_row

/-! ## Constructs in braces -/

/-- What follows a body is preceded by the brace that closes it. -/
theorem eq_append_of_afterBody? {depth : Nat} (found : afterBody? depth text = some rest) :
    ∃ body, text = body ++ '}' :: rest := by
  induction text generalizing depth with
  | nil => simp [afterBody?] at found
  | cons char tail ih =>
      -- Unless the body is closed here, the character belongs to it.
      have step : ∀ depth, afterBody? depth tail = some rest →
          ∃ body, char :: tail = body ++ '}' :: rest := by
        intro depth inTail
        obtain ⟨body, equal⟩ := ih inTail
        exact ⟨char :: body, by rw [equal, List.cons_append]⟩
      simp only [afterBody?] at found
      split at found
      · exact step _ found
      · split at found
        · rename_i closing
          split at found
          · cases found
            exact ⟨[], by rw [closing, List.nil_append]⟩
          · exact step _ found
        · exact step _ found

theorem braced_le (text : Text) : braced text ≤ text.length := by
  rw [braced]
  split
  · exact line_le text
  · split
    · exact Nat.le_refl _
    · exact Nat.sub_le ..

/-- A construct with a brace reaches past the first one. -/
theorem braced_gt_brace (fresh : '{' ∉ before) (after : Text) :
    before.length < braced (before ++ '{' :: after) := by
  have inside : ∀ char ∈ before, decide (char ≠ '{') = true := by
    intro char membership
    simp only [ne_eq, decide_eq_true_eq]
    rintro rfl
    exact fresh membership
  rw [braced, dropWhile_append_of_outside inside (by simp) after]
  simp only
  split
  · simp
  · rename_i rest found
    obtain ⟨body, equal⟩ := eq_append_of_afterBody? found
    have shorter : rest.length < ('{' :: after).length := by
      rw [equal]
      simp
      omega
    have dropped := (List.dropWhile_suffix (l := rest) (decide <| · = ';')).length_le
    simp only [List.length_append]
    omega

theorem braced_gt_blanks (visible : VisibleAfter blanks text) (brace : '{' ∈ text) :
    blanks.length < braced text := by
  obtain ⟨before, after, rfl, fresh⟩ := List.eq_append_cons_of_mem brace
  have lead := visible.length_le_of_mark (by decide)
  have reach := braced_gt_brace fresh after
  omega

/-! ## Statements -/

theorem statement_le (text : Text) (start : Nat) : statement text start ≤ text.length := by
  rw [statement]
  split
  · exact Nat.min_le_right ..
  · exact line_le text

/-- A statement is its first row, or it reaches its value. -/
theorem statement_eq_line_or_ge (text : Text) (start : Nat) :
    statement text start = line text ∨ min start text.length ≤ statement text start := by
  rw [statement]
  split
  · right
    omega
  · left
    rfl

end Docweave.Extent
