import Mathlib.Data.List.Forall2
import Docweave.Text.Indent
import Docweave.Proofs.Text.Rows

/-!
# Shared indentation

The indentation that rows share is folded out of them two at a time, so it is told by what starts it:
a text starts the fold exactly when it is a run of blanks that starts every visible row.  That makes the
fold the longest such run.  Taking it off keeps the rows apart and leaves nothing to be taken off a
second time, for what was shared then would have been shared before.
-/

namespace Docweave.Text

variable {lead shared row text : Text} {pieces : List Text}

/-! ## Common prefixes -/

/-- The common prefix of two texts is started by what starts both of them. -/
theorem isPrefix_commonPrefix_iff {first second : Text} :
    lead <+: commonPrefix first second ↔ lead <+: first ∧ lead <+: second := by
  induction first generalizing lead second with
  | nil =>
      simp only [commonPrefix, List.prefix_nil]
      constructor
      · rintro rfl
        exact ⟨rfl, List.nil_prefix⟩
      · exact And.left
  | cons char first ih =>
      cases second with
      | nil =>
          simp only [commonPrefix, List.prefix_nil]
          constructor
          · rintro rfl
            exact ⟨List.nil_prefix, rfl⟩
          · exact And.right
      | cons other second =>
          cases lead with
          | nil => simp
          | cons wanted lead =>
              rw [commonPrefix]
              split
              · rename_i same
                subst same
                simp only [List.cons_prefix_cons, ih]
                exact and_and_left
              · rename_i different
                simp only [List.cons_prefix_cons, List.prefix_nil]
                refine iff_of_false (List.cons_ne_nil _ _) ?_
                rintro ⟨⟨rfl, -⟩, rfl, -⟩
                exact different rfl

/-- The indentation of a row is started by the runs of blanks that start the row. -/
theorem isPrefix_indentOf_iff :
    lead <+: indentOf row ↔ (∀ char ∈ lead, isBlank char = true) ∧ lead <+: row := by
  constructor
  · intro starts
    exact ⟨fun char membership => mem_takeWhile_inClass (starts.subset membership),
      starts.trans (List.takeWhile_prefix isBlank)⟩
  · rintro ⟨blank, rest, rfl⟩
    rw [indentOf, List.takeWhile_append_of_pos blank]
    exact List.prefix_append _ _

theorem isPrefix_foldl_commonPrefix_iff {indent : Text} {others : List Text} :
    lead <+: others.foldl (fun shared other => commonPrefix shared (indentOf other)) indent ↔
      lead <+: indent ∧ ∀ other ∈ others, lead <+: indentOf other := by
  induction others generalizing indent with
  | nil => simp
  | cons other others ih =>
      rw [List.foldl_cons, ih, isPrefix_commonPrefix_iff, List.forall_mem_cons, and_assoc]

/-! ## The longest shared run of blanks -/

/-- `shared` is the longest run of blanks that starts every row with something besides blanks in it,
and it is empty when there is no such row. -/
structure SharedIndent (shared : Text) (pieces : List Text) : Prop where
  blank : ∀ char ∈ shared, isBlank char = true
  starts : ∀ row ∈ pieces, ¬ allBlank row → shared <+: row
  longest : (∃ row ∈ pieces, ¬ allBlank row) → ∀ other : Text, (∀ char ∈ other, isBlank char = true) →
    (∀ row ∈ pieces, ¬ allBlank row → other <+: row) → other <+: shared
  empty : (∀ row ∈ pieces, allBlank row) → shared = []

/-- When a row is visible, the shared indentation is started by the runs of blanks that start all
visible rows. -/
theorem isPrefix_commonIndent_iff (visible : ∃ row ∈ pieces, ¬ allBlank row) :
    lead <+: commonIndent pieces ↔
      (∀ char ∈ lead, isBlank char = true) ∧ ∀ row ∈ pieces, ¬ allBlank row → lead <+: row := by
  have kept (row : Text) : row ∈ pieces.filter (fun row => !allBlank row) ↔
      row ∈ pieces ∧ ¬ allBlank row := by
    simp [List.mem_filter]
  cases found : pieces.filter (fun row => !allBlank row) with
  | nil =>
      obtain ⟨row, membership, notBlank⟩ := visible
      have isKept := (kept row).mpr ⟨membership, notBlank⟩
      rw [found] at isKept
      exact absurd isKept List.not_mem_nil
  | cons first others =>
      have everyRow : (∀ row ∈ pieces, ¬ allBlank row → lead <+: row) ↔
          ∀ row ∈ first :: others, lead <+: row := by
        rw [← found]
        exact ⟨fun every row isKept => every row ((kept row).mp isKept).1 ((kept row).mp isKept).2,
          fun every row membership notBlank => every row ((kept row).mpr ⟨membership, notBlank⟩)⟩
      rw [commonIndent, found]
      simp only [isPrefix_foldl_commonPrefix_iff, isPrefix_indentOf_iff]
      rw [everyRow, List.forall_mem_cons]
      constructor
      · rintro ⟨⟨blank, starts⟩, later⟩
        exact ⟨blank, starts, fun row membership => (later row membership).2⟩
      · rintro ⟨blank, starts, later⟩
        exact ⟨⟨blank, starts⟩, fun row membership => ⟨blank, later row membership⟩⟩

theorem commonIndent_of_blank (blank : ∀ row ∈ pieces, allBlank row) : commonIndent pieces = [] := by
  have nothing : pieces.filter (fun row => !allBlank row) = [] := by
    rw [List.filter_eq_nil_iff]
    intro row membership
    simp [blank row membership]
  rw [commonIndent, nothing]

theorem sharedIndent_commonIndent (pieces : List Text) : SharedIndent (commonIndent pieces) pieces := by
  by_cases visible : ∃ row ∈ pieces, ¬ allBlank row
  · obtain ⟨blank, starts⟩ := (isPrefix_commonIndent_iff visible).mp (List.prefix_refl _)
    refine ⟨blank, starts, ?_, ?_⟩
    · intro _ other otherBlank otherStarts
      exact (isPrefix_commonIndent_iff visible).mpr ⟨otherBlank, otherStarts⟩
    · intro allRows
      obtain ⟨row, membership, notBlank⟩ := visible
      exact absurd (allRows row membership) notBlank
  · have allRows : ∀ row ∈ pieces, allBlank row := by simpa using visible
    rw [commonIndent_of_blank allRows]
    exact ⟨fun char membership => absurd membership List.not_mem_nil,
      fun row membership notBlank => absurd (allRows row membership) notBlank,
      fun exists_visible => absurd exists_visible visible, fun _ => rfl⟩

/-! ## Taking the shared indentation off -/

/-- What is left of a row: a visible row loses the indentation, and of a blank row some end is left. -/
inductive Unindented (shared : Text) : Text → Text → Prop
  | visible {kept : Text} (notBlank : ¬ allBlank kept) : Unindented shared (shared ++ kept) kept
  | blank {row kept : Text} (rowBlank : allBlank row) (keptBlank : allBlank kept) (ends : kept <:+ row) :
      Unindented shared row kept

theorem allBlank_append {first second : Text} :
    allBlank (first ++ second) = (allBlank first && allBlank second) := List.all_append

theorem dropIndent_append (shared kept : Text) : dropIndent shared (shared ++ kept) = kept := by
  rw [dropIndent, after?_eq_some.mpr rfl]

theorem unindented_dropIndent (isShared : SharedIndent shared pieces) (membership : row ∈ pieces) :
    Unindented shared row (dropIndent shared row) := by
  by_cases rowBlank : allBlank row
  · have ends := dropIndent_suffix shared row
    refine .blank rowBlank ?_ ends
    rw [allBlank, List.all_eq_true] at rowBlank ⊢
    exact fun char kept => rowBlank char (ends.subset kept)
  · obtain ⟨kept, rfl⟩ := isShared.starts row membership rowBlank
    rw [dropIndent_append]
    refine .visible fun keptBlank => rowBlank ?_
    rw [allBlank_append, keptBlank, Bool.and_true, allBlank, List.all_eq_true]
    exact isShared.blank

theorem rows_deindent (text : Text) :
    rows (deindent text) = (rows text).map (dropIndent (commonIndent (rows text))) := by
  refine rows_unrows ?_ (by simp [rows_ne_nil])
  rw [List.forall_mem_map]
  exact fun row membership newline =>
    newline_not_mem_of_mem_rows membership ((dropIndent_suffix _ row).subset newline)

/-- Rows without their shared indentation share none. -/
theorem commonIndent_map_dropIndent (pieces : List Text) :
    commonIndent (pieces.map (dropIndent (commonIndent pieces))) = [] := by
  have isShared := sharedIndent_commonIndent pieces
  have again := sharedIndent_commonIndent (pieces.map (dropIndent (commonIndent pieces)))
  by_cases visible : ∃ row ∈ pieces, ¬ allBlank row
  · -- What both runs make up is blank and starts every visible row, so it is no longer than the first.
    have longer : commonIndent pieces ++ commonIndent (pieces.map (dropIndent (commonIndent pieces))) <+:
        commonIndent pieces := by
      refine isShared.longest visible _ ?_ ?_
      · simp only [List.mem_append]
        rintro char (inShared | inAgain)
        · exact isShared.blank char inShared
        · exact again.blank char inAgain
      · intro row membership notBlank
        have inMap := List.mem_map_of_mem (f := dropIndent (commonIndent pieces)) membership
        generalize kept_eq : dropIndent (commonIndent pieces) row = kept at inMap
        have left := kept_eq ▸ unindented_dropIndent isShared membership
        cases left with
        | visible keptVisible =>
            exact (List.prefix_append_right_inj _).mpr (again.starts kept inMap keptVisible)
        | blank rowBlank => exact absurd rowBlank notBlank
    have short := longer.length_le
    rw [List.length_append] at short
    exact List.eq_nil_of_length_eq_zero (by omega)
  · have allRows : ∀ row ∈ pieces, allBlank row := by simpa using visible
    refine again.empty ?_
    rw [List.forall_mem_map]
    intro row membership
    have left := unindented_dropIndent isShared membership
    generalize dropIndent (commonIndent pieces) row = kept at left
    cases left with
    | visible keptVisible =>
        have rowBlank := allRows _ membership
        rw [allBlank_append, Bool.and_eq_true] at rowBlank
        exact absurd rowBlank.2 keptVisible
    | blank _ keptBlank _ => exact keptBlank

theorem dropIndent_nil (row : Text) : dropIndent [] row = row := dropIndent_append [] row

/-- Rows share the longest run of blanks that starts every visible one of them.  Taking it off a text
leaves as many rows; each visible row loses that run and nothing else, each blank row stays blank and
loses nothing but its start, and nothing is left to be taken off a second time. -/
theorem deindent_removes_shared (text : Text) :
    SharedIndent (commonIndent (rows text)) (rows text) ∧
      (rows (deindent text)).length = (rows text).length ∧
      List.Forall₂ (Unindented (commonIndent (rows text))) (rows text) (rows (deindent text)) ∧
      deindent (deindent text) = deindent text := by
  have isShared := sharedIndent_commonIndent (rows text)
  refine ⟨isShared, ?_, ?_, ?_⟩
  · rw [rows_deindent, List.length_map]
  · rw [rows_deindent, List.forall₂_map_right_iff, List.forall₂_same]
    exact fun row membership => unindented_dropIndent isShared membership
  · rw [deindent, rows_deindent, commonIndent_map_dropIndent, ← rows_deindent,
      List.map_congr_left fun row _ => dropIndent_nil row, List.map_id', unrows_rows]

example : deindent "\t a\n\t\n \t\n\t  b" = "a\n\n\n b".toList := by decide

end Docweave.Text
