import Docweave.Proofs.Block.Callables
import Docweave.Proofs.Block.FunctionExpression

/-!
# The body of an assigned function

The body of a function that is assigned opens with the brace after its parameters, wherever the value
stands in its block.  It is closed by the last brace of the block, and only when nothing but blanks and
semicolons follow that brace.  So the body is what stands between its braces exactly when the block
ends with them; otherwise the brace that closes the body stays in it, with what follows.
-/

namespace Docweave

open Text

variable {text inner after rest parameters header opened : Text} {block : Block}

/-! ## What closes a body -/

namespace Body

/-- Blanks, semicolons and blanks again. -/
inductive Closing : Text → Prop
  | intro {before marks after : Text} (isBefore : ∀ char ∈ before, isBlank char = true)
      (isMarks : ∀ char ∈ marks, char = ';') (isAfter : ∀ char ∈ after, isBlank char = true) :
      Closing (before ++ (marks ++ after))

/-- Drop blanks, semicolons and blanks again from the end. -/
def dropMarks (text : Text) : Text :=
  dropTrailing isBlank (dropTrailing (· = ';') (dropTrailing isBlank text))

theorem dropMarks_append (inner after : Text) :
    dropMarks (inner ++ '}' :: after) = inner ++ '}' :: dropMarks after := by
  rw [dropMarks, dropTrailing_append_cons (by decide), dropTrailing_append_cons (by decide),
    dropTrailing_append_cons (by decide), dropMarks]

theorem dropMarks_eq_nil : dropMarks text = [] ↔ Closing text := by
  constructor
  · intro empty
    obtain ⟨last, text_eq, isLast⟩ := eq_dropTrailing_append isBlank text
    obtain ⟨marks, marks_eq, isMarks⟩ := eq_dropTrailing_append (· = ';') (dropTrailing isBlank text)
    rw [text_eq, marks_eq, List.append_assoc]
    exact .intro (dropTrailing_eq_nil_iff.mp empty) (fun char membership => by
      simpa using isMarks char membership) isLast
  · rintro ⟨isBefore, isMarks, isAfter⟩
    rename_i before marks after
    rw [dropMarks, ← List.append_assoc, dropTrailing_append_of_inside isAfter, dropTrailing_eq_nil_iff]
    have allMarks : ∀ char ∈ marks, decide (char = ';') = true := by simpa using isMarks
    rcases List.eq_nil_or_concat marks with rfl | ⟨front, last, rfl⟩
    · intro char membership
      have cut := (dropTrailing_isPrefix (· = ';') _).trans (dropTrailing_isPrefix isBlank (before ++ []))
      exact isBefore char (by simpa using cut.subset membership)
    · obtain rfl : last = ';' := isMarks last (by simp)
      have kept : dropTrailing isBlank (before ++ front.concat ';') = before ++ front.concat ';' := by
        rw [List.concat_eq_append, ← List.append_assoc]
        exact dropTrailing_append_cons (by decide) (before ++ front) []
      rw [kept, dropTrailing_append_of_inside allMarks]
      intro char membership
      exact isBefore char ((dropTrailing_isPrefix _ before).subset membership)

theorem Closing.newline_not_mem (closing : Closing text) : '\n' ∉ text := by
  obtain ⟨isBefore, isMarks, isAfter⟩ := closing
  have noMark : '\n' ∉ _ := fun newline => by simpa using isMarks _ newline
  simp [newline_not_mem_of_blank isBefore, newline_not_mem_of_blank isAfter, noMark]

theorem cutFinalNewline_concat (text : Text) (last : Char) :
    cutFinalNewline (text ++ [last]) = if last = '\n' then (text, ['\n']) else (text ++ [last], []) := by
  rw [cutFinalNewline, List.getLast?_concat, List.dropLast_concat]
  split
  · rename_i newline
    rw [if_pos (Option.some.inj newline)]
  · rename_i visible
    rw [if_neg fun newline => visible (congrArg some newline)]

theorem cutFinalNewline_append_cons (inner after : Text) :
    cutFinalNewline (inner ++ '}' :: after) =
      (inner ++ '}' :: (cutFinalNewline after).1, (cutFinalNewline after).2) := by
  rcases List.eq_nil_or_concat after with rfl | ⟨front, last, rfl⟩
  · exact cutFinalNewline_concat inner '}'
  · rw [List.concat_eq_append, cutFinalNewline_concat, ← List.cons_append, ← List.append_assoc,
      cutFinalNewline_concat]
    split
    · rfl
    · simp

theorem dropClosing_append_cons (inner after : Text) :
    dropClosing (inner ++ '}' :: after) =
      match (inner ++ '}' :: dropMarks (cutFinalNewline after).1).getLast? with
      | some '}' =>
        dropTrailing isBlank (inner ++ '}' :: dropMarks (cutFinalNewline after).1).dropLast ++
          (cutFinalNewline after).2
      | _ => inner ++ '}' :: after := by
  rw [← dropMarks_append, dropClosing, cutFinalNewline_append_cons]
  rfl

/-- What a body keeps of a brace and what follows it. -/
theorem dropClosing_of_brace (inner after : Text) :
    Closing after ∧ dropClosing (inner ++ '}' :: after) = dropTrailing isBlank inner ∨
      ¬ Closing after ∧ (dropClosing (inner ++ '}' :: after) = dropTrailing isBlank inner ++ ['\n'] ∨
        inner ++ ['}'] <+: dropClosing (inner ++ '}' :: after)) := by
  rw [dropClosing_append_cons]
  obtain ⟨core, newline, cut_eq, rfl, ends⟩ : ∃ core newline, cutFinalNewline after = (core, newline) ∧
      after = core ++ newline ∧ (newline = [] ∨ newline = ['\n']) :=
    ⟨_, _, rfl, cutFinalNewline_append after, cutFinalNewline_newline after⟩
  rw [cut_eq]
  by_cases empty : dropMarks core = []
  · have closing := dropMarks_eq_nil.mp empty
    simp only [empty, List.getLast?_concat, List.dropLast_concat]
    rcases ends with rfl | rfl
    · exact .inl ⟨by rwa [List.append_nil], List.append_nil _⟩
    · exact .inr ⟨fun whole => whole.newline_not_mem (by simp), .inl rfl⟩
  · have goesOn : ¬ Closing (core ++ newline) := by
      intro whole
      rcases ends with rfl | rfl
      · rw [List.append_nil] at whole
        exact empty (dropMarks_eq_nil.mpr whole)
      · exact whole.newline_not_mem (by simp)
    obtain ⟨front, last, marks_eq⟩ := (List.eq_nil_or_concat _).resolve_left empty
    have split_eq : inner ++ '}' :: dropMarks core = (inner ++ '}' :: front) ++ [last] := by
      simp [marks_eq]
    refine .inr ⟨goesOn, .inr ?_⟩
    simp only [split_eq, List.getLast?_concat, List.dropLast_concat]
    split
    · rw [dropTrailing_append_cons (by decide)]
      exact ⟨dropTrailing isBlank front ++ newline, by simp⟩
    · exact ⟨core ++ newline, by simp⟩

/-- A body is what stands before its closing brace exactly when nothing but what closes it follows:
otherwise a newline or the brace itself is left in it. -/
theorem deindent_dropClosing_iff (inner after : Text) :
    deindent (dropClosing (inner ++ '}' :: after)) = deindent (dropTrailing isBlank inner) ↔
      Closing after := by
  rcases dropClosing_of_brace inner after with ⟨closing, kept⟩ | ⟨goesOn, newline | overrun⟩
  · exact iff_of_true (congrArg deindent kept) closing
  · refine iff_of_false (fun same => ?_) goesOn
    have newlines := congrArg (List.count '\n') same
    rw [newline, count_deindent (by decide), count_deindent (by decide)] at newlines
    simp at newlines
  · refine iff_of_false (fun same => ?_) goesOn
    have braces := congrArg (List.count '}') same
    have more := overrun.sublist.count_le '}'
    have fewer := (dropTrailing_isPrefix isBlank inner).sublist.count_le '}'
    rw [count_deindent (by decide), count_deindent (by decide)] at braces
    simp only [List.count_append, List.count_singleton_self] at more
    omega

end Body

/-! ## Where an assigned function opens -/

open Extent Header FunctionValue

/-- A target, the equals sign and a function expression, up to the brace that opens its body. -/
inductive AssignedHeader (parameters : Text) : Text → Prop
  | intro {target gap front : Text} (isFirst : '=' ∉ target) (isGap : Spaces gap)
      (isFunction : FunctionExpression parameters front) :
      AssignedHeader parameters (target ++ '=' :: (gap ++ front))

/-- The value of an assignment keeps the brace that opens a body. -/
theorem value_append {front : Text} (isFunction : FunctionExpression parameters front) {gap : Text}
    (isGap : Spaces gap) (opened : Text) :
    ∃ kept, stripRight (dropTrailing (· = ';') (strip (gap ++ (front ++ '{' :: opened)))) =
      front ++ '{' :: kept := by
  have stripped : (gap ++ (front ++ '{' :: opened)).dropWhile isSpace = front ++ '{' :: opened :=
    dropWhile_append_of_leaves isGap (isFunction.visible _)
  rw [strip, stripOf, stripped, dropTrailing_append_cons (by decide), dropTrailing_append_cons (by decide),
    stripRight, dropTrailing_append_cons (by decide)]
  exact ⟨_, rfl⟩

/-- A function expression that is assigned is read with its parameters, and its body from right after
the brace that follows them. -/
theorem function_of_assignedHeader (isHeader : AssignedHeader parameters header) (opened : Text)
    (row : Int) :
    (AssignmentInfo.read (header ++ '{' :: opened) row).function =
      some ⟨splitParameters parameters,
        ⟨deindent (Body.dropClosing opened), row + header.count '\n'⟩⟩ := by
  obtain ⟨isFirst, isGap, isFunction⟩ := isHeader
  rename_i target gap front
  have raw_eq : target ++ '=' :: (gap ++ front) ++ '{' :: opened =
      target ++ '=' :: (gap ++ (front ++ '{' :: opened)) := by simp
  have equals : findChar? '=' (target ++ '=' :: (gap ++ front) ++ '{' :: opened) = some target.length :=
    findChar?_eq_some.mpr ⟨target, _, raw_eq, isFirst, rfl⟩
  have assigned : Body.bodyPart (target ++ '=' :: (gap ++ front) ++ '{' :: opened) (some target.length) =
      gap ++ (front ++ '{' :: opened) := by
    rw [raw_eq]
    simp [Body.bodyPart]
  obtain ⟨kept, value_eq⟩ := value_append isFunction isGap opened
  have read : header? (front ++ '{' :: kept) = some (parameters, kept) :=
    header?_eq_some.mpr ⟨front, isFunction, rfl⟩
  have stripped : stripLeft (gap ++ (front ++ '{' :: opened)) = front ++ '{' :: opened :=
    dropWhile_append_of_leaves isGap (isFunction.visible _)
  have brace : (target ++ '=' :: (gap ++ front) ++ '{' :: opened).length -
      (front ++ '{' :: opened).length + ((front ++ '{' :: kept).length - kept.length) - 1 =
        (target ++ '=' :: (gap ++ front)).length := by
    simp only [List.length_append, List.length_cons]
    omega
  simp only [AssignmentInfo.read, equals, assigned, value_eq, read, stripped, brace, Body.read_eq]

/-- A function that is read from an assignment with an equals sign follows that sign. -/
theorem exists_assignedHeader {raw : Text} {row : Int} {value : FunctionValue} (equals : '=' ∈ raw)
    (read : (AssignmentInfo.read raw row).function = some value) :
    ∃ parameters header opened, AssignedHeader parameters header ∧ raw = header ++ '{' :: opened := by
  obtain ⟨target, assigned, rfl, isFirst, found⟩ := findChar?_of_mem equals
  have assigned_eq : Body.bodyPart (target ++ '=' :: assigned) (some target.length) = assigned := by
    simp [Body.bodyPart]
  simp only [AssignmentInfo.read, found, assigned_eq] at read
  split at read
  · cases read
  · rename_i parameters rest expression
    obtain ⟨front, isFunction, value_eq⟩ := header?_eq_some.mp expression
    obtain ⟨gap, isGap, assigned_split⟩ := exists_spaces assigned
    obtain ⟨tail, tail_eq⟩ := value_isPrefix assigned
    refine ⟨parameters, _, rest ++ tail, .intro isFirst isGap isFunction, ?_⟩
    rw [assigned_split, ← tail_eq, value_eq]
    simp

/-- What is taken for an assignment starts with a target and an equals sign. -/
theorem exists_target (found : (classify text).kind = .assignment) :
    ∃ before value, Unbraced before ∧ text = before ++ '=' :: value := by
  have nonempty : text ≠ [] := by
    rintro rfl
    cases found
  obtain ⟨rest, read⟩ : ∃ rest, assignment? text = some rest := by
    rcases classify_cases nonempty with ⟨recognised, -⟩ | unknown
    · generalize classify text = result at found recognised
      cases recognised with
      | assignment isAssignment => exact Option.isSome_iff_exists.mp isAssignment
      | _ => cases found
    · rw [unknown] at found
      cases found
  simp only [assignment?, Option.bind_eq_bind, Option.bind_eq_some_iff, after?_eq_some,
    some?_eq_some] at read
  obtain ⟨afterTarget, ⟨target, isTarget, -, skipped_eq⟩, value, mark, -⟩ := read
  obtain ⟨lead, isLead, text_eq⟩ := exists_gap text
  obtain ⟨gap, isGap, after_eq⟩ := exists_gap afterTarget
  refine ⟨lead ++ (target ++ gap), value, ?_, ?_⟩
  · simp only [unbraced_append]
    exact ⟨isLead.unbraced, unbraced_of_inClass isTarget.inside rfl rfl, isGap.unbraced⟩
  · rw [text_eq, skipped_eq, after_eq, mark]
    simp

/-- A function that is read holds the brace that opens its body. -/
theorem brace_mem_of_function {value : FunctionValue}
    (read : (AssignmentInfo.read block.raw block.row).function = some value) : '{' ∈ block.raw := by
  obtain ⟨head, opened, raw_eq, -⟩ := Block.opensAtBrace_assigned read
  rw [raw_eq]
  exact List.mem_append_right head List.mem_cons_self

/-- An assignment that is cut off before its equals sign holds no brace. -/
theorem brace_not_mem_of_assignment (cut : block.CutFrom text) (kind : block.kind = .assignment)
    (noEquals : '=' ∉ block.raw) : '{' ∉ block.raw := by
  obtain ⟨before, value, plain, rfl⟩ := exists_target (cut.kind_eq.symm.trans kind)
  have isPrefix : block.raw <+: before ++ '=' :: value := cut.raw_eq ▸ List.take_prefix _ _
  have within : block.raw <+: before := by
    rcases List.prefix_or_prefix_of_prefix isPrefix ⟨value, List.append_assoc before ['='] value⟩ with
      shorter | longer
    · exact (List.prefix_concat_iff.mp shorter).resolve_left fun same => noEquals (by simp [same])
    · exact absurd (longer.subset (by simp)) noEquals
  exact fun brace => plain.1 (within.subset brace)

/-- A function that is assigned is read with its parameters, and its body opens at the brace after
them.  The body is what stands between that brace and the matching one exactly when the block ends
with nothing but blanks and semicolons after the latter; otherwise the matching brace stays in the
body with what follows, or else the newline that ends the block does. -/
theorem body_of_assigned (cut : block.CutFrom text) (kind : block.kind = .assignment) :
    (∀ value, (AssignmentInfo.read block.raw block.row).function = some value →
      ∃ parameters header opened, AssignedHeader parameters header ∧ block.raw = header ++ '{' :: opened) ∧
    ∀ parameters header inner after, AssignedHeader parameters header →
      block.raw = header ++ '{' :: (inner ++ '}' :: after) → Enclosed inner →
      ∃ body, (AssignmentInfo.read block.raw block.row).function =
          some ⟨splitParameters parameters, body⟩ ∧ block.body? = some body ∧
        body.row = block.row + header.count '\n' ∧
        (body.text = deindent (dropTrailing isBlank inner) ↔ Body.Closing after) ∧
        (¬ Body.Closing after → ∃ kept, body.text = deindent kept ∧
          (kept = dropTrailing isBlank inner ++ ['\n'] ∨ inner ++ ['}'] <+: kept)) := by
  constructor
  · intro value read
    by_cases equals : '=' ∈ block.raw
    · exact exists_assignedHeader equals read
    · exact absurd (brace_mem_of_function read) (brace_not_mem_of_assignment cut kind equals)
  · intro parameters header inner after isHeader raw_eq _
    have read := function_of_assignedHeader isHeader (inner ++ '}' :: after) block.row
    rw [← raw_eq] at read
    refine ⟨_, read, ?_, rfl, Body.deindent_dropClosing_iff inner after, ?_⟩
    · simp only [Block.body?, Block.info, kind, BlockInfo.read, read, Option.map_some]
    · intro goesOn
      rcases Body.dropClosing_of_brace inner after with ⟨closing, -⟩ | ⟨-, overrun⟩
      · exact absurd closing goesOn
      · exact ⟨_, rfl, overrun⟩

/-- An arrow function with braces of its own and a semicolon after its body. -/
theorem body_of_assigned_arrow :
    let text : Text := "a.b = async (x) => \x7b\n  return \x7b x \x7d  \x7d ; \nc()"
    let header : Text := "a.b = async (x) => "
    let inner : Text := "\n  return \x7b x \x7d  "
    let block : Block := ⟨.assignment, text.take (classify text).length, 3, 0, 0, [], []⟩
    block.CutFrom text ∧ block.kind = .assignment ∧ AssignedHeader ['x'] header ∧
      block.raw = header ++ '{' :: (inner ++ '}' :: " ; ".toList) ∧ Enclosed inner ∧
      block.body?.map Body.text = some (deindent (dropTrailing isBlank inner)) := by
  intro text header inner block
  have cut : block.CutFrom text := ⟨by decide +kernel, rfl⟩
  have isArrow : FunctionExpression ['x'] ("async".toList ++ ([' '] ++
      ('(' :: (['x'] ++ ')' :: ([' '] ++ ("=>".toList ++ [' ']))))) ) :=
    .asynchronous (by decide) (.arrow (List.all_eq_true.mp (by decide)) (by decide) (by decide))
  have isHeader : AssignedHeader ['x'] header :=
    .intro (show '=' ∉ "a.b ".toList by decide) (show Spaces [' '] by decide) isArrow
  have raw_eq : block.raw = header ++ '{' :: (inner ++ '}' :: " ; ".toList) := by decide +kernel
  have enclosed : Enclosed inner := by decide +kernel
  have closing : Body.Closing ([' '] ++ ([';'] ++ [' '])) :=
    .intro (List.all_eq_true.mp (by decide)) (by simp) (List.all_eq_true.mp (by decide))
  obtain ⟨body, -, body_eq, -, text_iff, -⟩ :=
    (body_of_assigned cut rfl).2 ['x'] header inner _ isHeader raw_eq enclosed
  exact ⟨cut, rfl, isHeader, raw_eq, enclosed, by rw [body_eq, Option.map_some, text_iff.mpr closing]⟩

/-- A function whose closing brace is followed by a call keeps that brace and the call in its body. -/
theorem body_overrun_of_assigned :
    let text : Text := "a.b = function () \x7b\n  return 1\n\x7d.bind(this);"
    let header : Text := "a.b = function () "
    let inner : Text := "\n  return 1\n"
    let block : Block := ⟨.assignment, text, 1, 0, 0, [], []⟩
    block.CutFrom text ∧ AssignedHeader [] header ∧
      block.raw = header ++ '{' :: (inner ++ '}' :: ".bind(this);".toList) ∧ Enclosed inner ∧
      deindent (dropTrailing isBlank inner) = "\nreturn 1\n".toList ∧
      block.body? = some ⟨"\n  return 1\n\x7d.bind(this);".toList, 1⟩ := by
  intro text header inner block
  have isFunction : FunctionExpression [] ("function".toList ++ ([' '] ++ ([] ++ ([] ++
      '(' :: ([] ++ ')' :: [' ']))))) :=
    .synchronous (.named (by decide) (by simp) (by decide) (by simp) (by decide))
  have isHeader : AssignedHeader [] header :=
    .intro (show '=' ∉ "a.b ".toList by decide) (show Spaces [' '] by decide) isFunction
  exact ⟨⟨by decide +kernel, by decide +kernel⟩, isHeader, by decide, by decide +kernel,
    by decide +kernel, by decide +kernel⟩

end Docweave
