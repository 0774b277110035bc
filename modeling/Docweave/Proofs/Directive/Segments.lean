import Docweave.Directive.Arguments
import Docweave.Proofs.Text.Cut

/-!
# Splitting argument lists

An argument list is cut at the commas outside of parentheses and string literals.  A text is passed
over when the scan gets through it without a cut and is then where it was before: as deep as it was,
and in no string literal.  So texts that are joined with commas are told apart again when the scan
passes over each of them.
-/

namespace Docweave.Call

open Text

variable {text rest name list : Text} {depth : Nat}

/-! ## Texts that are passed over -/

/-- Quotes, parentheses and commas have a say in where a list is cut. -/
def isMark (char : Char) : Bool :=
  Extent.isQuote char || char == '(' || char == ')' || char == ','

/-- A text without quotes, parentheses and commas. -/
def Unmarked (text : Text) : Prop := ∀ char ∈ text, isMark char = false

instance (text : Text) : Decidable (Unmarked text) := List.decidableBAll _ text

theorem segmentsFrom?_cons (depth : Nat) (piece : Text) (char : Char) (rest : Text) :
    segmentsFrom? depth none piece (char :: rest) =
      if Extent.isQuote char then segmentsFrom? depth (some char) (char :: piece) rest
      else if char = '(' then segmentsFrom? (depth + 1) none (char :: piece) rest
      else if char = ')' then
        if depth = 0 then none else segmentsFrom? (depth - 1) none (char :: piece) rest
      else if char = ',' ∧ depth = 0 then
        (segmentsFrom? 0 none [] rest).map (piece.reverse :: ·)
      else segmentsFrom? depth none (char :: piece) rest := by
  cases depth with
  | zero => rw [segmentsFrom?, if_pos rfl]
  | succ depth => rw [segmentsFrom?, if_neg (Nat.succ_ne_zero depth), Nat.add_sub_cancel]

/-- The scan gets through a text without a cut, with `depth` parentheses open. -/
def Passes (depth : Nat) (text : Text) : Prop :=
  ∀ piece rest, segmentsFrom? depth none piece (text ++ rest) =
    segmentsFrom? depth none (text.reverse ++ piece) rest

theorem passes_nil (depth : Nat) : Passes depth [] := fun _ _ => rfl

theorem Passes.append {first second : Text} (passesFirst : Passes depth first)
    (passesSecond : Passes depth second) : Passes depth (first ++ second) := by
  intro piece rest
  rw [List.append_assoc, passesFirst, passesSecond, List.reverse_append, List.append_assoc]

theorem passes_char {char : Char} (unmarked : isMark char = false) (depth : Nat) :
    Passes depth [char] := by
  intro piece rest
  simp only [isMark, Bool.or_eq_false_iff, beq_eq_false_iff_ne] at unmarked
  obtain ⟨⟨⟨noQuote, noOpening⟩, noClosing⟩, noComma⟩ := unmarked
  rw [List.singleton_append, segmentsFrom?_cons, if_neg (by simp [noQuote]), if_neg noOpening,
    if_neg noClosing, if_neg (fun comma => noComma comma.1)]
  rfl

theorem passes_of_unmarked (unmarked : Unmarked text) (depth : Nat) : Passes depth text := by
  induction text with
  | nil => exact passes_nil depth
  | cons char text ih =>
      have first := passes_char (unmarked char List.mem_cons_self) depth
      exact first.append (ih fun other membership => unmarked other (List.mem_cons_of_mem _ membership))

/-- A comma in parentheses cuts nothing. -/
theorem passes_comma (depth : Nat) : Passes (depth + 1) [','] := by
  intro piece rest
  rw [List.singleton_append, segmentsFrom?_cons, if_neg (by decide), if_neg (by decide),
    if_neg (by decide), if_neg (fun comma => Nat.succ_ne_zero _ comma.2)]
  rfl

theorem Passes.parenthesised (passes : Passes (depth + 1) text) :
    Passes depth ('(' :: (text ++ [')'])) := by
  intro piece rest
  rw [List.cons_append, segmentsFrom?_cons, if_neg (by decide), if_pos rfl, List.append_assoc, passes,
    List.singleton_append, segmentsFrom?_cons, if_neg (by decide), if_neg (by decide), if_pos rfl,
    if_neg (Nat.succ_ne_zero depth)]
  simp

/-- What follows a comma at which the list is cut is cut on its own. -/
theorem Passes.segments?_append (passes : Passes 0 text) (rest : Text) :
    segments? (text ++ ',' :: rest) = (segments? rest).map (text :: ·) := by
  rw [segments?, passes, segmentsFrom?_cons, if_neg (by decide), if_neg (by decide),
    if_neg (by decide), if_pos ⟨rfl, rfl⟩, List.append_nil, List.reverse_reverse, segments?]

theorem Passes.segments?_eq (passes : Passes 0 text) : segments? text = some [text] := by
  have ends := passes [] []
  rw [List.append_nil, List.append_nil] at ends
  rw [segments?, ends, segmentsFrom?, if_pos rfl, List.reverse_reverse]

theorem segments?_join (pieces : List Text) {piece : Text} (first : Passes 0 piece)
    (passes : ∀ piece ∈ pieces, Passes 0 piece) :
    segments? (join [','] (piece :: pieces)) = some (piece :: pieces) := by
  induction pieces generalizing piece with
  | nil => simpa [join] using first.segments?_eq
  | cons next pieces ih =>
      obtain ⟨passesNext, later⟩ := List.forall_mem_cons.mp passes
      have joined : join [','] (piece :: next :: pieces) =
          piece ++ ',' :: join [','] (next :: pieces) := by
        rw [join, List.intercalate_cons_cons, List.append_assoc]; rfl
      rw [joined, first.segments?_append, ih passesNext later, Option.map_some]

theorem append_join (separator front piece : Text) (pieces : List Text) :
    front ++ join separator (piece :: pieces) = join separator ((front ++ piece) :: pieces) := by
  cases pieces with
  | nil => simp [join]
  | cons next pieces =>
      rw [join, join, List.intercalate_cons_cons, List.intercalate_cons_cons]
      simp only [List.append_assoc]

/-- Blanks after the commas belong to the next piece. -/
theorem join_gap (gap piece : Text) (pieces : List Text) :
    join (',' :: gap) (piece :: pieces) = join [','] (piece :: pieces.map (gap ++ ·)) := by
  induction pieces generalizing piece with
  | nil => rfl
  | cons next pieces ih =>
      calc join (',' :: gap) (piece :: next :: pieces)
          = piece ++ ',' :: (gap ++ join (',' :: gap) (next :: pieces)) := by
            simp [join, List.intercalate_cons_cons]
        _ = piece ++ ',' :: join [','] ((gap ++ next) :: pieces.map (gap ++ ·)) := by
            rw [ih, append_join]
        _ = _ := by
            simp [join, List.intercalate_cons_cons]

theorem allBlank_of_join {separator piece : Text} {pieces : List Text}
    (blank : allBlank (join separator (piece :: pieces))) : allBlank piece := by
  cases pieces with
  | nil => simpa [join] using blank
  | cons next pieces =>
      rw [join, List.intercalate_cons_cons, allBlank, List.all_append, List.all_append] at blank
      exact (Bool.and_eq_true_iff.mp (Bool.and_eq_true_iff.mp blank).1).1

theorem unmarked_of_blank (blank : ∀ char ∈ text, isBlank char = true) : Unmarked text := by
  intro char membership
  have isBlank := blank char membership
  simp only [Text.isBlank, Bool.or_eq_true, beq_iff_eq] at isBlank
  rcases isBlank with rfl | rfl <;> decide

/-- Texts that are passed over are the arguments of the list in which commas join them. -/
theorem arguments?_join {gap : Text} {pieces : List Text} (blank : ∀ char ∈ gap, isBlank char = true)
    (passes : ∀ piece ∈ pieces, Passes 0 piece) (visible : ¬ allBlank (join (',' :: gap) pieces)) :
    arguments? (join (',' :: gap) pieces) = some (pieces.map trim) := by
  rw [arguments?, if_neg visible]
  cases pieces with
  | nil => exact absurd rfl visible
  | cons piece pieces =>
      obtain ⟨first, later⟩ := List.forall_mem_cons.mp passes
      have passesGap := passes_of_unmarked (unmarked_of_blank blank) 0
      have passesLater : ∀ other ∈ pieces.map (gap ++ ·), Passes 0 other := by
        rw [List.forall_mem_map]
        exact fun other membership => passesGap.append (later other membership)
      have trimmed : trim ∘ (gap ++ ·) = trim := funext (trim_append_of_blank blank)
      rw [join_gap, segments?_join _ first passesLater, Option.map_some, List.map_cons, List.map_map,
        trimmed, List.map_cons]

/-! ## How long segments are -/

theorem length_le_of_mem_segmentsFrom? {quote : Option Char} {piece : Text} {segments : List Text}
    (read : segmentsFrom? depth quote piece text = some segments) :
    ∀ segment ∈ segments, segment.length ≤ piece.length + text.length := by
  fun_induction segmentsFrom? depth quote piece text generalizing segments with
  | case1 quote piece =>
      cases read
      simp
  | case2 => cases read
  | case3 depth quote piece char rest ih =>
      intro segment membership
      have short := ih read segment membership
      simp only [List.length_cons] at short ⊢
      omega
  | case7 => cases read
  | case9 depth piece char rest _ _ _ _ ih =>
      obtain ⟨later, readLater, rfl⟩ := Option.map_eq_some_iff.mp read
      rintro segment (_ | ⟨_, membership⟩)
      · simp
      · have short := ih readLater segment membership
        simp only [List.length_cons, List.length_nil] at short ⊢
        omega
  | _ =>
      rename_i ih
      intro segment membership
      have short := ih read segment membership
      simp only [List.length_cons] at short ⊢
      omega

/-- An argument is no longer than the list. -/
theorem length_le_of_mem_arguments? {args : List Text} (read : arguments? list = some args) :
    ∀ arg ∈ args, arg.length ≤ list.length := by
  rw [arguments?] at read
  split at read
  · cases read
    simp
  · obtain ⟨segments, cut, rfl⟩ := Option.map_eq_some_iff.mp read
    intro arg membership
    obtain ⟨segment, isSegment, rfl⟩ := List.mem_map.mp membership
    have short := length_le_of_mem_segmentsFrom? cut segment isSegment
    exact Nat.le_trans (length_trim_le segment) (by simpa using short)

/-! ## The list of a call -/

/-- The list of a call starts after its first parenthesis and ends before its last one. -/
theorem inner?_of_call (plain : '(' ∉ name) (list : Text) :
    inner? (name ++ '(' :: (list ++ [')'])) = some (some list) := by
  have opening : findChar? '(' (name ++ '(' :: (list ++ [')'])) = some name.length :=
    findChar?_eq_some.mpr ⟨name, _, rfl, plain, rfl⟩
  have split : name ++ '(' :: (list ++ [')']) = (name ++ '(' :: list) ++ [')'] := by simp
  have closing : findLast? [')'] (name ++ '(' :: (list ++ [')'])) = some (name ++ '(' :: list).length := by
    rw [split, findLast?_concat]
  have within : ((name ++ '(' :: (list ++ [')'])).take (name ++ '(' :: list).length).drop
      (name.length + 1) = list := by
    rw [split, List.take_left]
    simp
  rw [inner?, opening, closing]
  simp only [within]
  rw [if_neg (by simp)]

theorem inner?_eq_none_iff : inner? text = some none ↔ '(' ∉ text ∧ ')' ∉ text := by
  rw [← findChar?_eq_none_iff, ← findLast?_eq_none_iff, inner?]
  cases findChar? '(' text <;> cases findLast? [')'] text <;> simp

theorem length_lt_of_inner? {call : Text} (found : inner? call = some (some list)) :
    list.length < call.length := by
  rw [inner?] at found
  split at found
  · cases found
  · rename_i opening closing first last
    obtain ⟨before, after, rfl, -, -⟩ := findChar?_eq_some.mp first
    split at found
    · cases found
    · cases found
      simp only [List.length_drop, List.length_take, List.length_append, List.length_cons]
      omega
  · cases found

/-! ## Trees -/

theorem mapM_congr {α β : Type} {f g : α → Option β} {items : List α}
    (same : ∀ item ∈ items, f item = g item) : items.mapM f = items.mapM g := by
  induction items with
  | nil => rfl
  | cons item items ih =>
      obtain ⟨first, later⟩ := List.forall_mem_cons.mp same
      rw [List.mapM_cons, List.mapM_cons, first, ih later]

theorem treeFrom?_of_list {call : Text} (found : inner? call = some (some list)) (fuel : Nat) :
    treeFrom? (fuel + 1) call =
      ((arguments? list).bind fun args => args.mapM (treeFrom? fuel)).map .node := by
  simp only [treeFrom?, found]
  cases arguments? list <;> rfl

/-- More depth than a call has characters changes nothing. -/
theorem treeFrom?_eq {fuel more : Nat} {call : Text} (enough : call.length < fuel)
    (enoughMore : call.length < more) : treeFrom? fuel call = treeFrom? more call := by
  induction fuel generalizing more call with
  | zero => exact absurd enough (Nat.not_lt_zero _)
  | succ fuel ih =>
      obtain ⟨more, rfl⟩ := Nat.exists_eq_add_one_of_ne_zero (Nat.ne_zero_of_lt enoughMore)
      rcases found : inner? call with _ | _ | list
      · simp only [treeFrom?, found]
      · simp only [treeFrom?, found]
      · rw [treeFrom?_of_list found, treeFrom?_of_list found]
        refine congrArg _ (Option.bind_congr fun args read => mapM_congr fun arg membership => ?_)
        have shorter := length_lt_of_inner? found
        have short := length_le_of_mem_arguments? read arg membership
        exact ih (by omega) (by omega)

/-- A text without parentheses stands for itself. -/
theorem tree?_of_plain {call : Text} (plain : inner? call = some none) :
    tree? call = some (.leaf call) := by
  simp only [tree?, treeFrom?, plain]

/-- A call stands for the trees of its arguments. -/
theorem tree?_of_list {call : Text} (found : inner? call = some (some list)) :
    tree? call = ((arguments? list).bind fun args => args.mapM tree?).map .node := by
  rw [tree?, treeFrom?_of_list found]
  refine congrArg _ (Option.bind_congr fun args read => mapM_congr fun arg membership => ?_)
  have shorter := length_lt_of_inner? found
  have short := length_le_of_mem_arguments? read arg membership
  exact treeFrom?_eq (by omega) (Nat.lt_succ_self _)

end Docweave.Call
