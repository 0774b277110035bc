import Mathlib.Logic.Function.Iterate
import Docweave.Proofs.Comment.Reading

/-!
# Rows that are read and rows that are put back

A row that belongs to the open sections is taken into them, wherever they stand among others and however
many rows were read before.  A row that belongs to none of them ends them all: it is put back and read
again, and then it starts a section.  So each row is put back at most once, and reading ends after at most
two turns for every row.
-/

namespace Docweave.Comment.Section

open Text

variable {row : Text} {opened after : List Section} {number : Int} {empty : Nat}

theorem head_continueItem (row : Text) (part : Section) : (part.continueItem row).head = part.head := by
  rw [continueItem]
  split
  · rfl
  · exact head_pushItem _ part

/-! ## The outermost section -/

/-- The row on which a section starts and the number of blank rows before it. -/
def origin (part : Section) : Int × Nat := (part.head.startRow, part.head.rowsBefore)

theorem origin_addItem (row : Text) (part : Section) : (part.addItem row).origin = part.origin := by
  rw [origin, addItem]
  split <;> rw [head_pushItem, origin]

/-- Where the outermost of open sections starts. -/
def outerOrigin? (opened : List Section) : Option (Int × Nat) := opened.getLast?.map origin

theorem outerOrigin?_cons_cons (inner current : Section) (around : List Section) :
    outerOrigin? (inner :: current :: around) = outerOrigin? (current :: around) := by
  rw [outerOrigin?, List.getLast?_cons_cons, outerOrigin?]

/-- The current section may change as long as it stays where it is. -/
theorem outerOrigin?_congr {first second : Section} (same : first.origin = second.origin)
    (around : List Section) : outerOrigin? (first :: around) = outerOrigin? (second :: around) := by
  cases around with
  | nil => exact congrArg some same
  | cons outer around => rw [outerOrigin?_cons_cons, outerOrigin?_cons_cons]

theorem ne_nil_of_outerOrigin? {place : Int × Nat} (isPlace : outerOrigin? opened = some place) :
    opened ≠ [] := by
  rintro rfl
  cases isPlace

namespace Reading

theorem outerOrigin?_closeInto (number : Int) (count : Nat) (current : Section) (around : List Section) :
    outerOrigin? (closeInto number count current around) = outerOrigin? (current :: around) := by
  induction count generalizing current around with
  | zero => rfl
  | succ count ih =>
      cases around with
      | nil => rfl
      | cons outer around =>
          rw [closeInto, ih, outerOrigin?_cons_cons]
          exact outerOrigin?_congr (by rw [origin, head_pushItem, origin]) around

theorem outerOrigin?_closeTo (number : Int) (depth : Nat) (opened : List Section) :
    outerOrigin? (closeTo number depth opened) = outerOrigin? opened := by
  cases opened with
  | nil => rfl
  | cons current around => exact outerOrigin?_closeInto number _ current around

theorem outerOrigin?_nest (number : Int) (bullet row : Text) (current : Section)
    (around : List Section) :
    outerOrigin? (nest number bullet row current around) = outerOrigin? (current :: around) := by
  rw [nest]
  split
  · rw [outerOrigin?_cons_cons]
    refine outerOrigin?_congr ?_ around
    rfl
  · exact outerOrigin?_cons_cons _ current around

theorem outerOrigin?_takeItem (number : Int) (bullet row : Text) (opened : List Section) :
    outerOrigin? (takeItem number bullet row opened) = outerOrigin? opened := by
  cases opened with
  | nil => rfl
  | cons current around =>
      rw [takeItem]
      split
      · refine outerOrigin?_congr ((origin_addItem row _).trans ?_) around
        cases current
        rfl
      · split
        · exact outerOrigin?_nest number bullet row current around
        · rename_i depth _
          have kept := outerOrigin?_closeTo number depth (current :: around)
          split
          · rename_i closed
            rwa [closed] at kept
          · rename_i matching outer closed
            rw [← kept, closed]
            exact outerOrigin?_congr (origin_addItem row matching) outer

theorem outerOrigin?_takeText? (taken : takeText? row opened = some after) :
    outerOrigin? after = outerOrigin? opened := by
  cases opened with
  | nil => cases taken
  | cons current around =>
      rw [takeText?] at taken
      split at taken
      · cases taken
        refine outerOrigin?_congr ?_ around
        cases current
        rfl
      · split at taken
        · cases taken
          refine outerOrigin?_congr ?_ around
          rw [origin, head_continueItem, origin]
        · cases taken

/-! ## Rows of open sections -/

/-- The open sections with a row in them, if it belongs there. -/
def takeRow? (number : Int) (row : Text) (opened : List Section) : Option (List Section) :=
  match bullet? row with
  | some bullet => some (takeItem number bullet row opened)
  | none => takeText? row opened

theorem outerOrigin?_takeRow? (taken : takeRow? number row opened = some after) :
    outerOrigin? after = outerOrigin? opened := by
  rw [takeRow?] at taken
  split at taken
  · cases taken
    exact outerOrigin?_takeItem number _ row opened
  · exact outerOrigin?_takeText? taken

/-- A section that starts on a row, after some blank ones. -/
def fresh (number : Int) (empty : Nat) : Section := ofHead { startRow := number, rowsBefore := empty }

/-- Every row belongs to a section that starts with it. -/
theorem exists_takeRow?_fresh (number : Int) (row : Text) (empty : Nat) :
    ∃ after, takeRow? number row [fresh number empty] = some after := by
  rw [takeRow?]
  split
  · exact ⟨_, rfl⟩
  · exact ⟨_, rfl⟩

/-! ## Steps -/

variable {done : List Section} {reading : Reading}

theorem finish_of_closed (closed : reading.opened = []) : reading.finish = reading := by
  rw [finish, closed, closeTo]

/-- Ending the open sections sets the outermost one down. -/
theorem exists_finish (isOpen : opened ≠ []) (number : Int) (empty : Nat) :
    ∃ outermost : Section, outerOrigin? opened = some outermost.origin ∧ ∀ done,
      finish ⟨done, opened, number, empty⟩ = ⟨outermost.close number :: done, [], number, empty⟩ := by
  obtain ⟨current, around, rfl⟩ := List.exists_cons_of_ne_nil isOpen
  obtain ⟨outermost, closed, -⟩ :=
    exists_closeInto number around.length current around (Nat.le_refl _)
  rw [List.drop_length] at closed
  refine ⟨outermost, ?_, ?_⟩
  · rw [← outerOrigin?_closeInto number around.length, closed]
    rfl
  · intro done
    rw [finish, closeTo, Nat.sub_zero, closed]

theorem step_of_blank (blank : allBlank row = true) :
    reading.step row =
      { reading.finish with empty := reading.finish.empty + 1, number := reading.finish.number + 1 } := by
  rw [step, if_pos blank]
  rfl

theorem step_of_takeRow? (solid : allBlank row = false) (isOpen : opened ≠ [])
    (taken : takeRow? number row opened = some after) :
    step ⟨done, opened, number, empty⟩ row = ⟨done, after, number + 1, empty⟩ := by
  have notEmpty : opened.isEmpty = false := by simpa using isOpen
  rw [step, solid, if_neg Bool.false_ne_true, readText]
  simp only [notEmpty, Bool.false_eq_true, if_false]
  rw [takeRow?] at taken
  cases found : bullet? row with
  | some bullet =>
      rw [found] at taken
      cases taken
      rfl
  | none =>
      rw [found] at taken
      simp only [taken]

/-- Where no section is open, a row starts one. -/
theorem step_of_closed (solid : allBlank row = false)
    (taken : takeRow? number row [fresh number empty] = some after) :
    step ⟨done, [], number, empty⟩ row = ⟨settleRowsAfter empty done, after, number + 1, 0⟩ := by
  have started : step ⟨settleRowsAfter empty done, [fresh number empty], number, 0⟩ row =
      ⟨settleRowsAfter empty done, after, number + 1, 0⟩ :=
    step_of_takeRow? solid (List.cons_ne_nil _ _) taken
  rw [step, solid, if_neg Bool.false_ne_true, readText] at started ⊢
  exact started

/-- A row that belongs to no open section is read after they have ended. -/
theorem step_of_refused (solid : allBlank row = false) (isOpen : opened ≠ [])
    (refused : takeRow? number row opened = none) :
    step ⟨done, opened, number, empty⟩ row = (finish ⟨done, opened, number, empty⟩).step row := by
  have notEmpty : opened.isEmpty = false := by simpa using isOpen
  rw [takeRow?] at refused
  cases found : bullet? row with
  | some bullet =>
      rw [found] at refused
      cases refused
  | none =>
      rw [found] at refused
      obtain ⟨outermost, -, finished⟩ := exists_finish isOpen number empty
      have started : takeRow? number row [fresh number empty] = some [(fresh number empty).addRow row] := by
        rw [takeRow?, found]
        rfl
      rw [finished, step_of_closed solid started, step, solid, if_neg Bool.false_ne_true, readText]
      simp only [notEmpty, Bool.false_eq_true, if_false, found, refused, finished]
      rfl

/-! ## Turns -/

/-- One turn of reading, with the rows that are left.  A row that belongs to no open section is put
back. -/
def turn : Reading × List Text → Reading × List Text
  | (reading, []) => (reading, [])
  | (reading, row :: rest) =>
    if allBlank row then (reading.step row, rest)
    else
      let ready := if reading.opened.isEmpty then reading.start else reading
      match takeRow? ready.number row ready.opened with
      | some opened => ({ ready with opened, number := ready.number + 1 }, rest)
      | none => (ready.finish, row :: rest)

theorem turn_of_blank (blank : allBlank row = true) (reading : Reading) (rest : List Text) :
    turn (reading, row :: rest) = (reading.step row, rest) := by
  rw [turn, if_pos blank]

theorem turn_of_closed (solid : allBlank row = false) (done : List Section) (number : Int) (empty : Nat)
    (rest : List Text) :
    turn (⟨done, [], number, empty⟩, row :: rest) = (step ⟨done, [], number, empty⟩ row, rest) := by
  obtain ⟨after, taken⟩ := exists_takeRow?_fresh number row empty
  rw [step_of_closed solid taken, turn, solid, if_neg Bool.false_ne_true]
  rw [fresh] at taken
  simp [start, taken]

/-- A row is read in one turn, or put back in one turn and read in the next. -/
theorem turn_or_turn_turn (reading : Reading) (row : Text) (rest : List Text) :
    turn (reading, row :: rest) = (reading.step row, rest) ∨
      turn (turn (reading, row :: rest)) = (reading.step row, rest) := by
  cases blank : allBlank row with
  | true => exact .inl (turn_of_blank blank reading rest)
  | false =>
      obtain ⟨done, opened, number, empty⟩ := reading
      by_cases closed : opened = []
      · subst closed
        exact .inl (turn_of_closed blank done number empty rest)
      · have notEmpty : opened.isEmpty = false := by simpa using closed
        cases taken : takeRow? number row opened with
        | some after =>
            refine .inl ?_
            rw [step_of_takeRow? blank closed taken, turn, blank, if_neg Bool.false_ne_true]
            simp [notEmpty, taken]
        | none =>
            refine .inr ?_
            obtain ⟨outermost, -, finished⟩ := exists_finish closed number empty
            have putBack : turn (⟨done, opened, number, empty⟩, row :: rest) =
                (finish ⟨done, opened, number, empty⟩, row :: rest) := by
              rw [turn, blank, if_neg Bool.false_ne_true]
              simp [notEmpty, taken]
            rw [putBack, step_of_refused blank closed taken, finished, turn_of_closed blank]

/-- Reading rows ends after at most two turns for each of them. -/
theorem exists_turns (reading : Reading) (rows : List Text) :
    ∃ turns ≤ 2 * rows.length, turn^[turns] (reading, rows) = (rows.foldl step reading, []) := by
  induction rows generalizing reading with
  | nil => exact ⟨0, Nat.le_refl 0, rfl⟩
  | cons row rows ih =>
      obtain ⟨turns, few, ended⟩ := ih (reading.step row)
      rw [List.length_cons, List.foldl_cons, ← ended]
      rcases turn_or_turn_turn reading row rows with once | twice
      · exact ⟨turns + 1, by omega, by rw [Function.iterate_succ_apply, once]⟩
      · exact ⟨turns + 2, by omega, by
          rw [Function.iterate_succ_apply, Function.iterate_succ_apply, twice]⟩

end Reading

end Docweave.Comment.Section
