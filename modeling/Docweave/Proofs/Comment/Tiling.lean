import Mathlib.Algebra.Ring.Int.Defs
import Mathlib.Data.List.Chain
import Docweave.Proofs.Comment.Turns

/-!
# Where sections lie

The sections of rows lie one after the other with blank rows before, between and after them, and a row that
is not blank lies in exactly one of them.  Each section is what its own rows are read as, whatever stands
before and behind: the blank rows around it are all that it knows of the others.
-/

namespace Docweave.Comment.Section

open Text

variable {row : Text} {rows gap held blanks : List Text} {first number : Int} {core part : Section}
  {parts done opened : List Section}

/-- A section with a number of blank rows after it. -/
def followedBy (blanks : Nat) (part : Section) : Section :=
  part.modifyHead fun head => { head with rowsAfter := blanks }

@[simp] theorem head_followedBy (blanks : Nat) (part : Section) :
    (part.followedBy blanks).head = { part.head with rowsAfter := blanks } := by
  cases part
  rfl

@[simp] theorem followedBy_followedBy (first second : Nat) (part : Section) :
    (part.followedBy first).followedBy second = part.followedBy second := by
  cases part
  rfl

namespace Reading

theorem settleRowsAfter_cons (empty : Nat) (last : Section) (earlier : List Section) :
    settleRowsAfter empty (last :: earlier) = last.followedBy empty :: earlier := rfl

end Reading

/-! ## Tilings -/

/-- Rows from a given one on, the last of which are a gap of blank rows, and the sections they fall into.
A section is read from its rows alone, with the number of blank rows before it. -/
inductive Tiled (first : Int) : (rows gap : List Text) → List Section → Prop
  | blank {gap : List Text} (blank : ∀ row ∈ gap, allBlank row = true) : Tiled first gap gap []
  | add {rows gap held blanks : List Text} {parts : List Section} {core : Section}
      (earlier : Tiled first rows gap parts) (nonempty : held ≠ [])
      (solid : ∀ row ∈ held, allBlank row = false) (blank : ∀ row ∈ blanks, allBlank row = true)
      (startRow_eq : core.head.startRow = first + rows.length)
      (rowsBefore_eq : core.head.rowsBefore = gap.length)
      (rowCount_eq : core.head.rowCount = held.length)
      (alone : (held.foldl Reading.step ⟨[], [], first + rows.length, gap.length⟩).finish =
        ⟨[core], [], first + rows.length + held.length, 0⟩) :
      Tiled first (rows ++ held ++ blanks) blanks (parts ++ [core.followedBy blanks.length])

namespace Tiled

theorem gap_suffix (tiled : Tiled first rows gap parts) : gap <:+ rows := by
  cases tiled with
  | blank => exact List.suffix_refl _
  | add => exact List.suffix_append _ _

theorem gap_blank (tiled : Tiled first rows gap parts) : ∀ row ∈ gap, allBlank row = true := by
  cases tiled with
  | blank blank => exact blank
  | add _ _ _ blank => exact blank

/-- The last section reaches up to the gap. -/
theorem last (tiled : Tiled first rows gap parts) : ∀ part ∈ parts.getLast?,
    part.head.startRow + part.head.rowCount + part.head.rowsAfter = first + rows.length ∧
      part.head.rowsAfter = gap.length := by
  cases tiled with
  | blank => exact nofun
  | add earlier nonempty solid blank startRow_eq rowsBefore_eq rowCount_eq =>
      intro part isLast
      rw [List.getLast?_concat, Option.mem_some_iff] at isLast
      subst isLast
      simp only [head_followedBy, startRow_eq, rowCount_eq, List.length_append, and_true]
      omega

theorem rows_eq_gap (tiled : Tiled first rows gap parts) (none : parts = []) : rows = gap := by
  cases tiled with
  | blank => rfl
  | add => exact absurd none (List.append_ne_nil_of_right_ne_nil _ (List.cons_ne_nil _ _))

/-- The first section starts after the blank rows before it. -/
theorem head (tiled : Tiled first rows gap parts) : ∀ part ∈ parts.head?,
    part.head.startRow = first + part.head.rowsBefore := by
  induction tiled with
  | blank => exact nofun
  | @add rows gap held blanks parts core earlier _ _ _ startRow_eq rowsBefore_eq _ _ ih =>
      intro part isFirst
      by_cases isEmpty : parts = []
      · rw [isEmpty, List.nil_append, List.head?_cons, Option.mem_some_iff] at isFirst
        subst isFirst
        rw [head_followedBy, startRow_eq, rowsBefore_eq, earlier.rows_eq_gap isEmpty]
      · rw [List.head?_append_of_ne_nil _ isEmpty] at isFirst
        exact ih part isFirst

/-- A section starts where the blank rows after the one before it end. -/
theorem isChain (tiled : Tiled first rows gap parts) : parts.IsChain fun (part next : Section) =>
    next.head.startRow = part.head.startRow + part.head.rowCount + part.head.rowsAfter ∧
      part.head.rowsAfter = next.head.rowsBefore := by
  induction tiled with
  | blank => exact .nil
  | add earlier _ _ _ startRow_eq rowsBefore_eq _ _ ih =>
      refine List.isChain_append.mpr ⟨ih, .singleton _, ?_⟩
      intro part isLast next isNext
      obtain rfl := Option.mem_some_iff.mp isNext
      obtain ⟨reaches, rowsAfter_eq⟩ := earlier.last part isLast
      rw [head_followedBy]
      exact ⟨startRow_eq.trans reaches.symm, rowsAfter_eq.trans rowsBefore_eq.symm⟩

theorem rowCount_pos (tiled : Tiled first rows gap parts) : ∀ part ∈ parts, 1 ≤ part.head.rowCount := by
  induction tiled with
  | blank => exact List.forall_mem_nil _
  | add _ nonempty _ _ _ _ rowCount_eq _ ih =>
      have positive := List.length_pos_iff.mpr nonempty
      refine List.forall_mem_append.mpr ⟨ih, List.forall_mem_singleton.mpr ?_⟩
      rw [head_followedBy]
      simp only [rowCount_eq]
      omega

/-- The rows of the sections and the blank ones before and behind them are all rows. -/
theorem sum (tiled : Tiled first rows gap parts) :
    (parts.map fun part => (part.head.rowsBefore : Int) + part.head.rowCount).sum + gap.length =
      rows.length := by
  induction tiled with
  | blank => simp
  | add _ _ _ _ _ rowsBefore_eq rowCount_eq _ ih =>
      simp only [List.map_append, List.map_cons, List.map_nil, List.sum_append, List.sum_cons,
        List.sum_nil, head_followedBy, rowsBefore_eq, rowCount_eq, List.length_append]
      omega

/-- A section lies within the rows. -/
theorem within (tiled : Tiled first rows gap parts) : ∀ part ∈ parts,
    first ≤ part.head.startRow ∧ part.head.startRow + part.head.rowCount ≤ first + rows.length := by
  induction tiled with
  | blank => exact List.forall_mem_nil _
  | add _ _ _ _ startRow_eq _ rowCount_eq _ ih =>
      simp only [List.length_append]
      refine List.forall_mem_append.mpr ⟨?_, List.forall_mem_singleton.mpr ?_⟩
      · intro part member
        obtain ⟨from_first, to_last⟩ := ih part member
        omega
      · rw [head_followedBy]
        simp only [startRow_eq, rowCount_eq]
        omega

/-- The rows that are not blank are those of sections. -/
theorem solid_iff (tiled : Tiled first rows gap parts) : ∀ (index : Nat) (row : Text),
    rows[index]? = some row → (allBlank row = false ↔ ∃ part ∈ parts,
      part.head.startRow ≤ first + index ∧ first + index < part.head.startRow + part.head.rowCount) := by
  induction tiled with
  | blank blank =>
      intro index row found
      rw [blank row (List.mem_of_getElem? found)]
      exact iff_of_false Bool.true_eq_false.mp (fun ⟨part, member, _⟩ => absurd member List.not_mem_nil)
  | @add rows gap held blanks parts core earlier _ solid blank startRow_eq _ rowCount_eq _ ih =>
      intro index row found
      simp only [List.mem_append, List.mem_singleton, or_and_right, exists_or, exists_eq_left,
        head_followedBy, startRow_eq, rowCount_eq]
      by_cases early : index < rows.length
      · rw [List.append_assoc, List.getElem?_append_left early] at found
        rw [ih index row found]
        exact (or_iff_left (by omega)).symm
      · have late : ¬ ∃ part ∈ parts, part.head.startRow ≤ first + index ∧
            first + index < part.head.startRow + part.head.rowCount := by
          rintro ⟨part, member, -, inside⟩
          have ends := (earlier.within part member).2
          omega
        rw [or_iff_right late]
        rw [List.append_assoc, List.getElem?_append_right (Nat.not_lt.mp early)] at found
        by_cases inHeld : index - rows.length < held.length
        · rw [List.getElem?_append_left inHeld] at found
          exact iff_of_true (solid row (List.mem_of_getElem? found)) (by omega)
        · rw [List.getElem?_append_right (Nat.not_lt.mp inHeld)] at found
          rw [blank row (List.mem_of_getElem? found)]
          exact iff_of_false Bool.true_eq_false.mp (by omega)

theorem parts_eq_nil_iff (tiled : Tiled first rows gap parts) :
    parts = [] ↔ ∀ row ∈ rows, allBlank row = true := by
  cases tiled with
  | blank blank => exact iff_of_true rfl blank
  | add _ nonempty solid =>
      refine iff_of_false (List.append_ne_nil_of_right_ne_nil _ (List.cons_ne_nil _ _)) ?_
      intro blank
      obtain ⟨row, member⟩ := List.exists_mem_of_ne_nil _ nonempty
      have isBlank := blank row (by simp [member])
      rw [solid row member] at isBlank
      cases isBlank

/-- One more blank row is one more row after the last section. -/
theorem blankRow (tiled : Tiled first rows gap (Reading.settleRowsAfter gap.length done).reverse)
    (isBlank : allBlank row = true) :
    Tiled first (rows ++ [row]) (gap ++ [row])
      (Reading.settleRowsAfter (gap ++ [row]).length done).reverse := by
  have blankGap : ∀ other ∈ gap ++ [row], allBlank other = true :=
    List.forall_mem_append.mpr ⟨tiled.gap_blank, List.forall_mem_singleton.mpr isBlank⟩
  cases done with
  | nil =>
      rw [tiled.rows_eq_gap rfl]
      exact .blank blankGap
  | cons last earlier =>
      rw [Reading.settleRowsAfter_cons, List.reverse_cons] at tiled ⊢
      generalize parts_eq : earlier.reverse ++ [last.followedBy gap.length] = parts at tiled
      cases tiled with
      | blank => exact absurd parts_eq (List.append_ne_nil_of_right_ne_nil _ (List.cons_ne_nil _ _))
      | @add _ _ held _ _ core earlierTiled nonempty solid _ startRow rowsBefore rowCount alone =>
          -- The last section is what its rows alone are read as, so it only gets the longer gap.
          obtain ⟨earlier_eq, last_eq⟩ := List.append_inj' parts_eq rfl
          rw [List.singleton_inj] at last_eq
          rw [List.append_assoc, earlier_eq, ← followedBy_followedBy gap.length, last_eq,
            followedBy_followedBy]
          exact .add earlierTiled nonempty solid blankGap startRow rowsBefore rowCount alone

end Tiled

/-! ## Reading -/

/-- Closing a section counts the rows since its first one and leaves it where it is. -/
theorem close_place (number : Int) (part : Section) :
    (part.close number).origin = part.origin ∧
      (part.close number).head.rowCount = number - part.head.startRow := by
  obtain ⟨head, items⟩ := part
  rw [close, origin, origin, modifyHead, head_mk, head_mk]
  dsimp only
  split
  · split <;> exact ⟨rfl, rfl⟩
  · exact ⟨rfl, rfl⟩

namespace Reading

variable {reading : Reading}

/-- Where the reading stands after some rows.  Between sections these are tiled.  Within one, the rows from
its first one on have been read as if there were no sections before it. -/
inductive Covers (first : Int) : List Text → Reading → Prop
  | closed {rows gap : List Text} {done : List Section} {number : Int}
      (tiled : Tiled first rows gap (settleRowsAfter gap.length done).reverse)
      (number_eq : number = first + rows.length) : Covers first rows ⟨done, [], number, gap.length⟩
  | opened {rows gap held : List Text} {done opened : List Section} {number : Int}
      (tiled : Tiled first rows gap done.reverse) (nonempty : held ≠ [])
      (solid : ∀ row ∈ held, allBlank row = false)
      (isOrigin : outerOrigin? opened = some (first + rows.length, gap.length))
      (number_eq : number = first + rows.length + held.length)
      (alone : held.foldl step ⟨[], [], first + rows.length, gap.length⟩ = ⟨[], opened, number, 0⟩) :
      Covers first (rows ++ held) ⟨done, opened, number, 0⟩

/-- Ending the open sections puts one more section behind the others. -/
theorem Covers.exists_finish (covers : Covers first rows reading) :
    ∃ gap done, reading.finish = ⟨done, [], first + rows.length, gap.length⟩ ∧
      Tiled first rows gap (settleRowsAfter gap.length done).reverse := by
  cases covers with
  | @closed _ gap done number tiled number_eq =>
      exact ⟨gap, done, by rw [finish_of_closed rfl, number_eq], tiled⟩
  | @opened rows gap held done opened number tiled nonempty solid isOrigin number_eq alone =>
      obtain ⟨outermost, outermost_origin, finished⟩ :=
        Reading.exists_finish (ne_nil_of_outerOrigin? isOrigin) number 0
      obtain ⟨place_eq, rowCount_eq⟩ := outermost.close_place number
      have origin_eq : outermost.origin = (first + rows.length, gap.length) :=
        Option.some.inj (outermost_origin.symm.trans isOrigin)
      obtain ⟨outerStart, -⟩ := Prod.mk.inj origin_eq
      obtain ⟨startRow_eq, rowsBefore_eq⟩ := Prod.mk.inj (place_eq.trans origin_eq)
      refine ⟨[], outermost.close number :: done, ?_, ?_⟩
      · rw [finished, number_eq, List.length_append]
        simp only [List.length_nil, Reading.mk.injEq, true_and, and_true]
        omega
      · rw [settleRowsAfter_cons, List.reverse_cons, ← List.append_nil (rows ++ held)]
        refine .add tiled nonempty solid (List.forall_mem_nil _) startRow_eq rowsBefore_eq ?_ ?_
        · rw [rowCount_eq, outerStart]
          omega
        · rw [alone, finished, number_eq]

/-- A row that is not blank starts a section where none is open. -/
theorem Covers.of_closed (tiled : Tiled first rows gap (settleRowsAfter gap.length done).reverse)
    (solid : allBlank row = false) :
    Covers first (rows ++ [row]) (step ⟨done, [], first + rows.length, gap.length⟩ row) := by
  obtain ⟨after, taken⟩ := exists_takeRow?_fresh (first + rows.length) row gap.length
  rw [step_of_closed solid taken]
  refine .opened tiled (List.cons_ne_nil _ _) (List.forall_mem_singleton.mpr solid) ?_ rfl ?_
  · exact outerOrigin?_takeRow? taken
  · exact step_of_closed solid taken

/-- Reading a row keeps the sections and the rows together. -/
theorem Covers.step (covers : Covers first rows reading) (row : Text) :
    Covers first (rows ++ [row]) (reading.step row) := by
  cases blank : allBlank row with
  | true =>
      obtain ⟨gap, done, finished, tiled⟩ := covers.exists_finish
      have tiledRow := tiled.blankRow blank
      have size : gap.length + 1 = (gap ++ [row]).length := by simp
      rw [step_of_blank blank, finished]
      simp only [size]
      refine .closed tiledRow ?_
      rw [List.length_append, List.length_singleton]
      omega
  | false =>
      have started := covers.exists_finish
      cases covers with
      | closed tiled number_eq =>
          rw [number_eq]
          exact .of_closed tiled blank
      | @opened rows gap held done opened number tiled nonempty solid isOrigin number_eq alone =>
          have isOpen := ne_nil_of_outerOrigin? isOrigin
          cases taken : takeRow? number row opened with
          | some after =>
              rw [step_of_takeRow? blank isOpen taken, List.append_assoc]
              refine .opened tiled (List.append_ne_nil_of_left_ne_nil nonempty _)
                (List.forall_mem_append.mpr ⟨solid, List.forall_mem_singleton.mpr blank⟩)
                ((outerOrigin?_takeRow? taken).trans isOrigin) ?_ ?_
              · rw [List.length_append, List.length_singleton]
                omega
              · rw [List.foldl_append, alone]
                exact step_of_takeRow? blank isOpen taken
          | none =>
              -- The row ends the open sections and is read again where none is open.
              obtain ⟨gap, done, finished, tiledDone⟩ := started
              rw [step_of_refused blank isOpen taken, finished]
              exact .of_closed tiledDone blank

theorem Covers.foldl (covers : Covers first rows reading) (others : List Text) :
    Covers first (rows ++ others) (others.foldl Reading.step reading) := by
  induction others generalizing rows reading with
  | nil => rwa [List.append_nil]
  | cons row others ih =>
      rw [List.foldl_cons, List.append_cons]
      exact ih (covers.step row)

/-- The sections that have been read when no row is left. -/
def sections (reading : Reading) : List Section :=
  (settleRowsAfter reading.finish.empty reading.finish.done).reverse

end Reading

theorem split_eq (rows : List Text) (number : Int) :
    split rows number = (rows.foldl Reading.step ⟨[], [], number, 0⟩).sections := rfl

theorem exists_tiled (rows : List Text) (number : Int) :
    ∃ gap, Tiled number rows gap (split rows number) := by
  have nothing : Tiled number [] [] (Reading.settleRowsAfter 0 []).reverse :=
    .blank (List.forall_mem_nil _)
  have start : Reading.Covers number [] ⟨[], [], number, 0⟩ := .closed nothing (Int.add_zero _).symm
  have covers := start.foldl rows
  rw [List.nil_append] at covers
  obtain ⟨gap, done, finished, tiled⟩ := covers.exists_finish
  refine ⟨gap, ?_⟩
  rw [split_eq, Reading.sections, finished]
  exact tiled

/-- Reading ends, and the sections lie one after the other: each starts where the blank rows behind the one
before it end, they hold the rows that are not blank, and with the blank rows around them they are all
rows. -/
theorem tiles_split (rows : List Text) (number : Int) :
    let parts := split rows number
    (∃ turns ≤ 2 * rows.length, ∃ reading,
      Reading.turn^[turns] (⟨[], [], number, 0⟩, rows) = (reading, []) ∧ parts = reading.sections) ∧
    (∀ part ∈ parts.head?, part.head.startRow = number + part.head.rowsBefore) ∧
    (parts.IsChain fun (part next : Section) =>
      next.head.startRow = part.head.startRow + part.head.rowCount + part.head.rowsAfter ∧
        part.head.rowsAfter = next.head.rowsBefore) ∧
    (∀ part ∈ parts, 1 ≤ part.head.rowCount ∧ number ≤ part.head.startRow ∧
      part.head.startRow + part.head.rowCount ≤ number + rows.length) ∧
    (∀ (index : Nat) (row : Text), rows[index]? = some row → (allBlank row = false ↔
      ∃ part ∈ parts, part.head.startRow ≤ number + index ∧
        number + index < part.head.startRow + part.head.rowCount)) ∧
    (∀ part ∈ parts.getLast?,
      (parts.map fun part => (part.head.rowsBefore : Int) + part.head.rowCount).sum +
        part.head.rowsAfter = rows.length) ∧
    (parts = [] ↔ ∀ row ∈ rows, allBlank row = true) := by
  intro parts
  obtain ⟨gap, tiled⟩ := exists_tiled rows number
  refine ⟨?_, tiled.head, tiled.isChain, ?_, tiled.solid_iff, ?_, tiled.parts_eq_nil_iff⟩
  · obtain ⟨turns, few, ended⟩ := Reading.exists_turns ⟨[], [], number, 0⟩ rows
    exact ⟨turns, few, _, ended, split_eq rows number⟩
  · intro part member
    exact ⟨tiled.rowCount_pos part member, tiled.within part member⟩
  · intro part isLast
    rw [(tiled.last part isLast).2]
    exact tiled.sum

/-! ## Sections on their own -/

namespace Reading

variable {reading : Reading} {empty : Nat}

theorem foldl_blank (blank : ∀ row ∈ blanks, allBlank row = true) :
    blanks.foldl step ⟨done, [], number, empty⟩ =
      ⟨done, [], number + blanks.length, empty + blanks.length⟩ := by
  induction blanks generalizing number empty with
  | nil => simp
  | cons row blanks ih =>
      obtain ⟨isBlank, others⟩ := List.forall_mem_cons.mp blank
      rw [List.foldl_cons, step_of_blank isBlank, finish_of_closed rfl, ih others]
      simp only [List.length_cons, Reading.mk.injEq, true_and]
      omega

/-- The blank rows behind a section end it and are counted. -/
theorem finish_foldl_blank (blank : ∀ row ∈ blanks, allBlank row = true)
    (finished : reading.finish = ⟨done, [], number, empty⟩) :
    (blanks.foldl step reading).finish =
      ⟨done, [], number + blanks.length, empty + blanks.length⟩ := by
  cases blanks with
  | nil => simpa using finished
  | cons row blanks =>
      obtain ⟨isBlank, others⟩ := List.forall_mem_cons.mp blank
      rw [List.foldl_cons, step_of_blank isBlank, finished, foldl_blank others, finish_of_closed rfl]
      simp only [List.length_cons, Reading.mk.injEq, true_and]
      omega

end Reading

/-- A section that stands behind some rows: the blank rows before it, its own rows and the blank rows behind
it, which together are read as this section alone. -/
structure StandsIn (part : Section) (first : Int) (lead before held behind : List Text) : Prop where
  before_blank : ∀ row ∈ before, allBlank row = true
  held_solid : ∀ row ∈ held, allBlank row = false
  held_nonempty : held ≠ []
  startRow_eq : part.head.startRow = first + (lead ++ before).length
  rowCount_eq : part.head.rowCount = held.length
  alone : split (before ++ held ++ behind) (first + lead.length) = [part]

theorem Tiled.exists_standsIn (tiled : Tiled first rows gap parts) : ∀ part ∈ parts,
    ∃ lead before held behind trail, rows = lead ++ before ++ held ++ behind ++ trail ∧
      part.StandsIn first lead before held behind := by
  induction tiled with
  | blank => exact List.forall_mem_nil _
  | @add rows gap held blanks parts core earlier nonempty solid blank startRow_eq _ rowCount_eq alone ih =>
      refine List.forall_mem_append.mpr ⟨?_, List.forall_mem_singleton.mpr ?_⟩
      · intro part member
        obtain ⟨lead, before, own, behind, trail, rfl, stands⟩ := ih part member
        exact ⟨lead, before, own, behind, trail ++ held ++ blanks, by simp, stands⟩
      · obtain ⟨lead, rfl⟩ := earlier.gap_suffix
        refine ⟨lead, gap, held, blanks, [], by simp, earlier.gap_blank, solid, nonempty, ?_, ?_, ?_⟩
        · rw [head_followedBy]
          exact startRow_eq
        · rw [head_followedBy]
          exact rowCount_eq
        · have started : first + lead.length + gap.length = first + (lead ++ gap).length := by
            rw [List.length_append]
            omega
          rw [split_eq, Reading.sections, List.foldl_append, List.foldl_append,
            Reading.foldl_blank earlier.gap_blank, Nat.zero_add, started,
            Reading.finish_foldl_blank blank alone, Nat.zero_add]
          rfl

end Docweave.Comment.Section
