import Docweave.Proofs.Comment.Words

/-!
# Reading comments as sections

While rows are read, the sections that are done and the open ones, from the outermost one inwards, hold the
words of the rows so far in order.  An item may become the text of a list below it, lists are closed into
those around them, and a row may end them all and start a section: every one of these moves keeps the
words where they are.  So the sections of a comment hold exactly the words of its rows, as long as no
literal block is opened.
-/

namespace Docweave.Comment

open Text

variable {row bullet : Text} {current : Section} {around opened : List Section}

namespace Section

/-! ## Open sections -/

/-- The words of open sections, from the outermost one inwards. -/
def stackWords : List Section → List Text
  | [] => []
  | current :: around => stackWords around ++ current.openWords

/-- The sections around the current one have bullets. -/
def Stacked : List Section → Prop
  | [] => True
  | current :: around => current.Plain ∧ ∀ outer ∈ around, outer.Plain ∧ outer.head.bullet ≠ none

theorem stacked_single (plain : current.Plain) : Stacked [current] :=
  ⟨plain, List.forall_mem_nil _⟩

/-- What the current section gains stands at the end of the open sections. -/
theorem Stacked.grow {grown : Section} {added : List Text} (stacked : Stacked (current :: around))
    (grows : grown.Plain ∧ grown.openWords = current.openWords ++ added) :
    Stacked (grown :: around) ∧
      stackWords (grown :: around) = stackWords (current :: around) ++ added := by
  obtain ⟨-, enclosing⟩ := stacked
  obtain ⟨plain, words_eq⟩ := grows
  exact ⟨⟨plain, enclosing⟩, by rw [stackWords, words_eq, stackWords, List.append_assoc]⟩

/-- A section is opened inside of the current one, which has a bullet. -/
theorem Stacked.push {inner : Section} (stacked : Stacked (current :: around))
    (bulleted : current.head.bullet ≠ none) (plain : inner.Plain) :
    Stacked (inner :: current :: around) := by
  obtain ⟨plainCurrent, enclosing⟩ := stacked
  exact ⟨plain, List.forall_mem_cons.mpr ⟨⟨plainCurrent, bulleted⟩, enclosing⟩⟩

/-! ## Moves of the reading -/

namespace Reading

variable (number : Int)

/-- Closing a section into the one around it moves its words to the end of those of the latter. -/
theorem stacked_closeInto (count : Nat) (current : Section) (around : List Section)
    (stacked : Stacked (current :: around)) :
    Stacked (closeInto number count current around) ∧
      stackWords (closeInto number count current around) = stackWords (current :: around) := by
  induction count generalizing current around with
  | zero => exact ⟨stacked, rfl⟩
  | succ count ih =>
      cases around with
      | nil => exact ⟨stacked, rfl⟩
      | cons outer around =>
          obtain ⟨plain, enclosing⟩ := stacked
          obtain ⟨⟨plainOuter, bulleted⟩, others⟩ := List.forall_mem_cons.mp enclosing
          have pushed : (outer.pushItem (.nested (current.close number))).Plain :=
            plainOuter.pushItem bulleted nofun
          obtain ⟨stackedRest, words_eq⟩ := ih _ around ⟨pushed, others⟩
          rw [closeInto]
          refine ⟨stackedRest, words_eq.trans ?_⟩
          simp only [stackWords, openWords_pushItem, itemWords, plain.words_close, List.append_nil,
            List.append_assoc]

/-- Closing sections leaves those around them, the innermost of which keeps what it holds besides its
items. -/
theorem exists_closeInto (count : Nat) (current : Section) (around : List Section)
    (within : count ≤ around.length) :
    ∃ matching, closeInto number count current around = matching :: around.drop count ∧
      ((current :: around)[count]?).map Section.head = some matching.head := by
  induction count generalizing current around with
  | zero => exact ⟨current, rfl, rfl⟩
  | succ count ih =>
      cases around with
      | nil => exact absurd within (Nat.not_succ_le_zero count)
      | cons outer around =>
          obtain ⟨matching, closed, head_eq⟩ :=
            ih (outer.pushItem (.nested (current.close number))) around (Nat.le_of_succ_le_succ within)
          refine ⟨matching, by rw [closeInto, closed, List.drop_succ_cons], ?_⟩
          rw [← head_eq, List.getElem?_cons_succ]
          cases count with
          | zero => simp [head_pushItem]
          | succ count => rfl

/-- What has been read: the sections that are done, and then the open ones. -/
def words (reading : Reading) : List Text :=
  reading.done.reverse.flatMap Section.words ++ stackWords reading.opened

theorem words_settleRowsAfter (empty : Nat) (done : List Section) :
    (settleRowsAfter empty done).reverse.flatMap Section.words =
      done.reverse.flatMap Section.words := by
  cases done with
  | nil => rfl
  | cons last earlier =>
      obtain ⟨head, items⟩ := last
      simp [settleRowsAfter, modifyHead, Section.words]

theorem opened_finish (reading : Reading) : reading.finish.opened = [] := by
  rw [finish]
  split
  · rename_i closed
    cases opened_eq : reading.opened with
    | nil => rfl
    | cons current around =>
        rw [opened_eq, closeTo] at closed
        obtain ⟨matching, split, -⟩ := exists_closeInto reading.number _ current around (Nat.sub_le _ 0)
        rw [split] at closed
        cases closed
  · rfl

theorem words_finish {reading : Reading} (stacked : Stacked reading.opened) :
    reading.finish.words = reading.words := by
  cases opened_eq : reading.opened with
  | nil => simp [finish, opened_eq, closeTo]
  | cons current around =>
      rw [opened_eq] at stacked
      obtain ⟨matching, closed, -⟩ :=
        exists_closeInto reading.number around.length current around (Nat.le_refl _)
      obtain ⟨stackedClosed, words_eq⟩ :=
        stacked_closeInto reading.number around.length current around stacked
      rw [List.drop_length] at closed
      rw [closed] at stackedClosed words_eq
      have finished : reading.finish =
          { reading with done := matching.close reading.number :: reading.done, opened := [] } := by
        rw [finish, opened_eq, closeTo, Nat.sub_zero, closed]
      rw [finished, words, words, opened_eq, ← words_eq]
      simp [stackWords, stackedClosed.1.words_close]

theorem words_start {reading : Reading} (closed : reading.opened = []) :
    Stacked reading.start.opened ∧ reading.start.words = reading.words := by
  refine ⟨stacked_single (plain_ofHead (List.forall_mem_nil _)), ?_⟩
  rw [words, words, closed, start]
  simp only [words_settleRowsAfter, stackWords]
  rfl

theorem words_nest (stacked : Stacked (current :: around)) (bulleted : current.head.bullet ≠ none)
    (ordinary : Ordinary row) (found : bullet? row = some bullet) :
    Stacked (nest number bullet row current around) ∧
      stackWords (nest number bullet row current around) =
        stackWords (current :: around) ++ rowWords (itemText row) := by
  rw [nest]
  split
  · -- The last item becomes the text of the section that holds the new list.
    rename_i last isLast
    obtain ⟨earlier, items_eq⟩ := List.getLast?_eq_some_iff.mp isLast
    obtain ⟨plain, enclosing⟩ := stacked
    have lastPlain := plain.texts last (by simp [items_eq])
    rw [items_eq, List.dropLast_concat]
    have shortened : (Section.mk current.head earlier).Plain :=
      ⟨plain.rows,
        fun text membership => plain.texts text (items_eq ▸ List.mem_append_left _ membership),
        fun unbulleted => absurd unbulleted bulleted⟩
    have fresh : (ofHead { startRow := number - 1, bullet := some bullet, rows := [last] }).Plain :=
      plain_ofHead (List.forall_mem_singleton.mpr lastPlain)
    have stackedShort : Stacked (Section.mk current.head earlier :: around) := ⟨shortened, enclosing⟩
    obtain ⟨stackedNested, words_eq⟩ :=
      (stackedShort.push bulleted fresh).grow (fresh.addItem ordinary found rfl)
    refine ⟨stackedNested, words_eq.trans (congrArg (· ++ _) ?_)⟩
    simp [stackWords, openWords, ofHead, items_eq, itemWords_append, itemWords]
  · have fresh : (ofHead { startRow := number - 1, bullet := some bullet }).Plain :=
      plain_ofHead (List.forall_mem_nil _)
    obtain ⟨stackedNested, words_eq⟩ :=
      (stacked.push bulleted fresh).grow (fresh.addItem ordinary found rfl)
    refine ⟨stackedNested, words_eq.trans (congrArg (· ++ _) ?_)⟩
    simp [stackWords, openWords, ofHead, itemWords]

/-- Lists are closed until one with the given bullet is current, and no word is moved. -/
theorem exists_closeTo {depth : Nat} (stacked : Stacked (current :: around))
    (isDepth : around.reverse.findIdx? (fun outer => outer.head.bullet == some bullet) = some depth) :
    ∃ matching outer, closeTo number depth (current :: around) = matching :: outer ∧
      matching.head.bullet = some bullet ∧ Stacked (matching :: outer) ∧
      stackWords (matching :: outer) = stackWords (current :: around) := by
  obtain ⟨inside, isBullet, -⟩ := List.findIdx?_eq_some_iff_getElem.mp isDepth
  obtain ⟨matching, closed, head_eq⟩ :=
    exists_closeInto number (around.length - depth) current around (Nat.sub_le _ _)
  obtain ⟨stackedClosed, words_eq⟩ :=
    stacked_closeInto number (around.length - depth) current around stacked
  rw [closed] at stackedClosed words_eq
  refine ⟨matching, _, closed, ?_, stackedClosed, words_eq⟩
  -- Sections are found from the outside and closed from the inside.
  rw [List.length_reverse] at inside
  have from_inside : around.length - depth = around.length - 1 - depth + 1 := by omega
  rw [from_inside, List.getElem?_cons_succ, List.getElem?_eq_getElem (by omega),
    Option.map_some, Option.some.injEq] at head_eq
  rw [List.getElem_reverse, beq_iff_eq, head_eq] at isBullet
  exact isBullet

/-- An item is put at the end of the open sections, wherever its list stands among them. -/
theorem words_takeItem (stacked : Stacked (current :: around)) (ordinary : Ordinary row)
    (found : bullet? row = some bullet) :
    Stacked (takeItem number bullet row (current :: around)) ∧
      stackWords (takeItem number bullet row (current :: around)) =
        stackWords (current :: around) ++ rowWords (itemText row) := by
  rw [takeItem]
  split
  · obtain ⟨head, items⟩ := current
    have marked : (Section.mk { head with bullet := some bullet } items).Plain :=
      ⟨stacked.1.rows, stacked.1.texts, fun unbulleted => absurd unbulleted (Option.some_ne_none bullet)⟩
    exact stacked.grow (marked.addItem ordinary found rfl)
  · rename_i other
    split
    · exact words_nest number stacked (fun unbulleted => other (.inl unbulleted)) ordinary found
    · rename_i depth isDepth
      obtain ⟨matching, outer, closed, bullet_eq, stackedClosed, words_eq⟩ :=
        exists_closeTo number stacked isDepth
      rw [closed, ← words_eq]
      exact stackedClosed.grow (stackedClosed.1.addItem ordinary found bullet_eq)

variable {reading : Reading}

/-- A row that starts no item adds itself when the current section takes it. -/
theorem words_takeText? (stacked : Stacked opened) (ordinary : Ordinary row)
    (taken : takeText? row opened = some around) :
    Stacked around ∧ stackWords around = stackWords opened ++ rowWords row := by
  cases opened with
  | nil => cases taken
  | cons current others =>
      rw [takeText?] at taken
      split at taken
      · rename_i unbulleted
        cases taken
        exact stacked.grow (stacked.1.addRow ordinary unbulleted)
      · rename_i bullet isBullet
        split at taken
        · cases taken
          have bulleted : current.head.bullet ≠ none := by rw [isBullet]; exact Option.some_ne_none _
          exact stacked.grow (stacked.1.continueItem ordinary bulleted)
        · cases taken

/-- A row starts a section when none is open. -/
theorem exists_opened (stacked : Stacked reading.opened) :
    ∃ current around, (if reading.opened.isEmpty then reading.start else reading).opened =
        current :: around ∧ Stacked (current :: around) ∧
      (if reading.opened.isEmpty then reading.start else reading).words = reading.words := by
  cases opened_eq : reading.opened with
  | nil =>
      obtain ⟨stackedStart, words_eq⟩ := words_start opened_eq
      exact ⟨_, _, rfl, stackedStart, words_eq⟩
  | cons current around =>
      rw [opened_eq] at stacked
      exact ⟨current, around, opened_eq, stacked, rfl⟩

/-- A row that belongs to none of the open sections starts a new one. -/
theorem words_startWith (stacked : Stacked reading.opened) (ordinary : Ordinary row) :
    let fresh := reading.finish.start
    Stacked (fresh.opened.map (addRow row)) ∧
      { fresh with opened := fresh.opened.map (addRow row) }.words = reading.words ++ rowWords row := by
  intro fresh
  obtain ⟨stackedFresh, words_eq⟩ := words_start reading.opened_finish
  obtain ⟨stackedAdded, added_eq⟩ := stackedFresh.grow (stackedFresh.1.addRow ordinary rfl)
  refine ⟨stackedAdded, ?_⟩
  have single : stackWords (fresh.opened.map (addRow row)) = stackWords fresh.opened ++ rowWords row :=
    added_eq
  rw [← words_finish stacked, ← words_eq, words, words, single, List.append_assoc]

/-- Reading a row that is not blank adds what it says. -/
theorem words_readText (stacked : Stacked reading.opened) (ordinary : Ordinary row) :
    Stacked (reading.readText row).opened ∧
      (reading.readText row).words = reading.words ++ rowWords (itemText row) := by
  obtain ⟨current, around, opened_eq, stackedReady, words_eq⟩ := exists_opened stacked
  rw [readText]
  generalize (if reading.opened.isEmpty then reading.start else reading) = ready at opened_eq words_eq
  rw [← words_eq]
  cases found : bullet? row with
  | some bullet =>
      obtain ⟨stackedTaken, taken_eq⟩ := words_takeItem ready.number stackedReady ordinary found
      simp only [opened_eq]
      exact ⟨stackedTaken, by rw [words, words, taken_eq, opened_eq, List.append_assoc]⟩
  | none =>
      rw [itemText_of_bullet?_eq_none found]
      rw [← opened_eq] at stackedReady
      cases taken : takeText? row ready.opened with
      | some opened =>
          obtain ⟨stackedTaken, taken_eq⟩ := words_takeText? stackedReady ordinary taken
          exact ⟨stackedTaken, by rw [words, words, taken_eq, List.append_assoc]⟩
      | none => exact words_startWith stackedReady ordinary

/-- Reading a row adds what it says. -/
theorem words_step (stacked : Stacked reading.opened) (ordinary : Ordinary row) :
    Stacked (reading.step row).opened ∧
      (reading.step row).words = reading.words ++ rowWords (itemText row) := by
  rw [step]
  split
  · rename_i blank
    have silent : rowWords (itemText row) = [] := by
      rw [itemText_of_bullet?_eq_none (bullet?_of_blank blank),
        rowWords_of_blank (List.all_eq_true.mp blank)]
    rw [silent, List.append_nil, ← words_finish stacked]
    refine ⟨?_, rfl⟩
    change Stacked reading.finish.opened
    rw [opened_finish]
    trivial
  · exact words_readText stacked ordinary

theorem words_foldl {rows : List Text} (stacked : Stacked reading.opened)
    (ordinary : ∀ row ∈ rows, Ordinary row) :
    Stacked (rows.foldl step reading).opened ∧ (rows.foldl step reading).words =
      reading.words ++ rows.flatMap fun row => rowWords (itemText row) := by
  induction rows generalizing reading with
  | nil => exact ⟨stacked, (List.append_nil _).symm⟩
  | cons row rows ih =>
      obtain ⟨first, later⟩ := List.forall_mem_cons.mp ordinary
      obtain ⟨stackedStep, step_eq⟩ := words_step stacked first
      obtain ⟨stackedAll, all_eq⟩ := ih stackedStep later
      exact ⟨stackedAll, by rw [List.foldl_cons, all_eq, step_eq, List.flatMap_cons, List.append_assoc]⟩

end Reading

/-! ## Reading comments -/

/-- No word of a comment is lost, doubled or moved when its rows are read as sections. -/
theorem words_split {rows : List Text} (ordinary : ∀ row ∈ rows, Ordinary row) (number : Int) :
    (split rows number).flatMap words = rows.flatMap fun row => rowWords (itemText row) := by
  have start : Stacked (⟨[], [], number, 0⟩ : Reading).opened := trivial
  obtain ⟨stacked, read_eq⟩ := Reading.words_foldl start ordinary
  have finished := Reading.words_finish stacked
  rw [Reading.words, Reading.opened_finish, stackWords, List.append_nil] at finished
  rw [split, Reading.words_settleRowsAfter, finished, read_eq]
  rfl

/-- A list that goes on after the list below one of its items, and a definition after both. -/
theorem words_split_nested :
    let rows : List Text :=
      ["The parts", " * one", "   more", "   - deep", " * two", "the end", "", "`run`: starts"]
    (∀ row ∈ rows, Ordinary row) ∧ (split rows 1).flatMap words =
      ["The".toList, "parts".toList, "one".toList, "more".toList, "deep".toList, "two".toList,
        "the".toList, "end".toList, "`run`:".toList, "starts".toList] := by
  intro rows
  have ordinary : ∀ row ∈ rows, Ordinary row := by decide
  exact ⟨ordinary, (words_split ordinary 1).trans (by decide)⟩

end Section

end Docweave.Comment
