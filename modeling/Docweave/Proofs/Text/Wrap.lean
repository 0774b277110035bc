import Docweave.Text.Wrap

/-!
# Rows of a wrapped text

A row ends at the last space between two columns, which is dropped.  Where there is no such space it ends
at the upper column and nothing is dropped.  A text has exactly one way to be cut into rows like this, and
wrapping finds it: each row takes a character off the text, so the length of the text is enough fuel.
-/

namespace Docweave.Text

variable {text : Text} {rows : List Text} {low high column : Nat}

/-! ## The last space -/

/-- No column from `low` to `high` holds a space. -/
def Spaceless (low high : Nat) (text : Text) : Prop :=
  ∀ column, low ≤ column → column ≤ high → text[column]? ≠ some ' '

theorem spaceless_of_lt (below : high < low) : Spaceless low high text :=
  fun _ fromLow toHigh => absurd (Nat.le_trans fromLow toHigh) (Nat.not_le.mpr below)

theorem Spaceless.succ (spaceless : Spaceless low high text) (noSpace : text[high + 1]? ≠ some ' ') :
    Spaceless low (high + 1) text := by
  intro column fromLow toHigh
  rcases Nat.le_succ_iff.mp toHigh with earlier | rfl
  · exact spaceless column fromLow earlier
  · exact noSpace

/-- A search for a space finds the last one between the columns, and none only when there is none. -/
theorem lastSpace?_cases (text : Text) (low high : Nat) :
    (∃ column, lastSpace? text low high = some column ∧ low ≤ column ∧ column ≤ high ∧
      text[column]? = some ' ' ∧ Spaceless (column + 1) high text) ∨
    (lastSpace? text low high = none ∧ Spaceless low high text) := by
  induction high with
  | zero =>
      rw [lastSpace?]
      split
      · rename_i isFirst
        exact .inl ⟨0, rfl, Nat.le_of_eq isFirst.1, Nat.le_refl 0, isFirst.2,
          spaceless_of_lt Nat.zero_lt_one⟩
      · rename_i notFirst
        refine .inr ⟨rfl, ?_⟩
        intro column fromLow toHigh isSpace
        obtain rfl := Nat.le_zero.mp toHigh
        exact notFirst ⟨Nat.le_zero.mp fromLow, isSpace⟩
  | succ high ih =>
      rw [lastSpace?]
      split
      · rename_i below
        exact .inr ⟨rfl, spaceless_of_lt below⟩
      · rename_i inside
        split
        · rename_i isSpace
          exact .inl ⟨_, rfl, Nat.not_lt.mp inside, Nat.le_refl _, isSpace,
            spaceless_of_lt (Nat.lt_succ_self _)⟩
        · rename_i noSpace
          rcases ih with ⟨column, found, fromLow, toHigh, isSpace, isLast⟩ | ⟨missing, spaceless⟩
          · exact .inl ⟨column, found, fromLow, Nat.le_succ_of_le toHigh, isSpace, isLast.succ noSpace⟩
          · exact .inr ⟨missing, spaceless.succ noSpace⟩

theorem lastSpace?_of_spaceless (spaceless : Spaceless low high text) :
    lastSpace? text low high = none := by
  rcases lastSpace?_cases text low high with ⟨column, -, fromLow, toHigh, isSpace, -⟩ | ⟨missing, -⟩
  · exact absurd isSpace (spaceless column fromLow toHigh)
  · exact missing

theorem lastSpace?_of_isLast (fromLow : low ≤ column) (toHigh : column ≤ high)
    (isSpace : text[column]? = some ' ') (isLast : Spaceless (column + 1) high text) :
    lastSpace? text low high = some column := by
  rcases lastSpace?_cases text low high with
    ⟨other, found, -, otherToHigh, otherIsSpace, otherIsLast⟩ | ⟨-, spaceless⟩
  · rcases Nat.lt_trichotomy column other with before | rfl | after
    · exact absurd otherIsSpace (isLast other before otherToHigh)
    · exact found
    · exact absurd isSpace (otherIsLast column after toHigh)
  · exact absurd isSpace (spaceless column fromLow toHigh)

/-! ## Rows -/

/-- The rows of a text that is wrapped between two columns.  A row ends at a space only when no later
column holds one, and elsewhere only when no column does. -/
inductive Wrapped (low high : Nat) : Text → List Text → Prop
  | whole {row : Text} (short : row.length ≤ high) : Wrapped low high row [row]
  | atSpace {row rest : Text} {rows : List Text} (long : high < (row ++ ' ' :: rest).length)
      (fromLow : low ≤ row.length) (toHigh : row.length ≤ high)
      (isLast : Spaceless (row.length + 1) high (row ++ ' ' :: rest))
      (others : Wrapped low high rest rows) : Wrapped low high (row ++ ' ' :: rest) (row :: rows)
  | hard {row rest : Text} {rows : List Text} (long : high < (row ++ rest).length)
      (full : row.length = high) (spaceless : Spaceless low high (row ++ rest))
      (others : Wrapped low high rest rows) : Wrapped low high (row ++ rest) (row :: rows)

namespace Wrapped

theorem ne_nil (wrapped : Wrapped low high text rows) : rows ≠ [] := by
  cases wrapped <;> exact List.cons_ne_nil _ _

/-- No row reaches beyond the upper column. -/
theorem length_le (wrapped : Wrapped low high text rows) : ∀ row ∈ rows, row.length ≤ high := by
  induction wrapped with
  | whole short => exact List.forall_mem_singleton.mpr short
  | atSpace _ _ toHigh _ _ ih => exact List.forall_mem_cons.mpr ⟨toHigh, ih⟩
  | hard _ full _ _ ih => exact List.forall_mem_cons.mpr ⟨Nat.le_of_eq full, ih⟩

/-- Only the last row ends before the lower column. -/
theorem le_length (ordered : low ≤ high) (wrapped : Wrapped low high text rows) :
    ∀ row ∈ rows.dropLast, low ≤ row.length := by
  induction wrapped with
  | whole => exact List.forall_mem_nil _
  | atSpace _ fromLow _ _ others ih =>
      rw [List.dropLast_cons_of_ne_nil others.ne_nil]
      exact List.forall_mem_cons.mpr ⟨fromLow, ih⟩
  | hard _ full _ others ih =>
      rw [List.dropLast_cons_of_ne_nil others.ne_nil]
      exact List.forall_mem_cons.mpr ⟨full ▸ ordered, ih⟩

end Wrapped

/-- A text is what stands before a column, the character there and what follows it. -/
theorem exists_append_of_getElem? {char : Char} (found : text[column]? = some char) :
    ∃ row rest, text = row ++ char :: rest ∧ row.length = column := by
  obtain ⟨inside, rfl⟩ := List.getElem?_eq_some_iff.mp found
  refine ⟨text.take column, text.drop (column + 1), ?_, List.length_take_of_le (Nat.le_of_lt inside)⟩
  rw [List.getElem_cons_drop, List.take_append_drop]

/-- A text that is longer than a row has a first row, and what follows that is shorter. -/
theorem exists_wrapped (positive : 1 ≤ low) (ordered : low ≤ high) (text : Text) :
    ∃ rows, Wrapped low high text rows := by
  by_cases short : text.length ≤ high
  · exact ⟨[text], .whole short⟩
  · have long := Nat.not_le.mp short
    rcases lastSpace?_cases text low high with
      ⟨column, -, fromLow, toHigh, isSpace, isLast⟩ | ⟨-, spaceless⟩
    · obtain ⟨row, rest, split, rfl⟩ := exists_append_of_getElem? isSpace
      have shorter : rest.length < text.length := by
        rw [split, List.length_append, List.length_cons]
        omega
      obtain ⟨rows, others⟩ := exists_wrapped positive ordered rest
      subst split
      exact ⟨row :: rows, .atSpace long fromLow toHigh isLast others⟩
    · have full : (text.take high).length = high := List.length_take_of_le (Nat.le_of_lt long)
      have shorter : (text.drop high).length < text.length := by
        rw [List.length_drop]
        omega
      obtain ⟨rows, others⟩ := exists_wrapped positive ordered (text.drop high)
      rw [← List.take_append_drop high text] at long spaceless
      have wrapped := Wrapped.hard long full spaceless others
      rw [List.take_append_drop] at wrapped
      exact ⟨_, wrapped⟩
termination_by text.length
decreasing_by all_goals exact shorter

/-! ## Wrapping -/

theorem dropSpace_of_ne (unspaced : text[0]? ≠ some ' ') : dropSpace text = text := by
  rw [dropSpace.eq_def]
  split
  · exact absurd rfl unspaced
  · rfl

/-- The rows of a wrapped text are taken off it one by one. -/
theorem Wrapped.wrapFrom_eq {least : Int} (nonneg : 0 ≤ least) (ordered : max 1 least.toNat ≤ high)
    (wrapped : Wrapped (max 1 least.toNat) high text rows) {fuel : Nat} (enough : text.length ≤ fuel) :
    wrapFrom high least fuel text = some rows := by
  -- A row that is taken off a text longer than `high` leaves fuel for what follows it.
  induction wrapped generalizing fuel with
  | whole short =>
      cases fuel with
      | zero => rfl
      | succ fuel => rw [wrapFrom, if_pos short]
  | @atSpace row rest rows long fromLow toHigh isLast others ih =>
      obtain ⟨fuel, rfl⟩ := Nat.exists_eq_add_one_of_ne_zero (by omega : fuel ≠ 0)
      have left : rest.length ≤ fuel := by
        rw [List.length_append, List.length_cons] at enough
        omega
      have isSpace : (row ++ ' ' :: rest)[row.length]? = some ' ' := by simp
      have column_eq : breakColumn (row ++ ' ' :: rest) high least = row.length := by
        rw [breakColumn, lastSpace?_of_isLast fromLow toHigh isSpace isLast, Option.getD_some]
      rw [wrapFrom, if_neg (Nat.not_le.mpr long), if_neg (by omega)]
      simp only [column_eq, List.take_left', List.drop_left', dropSpace, ih left, Option.map_some]
  | @hard row rest rows long full spaceless others ih =>
      obtain ⟨fuel, rfl⟩ := Nat.exists_eq_add_one_of_ne_zero (by omega : fuel ≠ 0)
      have left : rest.length ≤ fuel := by
        rw [List.length_append] at enough
        omega
      have unspaced : rest[0]? ≠ some ' ' := by
        have atCut := spaceless high ordered (Nat.le_refl high)
        rwa [List.getElem?_append_right (Nat.le_of_eq full), full, Nat.sub_self] at atCut
      have column_eq : breakColumn (row ++ rest) high least = row.length := by
        rw [breakColumn, lastSpace?_of_spaceless spaceless, Option.getD_none, full]
      rw [wrapFrom, if_neg (Nat.not_le.mpr long), if_neg (by omega)]
      simp only [column_eq, List.take_left', List.drop_left', dropSpace_of_ne unspaced, ih left,
        Option.map_some]

/-- Between columns in order a text is wrapped: its rows reach from the lower to the upper column, the
last one apart, and each ends where the columns between say.  No other rows do. -/
theorem wrap_greedy {most least : Int} (nonneg : 0 ≤ least) (ordered : least ≤ most)
    (positive : 1 ≤ most) (text : Text) :
    ∃ rows, wrap text most least = some rows ∧
      (∀ row ∈ rows, (row.length : Int) ≤ most) ∧
      (∀ row ∈ rows.dropLast, max 1 least ≤ row.length) ∧
      Wrapped (max 1 least.toNat) most.toNat text rows ∧
      ∀ others, Wrapped (max 1 least.toNat) most.toNat text others → others = rows := by
  obtain ⟨high, rfl⟩ := Int.eq_ofNat_of_zero_le (by omega : 0 ≤ most)
  rw [Int.toNat_natCast]
  have inOrder : max 1 least.toNat ≤ high := by omega
  have wraps : ∀ rows, Wrapped (max 1 least.toNat) high text rows → wrap text high least = some rows := by
    intro rows wrapped
    rw [wrap, if_neg (by omega), Int.toNat_natCast]
    exact wrapped.wrapFrom_eq nonneg inOrder (Nat.le_refl _)
  obtain ⟨rows, wrapped⟩ := exists_wrapped (Nat.le_max_left 1 _) inOrder text
  refine ⟨rows, wraps rows wrapped, ?_, ?_, wrapped, ?_⟩
  · intro row member
    exact Int.ofNat_le.mpr (wrapped.length_le row member)
  · intro row member
    have fromLow := wrapped.le_length inOrder row member
    omega
  · intro others alsoWrapped
    exact Option.some.inj ((wraps others alsoWrapped).symm.trans (wraps rows wrapped))

/-- The second of two spaces ends the first row, and a word that fits on no row is cut. -/
theorem wrap_greedy_of_long_word :
    let rows : List Text := ["ab ", "cdef", "ghi"]
    (0 : Int) ≤ 0 ∧ (0 : Int) ≤ 4 ∧ (1 : Int) ≤ 4 ∧ wrap "ab  cdefghi" 4 0 = some rows ∧
      Wrapped 1 4 "ab  cdefghi" rows := by
  intro rows
  have rows_eq : wrap "ab  cdefghi" 4 0 = some rows := by decide
  obtain ⟨found, wraps, -, -, wrapped, -⟩ :=
    wrap_greedy (by decide : (0 : Int) ≤ 0) (by decide : (0 : Int) ≤ 4) (by decide) "ab  cdefghi".toList
  obtain rfl := Option.some.inj (wraps.symm.trans rows_eq)
  exact ⟨by decide, by decide, by decide, rows_eq, wrapped⟩

end Docweave.Text
