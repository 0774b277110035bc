import Docweave.Page.Element

/-!
# Settings with which a page can be laid out

Settings are accepted by the kinds of their values alone.  Elements can always be laid out with them
when a search for a space stays within the text, for paragraphs and for items at every depth, and when
the marks of every heading can be repeated.  With any other settings some element cannot.
-/

namespace Docweave

open Text

/-- What is computed in two steps can be computed when both can. -/
theorem exists_bind_eq_ok_iff {ε α β : Type} {first : Except ε α} {next : α → Except ε β} :
    (∃ value, (first >>= next) = .ok value) ↔
      ∃ middle, first = .ok middle ∧ ∃ value, next middle = .ok value := by
  cases first with
  | error error => simp [bind, Except.bind]
  | ok middle => simp [bind, Except.bind]

theorem exists_map_eq_ok_iff {ε α β : Type} {first : Except ε α} {change : α → β} :
    (∃ value, first.map change = .ok value) ↔ ∃ value, first = .ok value := by
  cases first with
  | error error => simp [Except.map]
  | ok value => simp [Except.map]

/-! ## Wrapping -/

namespace Text

variable {most : Nat} {least : Int} {text : Text}

/-- A search for a space that goes down to column `least` stays within every text that is longer
than `most`. -/
def Fits (most least : Int) : Prop := most ≤ 0 ∨ -(most + 1) ≤ least

instance (most least : Int) : Decidable (Fits most least) := inferInstanceAs (Decidable (_ ∨ _))

theorem isSome_wrapFrom (fits : -((most : Int) + 1) ≤ least) (fuel : Nat) (text : Text) :
    (wrapFrom most least fuel text).isSome := by
  induction fuel generalizing text with
  | zero => rfl
  | succ fuel ih =>
      rw [wrapFrom]
      split
      · rfl
      · rename_i long
        rw [if_neg (by omega), Option.isSome_map]
        exact ih _

/-- A text without spaces is searched down to column `least`. -/
theorem wrap_eq_none (long : most < text.length) (below : least < -(text.length : Int))
    (positive : 0 < most) (spaceless : ' ' ∉ text) : wrap text most least = none := by
  obtain ⟨fuel, length_eq⟩ := Nat.exists_eq_add_one_of_ne_zero (Nat.ne_zero_of_lt long)
  rw [wrap, if_neg (by omega), length_eq, wrapFrom, Int.toNat_natCast, if_neg (by omega),
    if_pos ⟨below, spaceless⟩]

theorem isSome_wrap_iff {most : Int} : (∀ text, (wrap text most least).isSome) ↔ Fits most least := by
  constructor
  · intro wraps
    apply Decidable.byContradiction
    intro unfit
    rw [Fits, not_or] at unfit
    obtain ⟨columns, rfl⟩ := Int.eq_ofNat_of_zero_le (by omega : 0 ≤ most)
    have failed : wrap (List.replicate (columns + 1) 'x') columns least = none := by
      apply wrap_eq_none
      · simp
      · simp
        omega
      · omega
      · simp
    simpa [failed] using wraps (List.replicate (columns + 1) 'x')
  · intro fits text
    rw [wrap]
    split
    · rfl
    · exact isSome_wrapFrom (by rw [Fits] at fits; omega) _ _

end Text

namespace Page

namespace Element

variable {settings : Settings} {text : Text} {length : Nat} {most least : Int} {mark marks : Value}

theorem exists_wrapped_iff :
    (∃ rows, wrapped text most least = .ok rows) ↔ (wrap text most least).isSome := by
  rw [wrapped]
  cases wrap text most least with
  | none => simp
  | some rows => simp

/-! ## Marks -/

/-- A mark that can be repeated: one that counts as absent, a text or a list. -/
inductive Repeats (mark : Value) : Prop
  | absent (empty : mark.isEmpty)
  | text {unit : Text} (opened : mark.opened = .text unit)
  | bytes {unit : List UInt8} (opened : mark.opened = .bytes unit)
  | list {unit : List Value} (opened : mark.opened = .list unit)
  | pair {first second : Value} (opened : mark.opened = .pair first second)

theorem exists_markRow_iff (length : Nat) :
    (∃ row, markRow length mark = .ok row) ↔ Repeats mark := by
  rw [markRow]
  constructor
  · rintro ⟨row, made⟩
    split at made
    · exact .absent ‹_›
    · split at made
      · exact .text ‹_›
      · exact .bytes ‹_›
      · exact .list ‹_›
      · exact .pair ‹_›
      · cases made
  · intro repeats
    split
    · exact ⟨_, rfl⟩
    · rename_i visible
      cases repeats with
      | absent empty => exact absurd empty visible
      | text opened => exact ⟨_, by rw [opened]⟩
      | bytes opened => exact ⟨_, by rw [opened]⟩
      | list opened => exact ⟨_, by rw [opened]⟩
      | pair opened => exact ⟨_, by rw [opened]⟩

/-- Marks of which the first and the last can be repeated.  Marks of a mapping are those at the keys
0 and -1, and the former does not matter when there are no others. -/
inductive MarksHeading (marks : Value) : Prop
  | sequence {singles : List Value} {first last : Value}
      (singles_eq : singleMarks? marks.opened = some singles)
      (first_eq : singles.head? = some first) (last_eq : singles.getLast? = some last)
      (above : Repeats first) (below : Repeats last)
  | mapping {entries : List (Value × Value)} {key last : Value}
      (opened : marks.opened = .mapping entries)
      (last_eq : entries.find? (fun entry => Value.sameKey entry.1 (.int (-1))) = some (key, last))
      (below : Repeats last)
      (above : 1 < entries.length → ∃ key first,
        entries.find? (fun entry => Value.sameKey entry.1 (.int 0)) = some (key, first) ∧
          Repeats first)

theorem atSigned?_zero {α : Type} (items : List α) : atSigned? 0 items = items.head? := by
  rw [atSigned?, if_neg (by decide), List.head?_eq_getElem?]
  rfl

theorem atSigned?_last {α : Type} (items : List α) : atSigned? (-1) items = items.getLast? := by
  rw [atSigned?, if_pos (by decide), List.getLast?_eq_getElem?]
  split
  · rw [List.getElem?_eq_none (by omega)]
  · congr 1
    omega

theorem markCount_of_singles {singles : List Value} (singles_eq : singleMarks? marks = some singles) :
    markCount marks = .ok singles.length := by
  cases marks <;> simp_all [markCount, singleMarks?]

theorem markAt_of_singles {singles : List Value} {place : Int}
    (singles_eq : singleMarks? marks = some singles) :
    markAt marks place = .ok mark ↔ atSigned? place singles = some mark := by
  rw [markAt.eq_def]
  split
  · cases singles_eq
  · rw [singles_eq]
    dsimp only
    cases atSigned? place singles with
    | none => simp
    | some mark => simp

theorem mapping_or_singles_of_markAt {place : Int} (found : markAt marks place = .ok mark) :
    (∃ entries, marks = .mapping entries) ∨ ∃ singles, singleMarks? marks = some singles := by
  rw [markAt.eq_def] at found
  split at found
  · exact .inl ⟨_, rfl⟩
  · split at found
    · exact .inr ⟨_, ‹_›⟩
    · cases found

theorem markAt_mapping {entries : List (Value × Value)} {place : Int} :
    markAt (.mapping entries) place = .ok mark ↔
      ∃ key, entries.find? (fun entry => Value.sameKey entry.1 (.int place)) = some (key, mark) := by
  rw [markAt]
  cases entries.find? fun entry => Value.sameKey entry.1 (.int place) with
  | none => simp
  | some entry => simp [Prod.ext_iff]

/-- The mark at a place can be repeated. -/
def RepeatsAt (marks : Value) (place : Int) : Prop := ∃ mark, markAt marks place = .ok mark ∧ Repeats mark

theorem exists_bind_markRow_iff {place : Int} :
    (∃ row, (markAt marks place).bind (markRow length) = .ok row) ↔ RepeatsAt marks place := by
  simp only [RepeatsAt, ← exists_markRow_iff length]
  exact exists_bind_eq_ok_iff

theorem exists_aboveRows_iff :
    (∃ rows, aboveRows length marks = .ok rows) ↔
      ∃ count, markCount marks = .ok count ∧ (1 < count → RepeatsAt marks 0) := by
  rw [aboveRows, exists_bind_eq_ok_iff]
  apply exists_congr
  intro count
  apply and_congr_right
  intro counted
  by_cases several : 1 < count
  · rw [if_pos several, exists_map_eq_ok_iff, exists_bind_markRow_iff]
    simp only [several, true_imp_iff]
  · simp [several]

/-- The last mark is needed, and the first one when there are more. -/
theorem exists_headingRows_iff :
    (∃ rows, headingRows text marks = .ok rows) ↔
      (∃ count, markCount marks.opened = .ok count ∧ (1 < count → RepeatsAt marks.opened 0)) ∧
        RepeatsAt marks.opened (-1) := by
  rw [headingRows, exists_bind_eq_ok_iff, ← exists_aboveRows_iff, ← exists_bind_markRow_iff]
  simp only [exists_bind_eq_ok_iff]
  constructor
  · rintro ⟨above, aboveLaid, below, belowLaid, -⟩
    exact ⟨⟨above, aboveLaid⟩, below, belowLaid⟩
  · rintro ⟨⟨above, aboveLaid⟩, below, belowLaid⟩
    exact ⟨above, aboveLaid, below, belowLaid, _, rfl⟩

theorem exists_headingRows_iff_marksHeading :
    (∃ rows, headingRows text marks = .ok rows) ↔ MarksHeading marks := by
  rw [exists_headingRows_iff]
  constructor
  · rintro ⟨⟨count, counted, above⟩, last, lastFound, below⟩
    rcases mapping_or_singles_of_markAt lastFound with ⟨entries, opened⟩ | ⟨singles, singles_eq⟩
    · rw [opened] at counted above lastFound
      cases counted
      obtain ⟨key, last_eq⟩ := markAt_mapping.mp lastFound
      refine .mapping opened last_eq below fun several => ?_
      obtain ⟨first, firstFound, repeats⟩ := above several
      obtain ⟨key, first_eq⟩ := markAt_mapping.mp firstFound
      exact ⟨key, first, first_eq, repeats⟩
    · rw [markCount_of_singles singles_eq] at counted
      cases counted
      rw [markAt_of_singles singles_eq, atSigned?_last] at lastFound
      match singles, lastFound with
      | [_], rfl => exact .sequence singles_eq rfl rfl below below
      | first :: second :: others, last_eq =>
          obtain ⟨mark, firstFound, repeats⟩ := above (by simp)
          rw [markAt_of_singles singles_eq, atSigned?_zero] at firstFound
          exact .sequence singles_eq firstFound last_eq repeats below
  · rintro (⟨singles_eq, first_eq, last_eq, above, below⟩ | ⟨opened, last_eq, below, above⟩)
    · refine ⟨⟨_, markCount_of_singles singles_eq, fun _ => ⟨_, ?_, above⟩⟩, _, ?_, below⟩
      · rw [markAt_of_singles singles_eq, atSigned?_zero, first_eq]
      · rw [markAt_of_singles singles_eq, atSigned?_last, last_eq]
    · rw [opened]
      refine ⟨⟨_, rfl, fun several => ?_⟩, _, markAt_mapping.mpr ⟨_, last_eq⟩, below⟩
      obtain ⟨key, first, first_eq, repeats⟩ := above several
      exact ⟨first, markAt_mapping.mpr ⟨key, first_eq⟩, repeats⟩

theorem exists_headingOf_iff {rank : Nat} {underlines : List Value} :
    (∃ rows, headingOf text rank underlines = .ok rows) ↔
      ∃ marks, underlines[min rank (underlines.length - 1)]? = some marks ∧ MarksHeading marks := by
  rw [headingOf]
  cases underlines[min rank (underlines.length - 1)]? with
  | none => simp
  | some marks => simp [exists_headingRows_iff_marksHeading]

/-- The five ranks take their marks from the first five, and ranks beyond the last share it. -/
theorem forall_rank_iff {underlines : List Value} {P : Value → Prop} :
    (∀ rank < 5, ∃ marks, underlines[min rank (underlines.length - 1)]? = some marks ∧ P marks) ↔
      underlines ≠ [] ∧ ∀ marks ∈ underlines.take 5, P marks := by
  constructor
  · intro each
    constructor
    · rintro rfl
      obtain ⟨marks, found, -⟩ := each 0 (by decide)
      cases found
    · intro marks membership
      obtain ⟨place, bound, rfl⟩ := List.mem_iff_getElem.mp membership
      rw [List.length_take, Nat.lt_min] at bound
      obtain ⟨marks, found, marked⟩ := each place bound.1
      rw [Nat.min_eq_left (by omega), List.getElem?_eq_getElem bound.2] at found
      cases found
      rwa [List.getElem_take]
  · rintro ⟨nonempty, each⟩ rank isRank
    have positive := List.length_pos_iff.mpr nonempty
    have bound : min rank (underlines.length - 1) < underlines.length := by omega
    refine ⟨_, List.getElem?_eq_getElem bound, each _ ?_⟩
    rw [List.mem_take_iff_getElem]
    exact ⟨_, by omega, rfl⟩

/-! ## One element -/

/-- Any text can be laid out as a paragraph or as an item at any depth, and as any heading. -/
structure LaysOut (settings : Settings) : Prop where
  columns : ∀ width ∈ 0 :: Style.known.filterMap Style.itemWidth?,
    Fits ((settings.value .maxColumns : Int) - width) (settings.value .minColumns)
  hasMarks : (settings.value .sectionUnderlines : List Value) ≠ []
  marks : ∀ marks ∈ (settings.value .sectionUnderlines : List Value).take 5, MarksHeading marks

/-- The element that is given by the name of its style and its text. -/
def named (name : Text) (text : Option Text) : Element := ⟨.ofName name, text⟩

theorem ofName_mem_known_or (name : Text) :
    Style.ofName name ∈ Style.known ∨ Style.ofName name = .other name := by
  rw [Style.ofName]
  cases found : Style.known.find? fun style => style.name == name with
  | none => exact .inr rfl
  | some style => exact .inl (List.mem_of_find?_eq_some found)

theorem itemWidth_mem {name : Text} {width : Nat}
    (wide : (Style.ofName name).itemWidth? = some width) :
    width ∈ 0 :: Style.known.filterMap Style.itemWidth? := by
  rcases ofName_mem_known_or name with isKnown | other
  · exact List.mem_cons_of_mem _ (List.mem_filterMap.mpr ⟨_, isKnown, wide⟩)
  · rw [other] at wide
    cases wide

theorem headingRank_lt {style : Style} {rank : Nat} (isRank : style.headingRank? = some rank) :
    rank < 5 := by
  cases style <;> simp only [Style.headingRank?, reduceCtorEq] at isRank
  split at isRank
  · cases isRank
    omega
  · cases isRank

theorem LaysOut.exists_rows (laysOut : LaysOut settings) (name : Text) (text : Option Text) :
    ∃ rows, (named name text).rows settings = .ok rows := by
  rw [rows.eq_def, named]
  dsimp only
  split
  · exact ⟨_, rfl⟩
  · split
    · rename_i isRank
      rw [exists_headingOf_iff]
      exact forall_rank_iff.mpr ⟨laysOut.hasMarks, laysOut.marks⟩ _ (headingRank_lt isRank)
    · rename_i wide _
      rw [exists_map_eq_ok_iff, exists_map_eq_ok_iff, exists_wrapped_iff]
      exact isSome_wrap_iff.mpr (laysOut.columns _ (itemWidth_mem wide)) _
    · rw [exists_map_eq_ok_iff, exists_wrapped_iff]
      exact isSome_wrap_iff.mpr (by simpa using laysOut.columns 0 (by simp)) _
    · exact ⟨_, rfl⟩
    · rw [exists_map_eq_ok_iff, exists_wrapped_iff]
      exact isSome_wrap_iff.mpr (by simpa using laysOut.columns 0 (by simp)) _

section Styles

variable {style : Style} {char : Char} {rest : Text}

theorem rows_of_heading {rank : Nat} (isRank : style.headingRank? = some rank) :
    Element.rows settings ⟨style, some (char :: rest)⟩ =
      headingOf (char :: rest) rank (settings.value .sectionUnderlines) := by
  rw [rows.eq_def]
  simp only [Option.getD_some, isRank]

theorem rows_of_item {width : Nat} (wide : style.itemWidth? = some width) :
    Element.rows settings ⟨style, some (char :: rest)⟩ =
      ((wrapped (char :: rest) ((settings.value .maxColumns : Int) - width)
        (settings.value .minColumns)).map fun rows => padRows rows "* " [] width).map
          fun rows => rows.map Value.text := by
  cases style with
  | item depth =>
      rw [rows.eq_def]
      simp only [Option.getD_some, Style.headingRank?, wide]
  | _ => cases wide

theorem rows_paragraph :
    Element.rows settings ⟨.paragraph, some (char :: rest)⟩ =
      (wrapped (char :: rest) (settings.value .maxColumns) (settings.value .minColumns)).map
        fun rows => rows.map Value.text :=
  rfl

theorem ofName_name (isKnown : style ∈ Style.known) : Style.ofName style.name = style := by
  revert style
  decide

theorem headingRank_ofName {rank : Nat} (isRank : rank < 5) :
    (Style.ofName ('h' :: ofNat (rank + 1))).headingRank? = some rank := by
  revert rank
  decide

end Styles

theorem isSome_wrap_of_cons
    (wraps : ∀ char rest, (wrap (char :: rest) most least).isSome) (text : Text) :
    (wrap text most least).isSome := by
  cases text with
  | nil =>
      rw [wrap]
      split <;> rfl
  | cons char rest => exact wraps char rest

theorem LaysOut.of_exists_rows
    (laid : ∀ name text, ∃ rows, (named name (some text)).rows settings = .ok rows) :
    LaysOut settings := by
  have headings : ∀ rank < 5, ∃ marks, (settings.value .sectionUnderlines : List Value)[
      min rank ((settings.value .sectionUnderlines : List Value).length - 1)]? = some marks ∧
        MarksHeading marks := by
    intro rank isRank
    have heading := laid ('h' :: ofNat (rank + 1)) ['T']
    rwa [named, rows_of_heading (headingRank_ofName isRank), exists_headingOf_iff] at heading
  obtain ⟨hasMarks, marks⟩ := forall_rank_iff.mp headings
  refine ⟨?_, hasMarks, marks⟩
  intro width membership
  apply isSome_wrap_iff.mp
  apply isSome_wrap_of_cons
  intro char rest
  rcases List.mem_cons.mp membership with rfl | isItem
  · have paragraph := laid "p" (char :: rest)
    rw [named, show Style.ofName "p" = .paragraph by decide, rows_paragraph, exists_map_eq_ok_iff,
      exists_wrapped_iff] at paragraph
    simpa using paragraph
  · obtain ⟨style, isKnown, wide⟩ := List.mem_filterMap.mp isItem
    have item := laid style.name (char :: rest)
    rwa [named, ofName_name isKnown, rows_of_item wide, exists_map_eq_ok_iff, exists_map_eq_ok_iff,
      exists_wrapped_iff] at item

/-! ## A sequence of elements -/

theorem exists_rows_of_empty {element : Element} (empty : (element.text.getD []).isEmpty) :
    ∃ rows, element.rows settings = .ok rows := by
  rw [rows.eq_def, List.isEmpty_iff.mp empty]
  exact ⟨_, rfl⟩

theorem exists_rowsAfter_iff (previous : Option Element) {elements : List Element} :
    (∃ rows, rowsAfter settings previous elements = .ok rows) ↔
      ∀ element ∈ elements, ∃ rows, element.rows settings = .ok rows := by
  induction elements generalizing previous with
  | nil => simp [rowsAfter]
  | cons element elements ih =>
      rw [rowsAfter.eq_def, List.forall_mem_cons]
      dsimp only
      split
      · rename_i empty
        rw [ih]
        exact (and_iff_right (exists_rows_of_empty empty)).symm
      · simp only [exists_bind_eq_ok_iff, ← ih (some element)]
        constructor
        · rintro ⟨own, ownLaid, others, othersLaid, -⟩
          exact ⟨⟨own, ownLaid⟩, others, othersLaid⟩
        · rintro ⟨⟨own, ownLaid⟩, others, othersLaid⟩
          exact ⟨own, ownLaid, others, othersLaid, _, rfl⟩

theorem marksHeading_text {marks : Text} : MarksHeading (.text marks) ↔ marks ≠ [] := by
  constructor
  · rintro (⟨singles_eq, first_eq, -, -, -⟩ | ⟨opened, -, -, -⟩)
    · rintro rfl
      cases singles_eq
      cases first_eq
    · cases opened
  · intro nonempty
    have first_eq : (marks.map fun char => Value.text [char]).head? =
        some (.text [marks.head nonempty]) := by
      rw [List.head?_map, List.head?_eq_some_head nonempty]
      rfl
    have last_eq : (marks.map fun char => Value.text [char]).getLast? =
        some (.text [marks.getLast nonempty]) := by
      rw [List.getLast?_map, List.getLast?_eq_some_getLast nonempty]
      rfl
    exact .sequence rfl first_eq last_eq (.text rfl) (.text rfl)

/-- The initial settings lay out everything. -/
theorem laysOut_default : LaysOut Settings.default := by
  refine ⟨by decide, List.cons_ne_nil _ _, ?_⟩
  intro marks membership
  have isText : marks ∈ ["**", "==", "=", "~", "-"].map fun text => Value.text text.toList := membership
  obtain ⟨text, isMark, rfl⟩ := List.mem_map.mp isText
  rw [marksHeading_text]
  rintro empty
  have nonempty : ∀ text ∈ ["**", "==", "=", "~", "-"], text.toList ≠ [] := by decide
  exact nonempty text isMark empty

/-- Settings are accepted with any limits of the columns and with any list of marks. -/
theorem exists_accepted (least most : Int) (underlines : List Value) :
    ∃ data settings, Settings.ofValue data = .ok settings ∧ settings.value .minColumns = least ∧
      settings.value .maxColumns = most ∧ settings.value .sectionUnderlines = underlines :=
  ⟨.mapping [(.text "output", .mapping [(.text "min_columns", .int least),
    (.text "max_columns", .int most), (.text "section_underlines", .list underlines)])], _, rfl,
    rfl, rfl, rfl⟩

/-- Elements can be laid out, whatever they are, exactly with settings that lay out each kind of
them. -/
theorem laysOut_iff (settings : Settings) :
    (∀ elements : List (Text × Option Text),
      ∃ rows, allRows settings (elements.map fun (name, text) => named name text) = .ok rows) ↔
    LaysOut settings := by
  constructor
  · intro laid
    apply LaysOut.of_exists_rows
    intro name text
    exact (exists_rowsAfter_iff none).mp (laid [(name, some text)]) _ (List.mem_singleton_self _)
  · intro laysOut elements
    rw [allRows, exists_rowsAfter_iff]
    intro element membership
    obtain ⟨⟨name, text⟩, -, rfl⟩ := List.mem_map.mp membership
    exact laysOut.exists_rows name text

/-- A limit far below zero is accepted, and a long word cannot be laid out with it. -/
theorem unlaid_of_low_column :
    let data : Value := .mapping [(.text "output",
      .mapping [(.text "min_columns", .int (-1000)), (.text "max_columns", .int 10)])]
    ∃ settings, Settings.ofValue data = .ok settings ∧
      allRows settings [named "p" (some "abcdefghijklmnop".toList)] = .error .columnBeforeText :=
  ⟨_, rfl, rfl⟩

end Element

end Page

end Docweave
