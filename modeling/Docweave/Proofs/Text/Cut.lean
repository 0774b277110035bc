import Docweave.Text.Basic

/-!
# Laws of cutting texts

Every cut and search of a text is described by the concatenation it stands for:
reading a lead leaves the rest, dropping a final run leaves a prefix, and the
offset of an occurrence is the length of what stands before it.  Modules above
this one argue with these equations and never unfold the cuts.
-/

namespace Docweave.Text

variable {lead text rest : Text} {inClass : Char → Bool}

/-! ## Leads -/

theorem after?_eq_some : after? lead text = some rest ↔ text = lead ++ rest := by
  induction lead generalizing text with
  | nil => simp [after?, eq_comm]
  | cons expected lead ih =>
      cases text with
      | nil => simp [after?]
      | cons char tail =>
          simp only [after?, List.cons_append, List.cons.injEq]
          split
          · rename_i equal
            simp [ih, equal]
          · rename_i different
            simp [Ne.symm different]

theorem startsWith_iff : startsWith lead text = true ↔ ∃ rest, text = lead ++ rest := by
  simp only [startsWith, Option.isSome_iff_exists, after?_eq_some]

/-- What follows a lead is a suffix of the text. -/
theorem suffix_of_after? (found : after? lead text = some rest) : rest <:+ text := by
  rw [after?_eq_some] at found
  exact ⟨lead, found.symm⟩

theorem endsWith_singleton {char : Char} :
    endsWith [char] text = true ↔ ∃ before, text = before ++ [char] := by
  simp only [endsWith, List.reverse_cons, List.reverse_nil, List.nil_append, startsWith_iff]
  constructor
  · intro ⟨rest, equal⟩
    refine ⟨rest.reverse, ?_⟩
    rw [← List.reverse_reverse text, equal]
    simp
  · intro ⟨before, equal⟩
    exact ⟨before.reverse, by simp [equal]⟩

theorem drop_of_append {whole front back : Text} (equal : whole = front ++ back) :
    whole.drop front.length = back := by
  rw [equal, List.drop_left]

/-! ## Runs of a class -/

/-- Dropping the final run of a class takes off a tail that lies in the class. -/
theorem eq_dropTrailing_append (inClass : Char → Bool) (text : Text) :
    ∃ tail, text = dropTrailing inClass text ++ tail ∧ ∀ char ∈ tail, inClass char = true := by
  refine ⟨(text.reverse.takeWhile inClass).reverse, ?_, ?_⟩
  · rw [dropTrailing, ← List.reverse_append, List.takeWhile_append_dropWhile,
      List.reverse_reverse]
  · intro char membership
    rw [List.mem_reverse] at membership
    exact List.all_eq_true.mp List.all_takeWhile char membership

theorem dropTrailing_isPrefix (inClass : Char → Bool) (text : Text) :
    dropTrailing inClass text <+: text := by
  obtain ⟨tail, equal, _⟩ := eq_dropTrailing_append inClass text
  exact ⟨tail, equal.symm⟩

/-- A character outside the class is kept with all that stands before it. -/
theorem dropTrailing_cons {char : Char} (outside : inClass char = false) (text : Text) :
    dropTrailing inClass (char :: text) = char :: dropTrailing inClass text := by
  simp only [dropTrailing, List.reverse_cons, List.dropWhile_append]
  split
  · rename_i dropped
    rw [List.isEmpty_iff] at dropped
    simp [outside, dropped]
  · simp

/-- A final run ends after the last character outside the class. -/
theorem dropTrailing_append_cons {char : Char} (outside : inClass char = false) (before after : Text) :
    dropTrailing inClass (before ++ char :: after) = before ++ char :: dropTrailing inClass after := by
  rw [← dropTrailing_cons outside]
  have kept : dropTrailing inClass (char :: after) ≠ [] := by
    rw [dropTrailing_cons outside]
    exact List.cons_ne_nil _ _
  rw [dropTrailing, ne_eq, List.reverse_eq_nil_iff] at kept
  rw [dropTrailing, dropTrailing, List.reverse_append, List.dropWhile_append,
    if_neg (mt List.isEmpty_iff.mp kept), List.reverse_append, List.reverse_reverse]

theorem dropTrailing_append_of_inside {tail : Text} (inside : ∀ char ∈ tail, inClass char = true)
    (before : Text) : dropTrailing inClass (before ++ tail) = dropTrailing inClass before := by
  have reversed : ∀ char ∈ tail.reverse, inClass char = true := by simpa using inside
  rw [dropTrailing, List.reverse_append, List.dropWhile_append_of_pos reversed, dropTrailing]

theorem dropTrailing_eq_nil_iff :
    dropTrailing inClass text = [] ↔ ∀ char ∈ text, inClass char = true := by
  constructor
  · intro empty char membership
    obtain ⟨tail, equal, inside⟩ := eq_dropTrailing_append inClass text
    rw [empty, List.nil_append] at equal
    exact inside char (equal ▸ membership)
  · intro inside
    exact dropTrailing_append_of_inside inside []

/-- Characters at the front of `dropWhile` lie outside the class. -/
theorem not_inClass_of_dropWhile {char : Char}
    (equal : text.dropWhile inClass = char :: rest) : inClass char = false := by
  have first := List.head?_dropWhile_not inClass text
  simpa [equal] using first

theorem mem_takeWhile_inClass {char : Char} (membership : char ∈ text.takeWhile inClass) :
    inClass char = true :=
  List.all_eq_true.mp List.all_takeWhile char membership

/-- A text whose leading run is split off at a character outside the class. -/
theorem takeWhile_append_of_outside {char : Char} {run : Text}
    (inside : ∀ char ∈ run, inClass char = true) (outside : inClass char = false)
    (rest : Text) : (run ++ char :: rest).takeWhile inClass = run := by
  rw [List.takeWhile_append_of_pos inside]
  simp [outside]

theorem dropWhile_append_of_outside {char : Char} {run : Text}
    (inside : ∀ char ∈ run, inClass char = true) (outside : inClass char = false)
    (rest : Text) : (run ++ char :: rest).dropWhile inClass = char :: rest := by
  rw [List.dropWhile_append_of_pos inside]
  simp [outside]

/-! ## Both ends -/

/-- Trimming takes blanks off both ends. -/
theorem exists_trim (text : Text) : ∃ lead tail, text = lead ++ (trim text ++ tail) ∧
    (∀ char ∈ lead, isBlank char = true) ∧ ∀ char ∈ tail, isBlank char = true := by
  obtain ⟨tail, split, isTail⟩ := eq_dropTrailing_append isBlank (text.dropWhile isBlank)
  refine ⟨text.takeWhile isBlank, tail, ?_, fun char membership => mem_takeWhile_inClass membership,
    isTail⟩
  have whole := List.takeWhile_append_dropWhile (p := isBlank) (l := text)
  rw [split] at whole
  exact whole.symm

theorem length_trim_le (text : Text) : (trim text).length ≤ text.length := by
  obtain ⟨lead, tail, split, -, -⟩ := exists_trim text
  have lengths := congrArg List.length split
  simp only [List.length_append] at lengths
  omega

/-- Characters that are no blanks are kept when a text is trimmed. -/
theorem mem_trim_iff {char : Char} (visible : isBlank char = false) : char ∈ trim text ↔ char ∈ text := by
  obtain ⟨lead, tail, split, isLead, isTail⟩ := exists_trim text
  constructor
  · intro membership
    rw [split]
    exact List.mem_append_right _ (List.mem_append_left _ membership)
  · intro membership
    rw [split, List.mem_append, List.mem_append] at membership
    rcases membership with inLead | inside | inTail
    · exact absurd (isLead char inLead) (by simp [visible])
    · exact inside
    · exact absurd (isTail char inTail) (by simp [visible])

theorem trim_append_of_blank {lead : Text} (blank : ∀ char ∈ lead, isBlank char = true) (text : Text) :
    trim (lead ++ text) = trim text := by
  rw [trim, stripOf, List.dropWhile_append_of_pos blank, trim, stripOf]

theorem trim_append_blank {tail : Text} (blank : ∀ char ∈ tail, isBlank char = true) (text : Text) :
    trim (text ++ tail) = trim text := by
  rw [trim, stripOf, List.dropWhile_append, trim, stripOf]
  split
  · rename_i empty
    have nothing : tail.dropWhile isBlank = [] := by
      rw [← List.append_nil tail, List.dropWhile_append_of_pos blank, List.dropWhile_nil]
    rw [List.isEmpty_iff.mp empty, nothing]
  · exact dropTrailing_append_of_inside blank _

theorem trim_trim (text : Text) : trim (trim text) = trim text := by
  obtain ⟨lead, tail, split, isLead, isTail⟩ := exists_trim text
  calc trim (trim text) = trim (lead ++ (trim text ++ tail)) := by
        rw [trim_append_of_blank isLead, trim_append_blank isTail]
    _ = trim text := by rw [← split]

/-! ## Occurrences -/

/-- The offset of a character is the length of the text before its first
occurrence. -/
theorem findChar?_eq_some {needle : Char} {offset : Nat} :
    findChar? needle text = some offset ↔
      ∃ before after, text = before ++ needle :: after ∧ needle ∉ before ∧
        before.length = offset := by
  induction text generalizing offset with
  | nil => simp [findChar?]
  | cons char tail ih =>
      simp only [findChar?]
      split
      · rename_i equal
        subst equal
        constructor
        · intro found
          cases found
          exact ⟨[], tail, rfl, by simp, rfl⟩
        · rintro ⟨before, after, equal, fresh, rfl⟩
          cases before with
          | nil => rfl
          | cons first before =>
              simp only [List.cons_append, List.cons.injEq] at equal
              simp [equal.1] at fresh
      · rename_i different
        simp only [Option.map_eq_some_iff, ih]
        constructor
        · rintro ⟨_, ⟨before, after, rfl, fresh, rfl⟩, rfl⟩
          refine ⟨char :: before, after, rfl, ?_, rfl⟩
          simp [fresh, Ne.symm different]
        · rintro ⟨before, after, equal, fresh, rfl⟩
          cases before with
          | nil =>
              simp only [List.nil_append, List.cons.injEq] at equal
              exact absurd equal.1 different
          | cons first before =>
              simp only [List.cons_append, List.cons.injEq] at equal
              simp only [List.mem_cons, not_or] at fresh
              exact ⟨before.length, ⟨before, after, equal.2, fresh.2, rfl⟩, rfl⟩

/-- A character of the text is found at its first occurrence. -/
theorem findChar?_of_mem {needle : Char} (membership : needle ∈ text) :
    ∃ before after, text = before ++ needle :: after ∧ needle ∉ before ∧
      findChar? needle text = some before.length := by
  obtain ⟨before, after, equal, fresh⟩ := List.eq_append_cons_of_mem membership
  exact ⟨before, after, equal, fresh, findChar?_eq_some.mpr ⟨before, after, equal, fresh, rfl⟩⟩

theorem findChar?_eq_none_iff {char : Char} : findChar? char text = none ↔ char ∉ text := by
  induction text with
  | nil => simp [findChar?]
  | cons first text ih =>
      rw [findChar?, List.mem_cons, not_or, ← ih]
      by_cases found : first = char
      · simp [found]
      · simp [found, Ne.symm found]

/-- A character that ends a text is found there last. -/
theorem findLast?_concat (text : Text) (char : Char) :
    findLast? [char] (text ++ [char]) = some text.length := by
  induction text with
  | nil => simp [findLast?, startsWith, after?]
  | cons first text ih => rw [List.cons_append, findLast?, ih, List.length_cons]

theorem findLast?_eq_none_iff {char : Char} : findLast? [char] text = none ↔ char ∉ text := by
  induction text with
  | nil => simp [findLast?]
  | cons first text ih =>
      rw [findLast?, List.mem_cons, not_or, ← ih]
      cases found : findLast? [char] text with
      | some offset => simp
      | none => simp [startsWith, after?]

/-- The offset of an occurrence is the length of the text before it. -/
theorem eq_append_of_find? {needle : Text} {offset : Nat}
    (found : find? needle text = some offset) :
    ∃ before after, text = before ++ needle ++ after ∧ before.length = offset := by
  induction text generalizing offset with
  | nil =>
      simp only [find?] at found
      split at found
      · rename_i empty
        cases found
        exact ⟨[], [], by simpa using empty, rfl⟩
      · cases found
  | cons char tail ih =>
      simp only [find?] at found
      split at found
      · rename_i starts
        cases found
        obtain ⟨after, equal⟩ := startsWith_iff.mp starts
        exact ⟨[], after, equal, rfl⟩
      · rw [Option.map_eq_some_iff] at found
        obtain ⟨position, inTail, rfl⟩ := found
        obtain ⟨before, after, rfl, rfl⟩ := ih inTail
        exact ⟨char :: before, after, rfl, rfl⟩

theorem find?_isSome_of_append (before needle after : Text) :
    (find? needle (before ++ needle ++ after)).isSome = true := by
  induction before with
  | nil =>
      rw [List.nil_append]
      cases equal : needle ++ after with
      | nil =>
          have empty := (List.append_eq_nil_iff.mp equal).1
          simp [empty, find?]
      | cons char tail =>
          have starts : startsWith needle (char :: tail) = true :=
            startsWith_iff.mpr ⟨after, equal.symm⟩
          simp [find?, starts]
  | cons char before ih =>
      simp only [List.cons_append, find?]
      split
      · rfl
      · rwa [Option.isSome_map]

end Docweave.Text
