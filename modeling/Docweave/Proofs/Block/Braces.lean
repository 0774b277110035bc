import Docweave.Proofs.Block.Extent

/-!
# Braces that match

A body is closed by the brace that matches its opening brace, where every brace counts.  So the text
between the two closes no brace that it has not opened, and opens none that it does not close.  The
scan for the closing brace stops exactly there, and it goes on to the end of the text exactly when
nothing closes the body.
-/

namespace Docweave.Extent

open Text

variable {text rest before : Text} {depth : Nat}

/-- A text without braces. -/
def Unbraced (text : Text) : Prop := '{' ∉ text ∧ '}' ∉ text

instance (text : Text) : Decidable (Unbraced text) :=
  inferInstanceAs (Decidable ('{' ∉ text ∧ '}' ∉ text))

theorem unbraced_append {first second : Text} :
    Unbraced (first ++ second) ↔ Unbraced first ∧ Unbraced second := by
  simp only [Unbraced, List.mem_append, not_or]
  exact and_and_and_comm

theorem unbraced_of_inClass {inClass : Char → Bool} (inside : ∀ char ∈ text, inClass char = true)
    (opening : inClass '{' = false) (closing : inClass '}' = false) : Unbraced text := by
  constructor
  · intro membership
    exact Bool.false_ne_true (opening.symm.trans (inside _ membership))
  · intro membership
    exact Bool.false_ne_true (closing.symm.trans (inside _ membership))

/-- No start of the text closes all braces that are open, where `depth` are open before the text. -/
def StaysOpen (depth : Nat) (text : Text) : Prop :=
  ∀ front, front <+: text → front.count '}' < front.count '{' + depth

/-- The text stands between a brace and the one that matches it. -/
structure Enclosed (inner : Text) : Prop where
  staysOpen : StaysOpen 1 inner
  count_eq : inner.count '}' = inner.count '{'

/-- The braces that are open after a character that is read with `depth` braces open. -/
def depthAfter (depth : Nat) (char : Char) : Nat :=
  if char = '{' then depth + 1 else if char = '}' then depth - 1 else depth

theorem StaysOpen.pos (opened : StaysOpen depth text) : 0 < depth := by
  simpa using opened [] List.nil_prefix

theorem staysOpen_nil : StaysOpen depth [] ↔ 0 < depth := by
  constructor
  · exact StaysOpen.pos
  · intro positive front isPrefix
    rw [List.prefix_nil.mp isPrefix]
    simpa using positive

/-- A character moves as many braces from the depth to the text as it opens or closes. -/
theorem count_cons_add (char : Char) (positive : 0 < depth) (text : Text) :
    (char :: text).count '{' + depth + text.count '}' =
      (char :: text).count '}' + (text.count '{' + depthAfter depth char) := by
  rw [depthAfter, List.count_cons, List.count_cons]
  by_cases opening : char = '{'
  · simp [opening]
    omega
  · by_cases closing : char = '}'
    · simp [closing]
      omega
    · simp [opening, closing]
      omega

theorem staysOpen_cons {char : Char} (positive : 0 < depth) :
    StaysOpen depth (char :: text) ↔ StaysOpen (depthAfter depth char) text := by
  constructor
  · intro opened front isPrefix
    have before := opened (char :: front) ((List.prefix_cons_inj char).mpr isPrefix)
    have moved := count_cons_add char positive front
    omega
  · intro opened front isPrefix
    rcases List.prefix_cons_iff.mp isPrefix with rfl | ⟨tail, rfl, inTail⟩
    · simpa using positive
    · have after := opened tail inTail
      have moved := count_cons_add char positive tail
      omega

/-- What holds no braces can be added at the start. -/
theorem staysOpen_append_of_unbraced {lead : Text} (plain : Unbraced lead) (positive : 0 < depth) :
    StaysOpen depth (lead ++ text) ↔ StaysOpen depth text := by
  induction lead with
  | nil => exact Iff.rfl
  | cons char lead ih =>
      obtain ⟨noOpening, noClosing⟩ := plain
      rw [List.mem_cons, not_or] at noOpening noClosing
      rw [List.cons_append, staysOpen_cons positive, depthAfter, if_neg (Ne.symm noOpening.1),
        if_neg (Ne.symm noClosing.1)]
      exact ih ⟨noOpening.2, noClosing.2⟩

/-- What closes nothing can be added at the end. -/
theorem staysOpen_append_of_not_mem {tail : Text} (plain : '}' ∉ tail) :
    StaysOpen depth (text ++ tail) ↔ StaysOpen depth text := by
  constructor
  · intro opened front isPrefix
    exact opened front (isPrefix.trans (List.prefix_append _ _))
  · intro opened front isPrefix
    rcases List.prefix_or_prefix_of_prefix isPrefix (List.prefix_append text tail) with within | past
    · exact opened front within
    · obtain ⟨more, rfl⟩ := past
      have inTail : more <+: tail := (List.prefix_append_right_inj text).mp isPrefix
      have closes : more.count '}' = 0 :=
        List.count_eq_zero.mpr fun membership => plain (inTail.subset membership)
      have whole := opened text (List.prefix_refl text)
      simp only [List.count_append]
      omega

/-! ## The scan for the closing brace -/

/-- A character closes the body, or the scan goes on with the braces that are then open. -/
theorem afterBody?_cons {char : Char} (positive : 0 < depth) :
    afterBody? depth (char :: text) =
      if depthAfter depth char = 0 then some text else afterBody? (depthAfter depth char) text := by
  rw [afterBody?, depthAfter]
  by_cases opening : char = '{'
  · simp [opening]
  · by_cases closing : char = '}'
    · by_cases last : depth ≤ 1
      · simp [closing, last, show depth - 1 = 0 by omega]
      · simp [closing, last, show depth - 1 ≠ 0 by omega]
    · simp [opening, closing, show depth ≠ 0 by omega]

/-- A body is never closed in a text exactly when it stays open up to its end. -/
theorem afterBody?_eq_none (positive : 0 < depth) :
    afterBody? depth text = none ↔ StaysOpen depth text := by
  induction text generalizing depth with
  | nil => simp [afterBody?, staysOpen_nil, positive]
  | cons char text ih =>
      rw [afterBody?_cons positive, staysOpen_cons positive]
      split
      · rename_i closed
        rw [closed]
        exact iff_of_false (Option.some_ne_none text) fun opened => Nat.lt_irrefl 0 opened.pos
      · rename_i goesOn
        exact ih (Nat.pos_of_ne_zero goesOn)

/-- A body is closed by the brace up to which it stays open and which closes the last open one. -/
theorem afterBody?_eq_some (positive : 0 < depth) :
    afterBody? depth text = some rest ↔ ∃ inner, text = inner ++ '}' :: rest ∧
      StaysOpen depth inner ∧ inner.count '}' + 1 = inner.count '{' + depth := by
  induction text generalizing depth with
  | nil => simp [afterBody?]
  | cons char text ih =>
      rw [afterBody?_cons positive]
      split
      · rename_i closed
        have closes : char = '}' ∧ depth = 1 := by
          rw [depthAfter] at closed
          split at closed
          · omega
          · split at closed
            · rename_i closing
              exact ⟨closing, by omega⟩
            · omega
        obtain ⟨rfl, rfl⟩ := closes
        constructor
        · intro same
          cases same
          exact ⟨[], rfl, staysOpen_nil.mpr positive, rfl⟩
        · rintro ⟨inner, split, opened, -⟩
          cases inner with
          | nil =>
              cases split
              rfl
          | cons first inner =>
              cases split
              exact absurd (opened ['}'] ⟨inner, rfl⟩) (by decide)
      · rename_i goesOn
        rw [ih (Nat.pos_of_ne_zero goesOn)]
        constructor
        · rintro ⟨inner, rfl, opened, count_eq⟩
          have moved := count_cons_add char positive inner
          exact ⟨char :: inner, rfl, (staysOpen_cons positive).mpr opened, by omega⟩
        · rintro ⟨inner, split, opened, count_eq⟩
          cases inner with
          | nil =>
              cases split
              rw [depthAfter] at goesOn
              simp at count_eq goesOn
              omega
          | cons first inner =>
              cases split
              have moved := count_cons_add char positive inner
              exact ⟨inner, rfl, (staysOpen_cons positive).mp opened, by omega⟩

/-- A text that stands between matching braces is told by the scan from the first one. -/
theorem enclosed_iff {inner : Text} : Enclosed inner ↔ afterBody? 1 (inner ++ ['}']) = some [] := by
  rw [afterBody?_eq_some Nat.one_pos]
  constructor
  · rintro ⟨opened, count_eq⟩
    exact ⟨inner, rfl, opened, by rw [count_eq]⟩
  · rintro ⟨body, same, opened, count_eq⟩
    obtain rfl := List.append_cancel_right same
    exact ⟨opened, Nat.add_right_cancel count_eq⟩

instance (inner : Text) : Decidable (Enclosed inner) := decidable_of_iff _ enclosed_iff.symm

/-- What comes after the closing brace does not matter. -/
theorem afterBody?_append (positive : 0 < depth) (found : afterBody? depth text = some rest)
    (more : Text) : afterBody? depth (text ++ more) = some (rest ++ more) := by
  obtain ⟨inner, rfl, opened, count_eq⟩ := (afterBody?_eq_some positive).mp found
  exact (afterBody?_eq_some positive).mpr ⟨inner, by simp, opened, count_eq⟩

/-! ## Where a construct ends -/

/-- The scan for a construct starts at its first brace. -/
theorem braced_eq (fresh : '{' ∉ before) (after : Text) :
    braced (before ++ '{' :: after) =
      match afterBody? 1 after with
      | none => (before ++ '{' :: after).length
      | some rest => (before ++ '{' :: after).length - (rest.dropWhile (· = ';')).length := by
  have inside : ∀ char ∈ before, decide (char ≠ '{') = true := by
    intro char membership
    rw [decide_eq_true_eq]
    rintro rfl
    exact fresh membership
  rw [braced, dropWhile_append_of_outside inside (by decide) after]
  rfl

/-- A construct reaches past a later brace exactly when its first one is not closed before that. -/
theorem lt_braced_iff (fresh : '{' ∉ before) (between inner : Text) :
    (before ++ '{' :: between).length < braced (before ++ '{' :: (between ++ '{' :: inner)) ↔
      StaysOpen 1 between := by
  rw [braced_eq fresh]
  constructor
  · intro reaches
    rw [← afterBody?_eq_none Nat.one_pos]
    cases closed : afterBody? 1 between with
    | none => rfl
    | some rest =>
        -- The semicolons after a body end before the next brace.
        obtain ⟨gone, later⟩ : ∃ gone, ((rest ++ '{' :: inner).dropWhile (· = ';')) = gone ++ '{' :: inner := by
          rw [List.dropWhile_append]
          split
          · exact ⟨[], by simp⟩
          · exact ⟨_, rfl⟩
        rw [afterBody?_append Nat.one_pos closed] at reaches
        simp only [later, List.length_append, List.length_cons] at reaches
        omega
  · intro opened
    cases closed : afterBody? 1 (between ++ '{' :: inner) with
    | none => simp
    | some rest =>
        obtain ⟨body, split, -, count_eq⟩ := (afterBody?_eq_some Nat.one_pos).mp closed
        have shorter : rest.length ≤ inner.length := by
          apply Nat.le_of_not_lt
          intro longer
          have lengths := congrArg List.length split
          simp only [List.length_append, List.length_cons] at lengths
          have within : body ++ ['}'] <+: between := by
            refine List.prefix_of_prefix_length_le ⟨rest, ?_⟩ (List.prefix_append between ('{' :: inner)) ?_
            · simp [split]
            · simp only [List.length_append, List.length_singleton]
              omega
          have stays := opened _ within
          simp only [List.count_append, List.count_singleton] at stays
          simp at stays
          omega
        have dropped := (List.dropWhile_suffix (l := rest) (decide <| · = ';')).length_le
        simp only [List.length_append, List.length_cons]
        omega

end Docweave.Extent
