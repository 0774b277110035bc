import Docweave.Directive.Placeholder
import Docweave.Proofs.Block.Braces

/-!
# Templates

An argument with placeholders is a template: texts without braces, and a placeholder between each two
of them.  A placeholder is written in braces, and in it may stand pairs of braces that hold none.  So
its braces match, and what is read from a template are exactly its placeholders, in order.
-/

namespace Docweave.Placeholder

open Text Extent

variable {text rest expression : Text}

/-! ## How a placeholder is written -/

/-- What may stand in a placeholder: characters that are no braces, and pairs of braces around such. -/
inductive Inside : Text → Prop
  | nil : Inside []
  | char {char : Char} {text : Text} (noOpening : char ≠ '{') (noClosing : char ≠ '}')
      (more : Inside text) : Inside (char :: text)
  | pair {inner text : Text} (plain : Unbraced inner) (more : Inside text) :
      Inside ('{' :: (inner ++ '}' :: text))

theorem inside_of_unbraced {text : Text} (plain : Unbraced text) : Inside text := by
  induction text with
  | nil => exact .nil
  | cons char text ih =>
      obtain ⟨noOpening, noClosing⟩ := plain
      rw [List.mem_cons, not_or] at noOpening noClosing
      exact .char (Ne.symm noOpening.1) (Ne.symm noClosing.1) (ih ⟨noOpening.2, noClosing.2⟩)

/-- A placeholder with its braces. -/
inductive IsExpression : Text → Prop
  | intro {inside : Text} (nonempty : inside ≠ []) (isInside : Inside inside) :
      IsExpression ('{' :: (inside ++ ['}']))

theorem IsExpression.brace_mem (isExpression : IsExpression expression) : '{' ∈ expression := by
  obtain ⟨-, -⟩ := isExpression
  exact List.mem_cons_self

theorem closing?_pair {inner : Text} (plain : Unbraced inner) (seen : Bool) (rest : Text) :
    closing? seen true (inner ++ '}' :: rest) =
      (closing? true false rest).map (· + (inner.length + 1)) := by
  induction inner with
  | nil => rw [List.nil_append, closing?, if_pos rfl, List.length_nil]
  | cons char inner ih =>
      obtain ⟨noOpening, noClosing⟩ := plain
      rw [List.mem_cons, not_or] at noOpening noClosing
      rw [List.cons_append, closing?, if_neg (Ne.symm noClosing.1), if_neg (Ne.symm noOpening.1),
        ih ⟨noOpening.2, noClosing.2⟩, Option.map_map]
      rfl

/-- The brace that closes a placeholder is the first one that closes nothing in it. -/
theorem closing?_inside {inside : Text} (isInside : Inside inside) {seen : Bool}
    (something : seen = true ∨ inside ≠ []) (rest : Text) :
    closing? seen false (inside ++ '}' :: rest) = some (inside.length + 1) := by
  induction isInside generalizing seen with
  | nil =>
      obtain rfl := something.resolve_right (fun nonempty => nonempty rfl)
      rw [List.nil_append, closing?, if_pos rfl, if_pos rfl, List.length_nil]
  | char noOpening noClosing more ih =>
      rw [List.cons_append, closing?, if_neg noClosing, if_neg noOpening, ih (.inl rfl),
        Option.map_some, List.length_cons]
  | pair plain more ih =>
      rename_i inner text
      rw [List.cons_append, List.append_assoc, List.cons_append, closing?, if_neg (by decide),
        if_pos rfl, closing?_pair plain, ih (.inl rfl), Option.map_some, Option.map_some]
      simp only [List.length_append, List.length_cons, Option.some.injEq]
      omega

theorem expressionAt?_append (isExpression : IsExpression expression) (rest : Text) :
    expressionAt? (expression ++ rest) = some expression := by
  obtain ⟨nonempty, isInside⟩ := isExpression
  rename_i inside
  have closes : closing? false false (inside ++ '}' :: rest) = some (inside.length + 1) :=
    closing?_inside isInside (.inr nonempty) rest
  have taken : (inside ++ '}' :: rest).take (inside.length + 1) = inside ++ ['}'] := by
    have whole : inside ++ '}' :: rest = (inside ++ ['}']) ++ rest := by simp
    have size : inside.length + 1 = (inside ++ ['}']).length := by simp
    rw [whole, size, List.take_left]
  rw [List.cons_append, List.append_assoc, List.singleton_append, expressionAt?, closes,
    Option.map_some, taken]

/-- The braces in a placeholder match. -/
theorem Inside.enclosed {inside : Text} (isInside : Inside inside) : Enclosed inside := by
  induction isInside with
  | nil => exact ⟨staysOpen_nil.mpr Nat.one_pos, rfl⟩
  | char noOpening noClosing more ih =>
      rename_i char text
      constructor
      · rw [staysOpen_cons Nat.one_pos, depthAfter, if_neg noOpening, if_neg noClosing]
        exact ih.staysOpen
      · simpa [noOpening, noClosing] using ih.count_eq
  | pair plain more ih =>
      rename_i inner text
      constructor
      · rw [staysOpen_cons Nat.one_pos]
        change StaysOpen 2 (inner ++ '}' :: text)
        rw [staysOpen_append_of_unbraced plain Nat.two_pos, staysOpen_cons Nat.two_pos]
        exact ih.staysOpen
      · have opening := List.count_eq_zero.mpr plain.1
        have closing := List.count_eq_zero.mpr plain.2
        have count_eq := ih.count_eq
        simp [opening, closing]
        omega

/-- A start of a placeholder opens more braces than it closes. -/
theorem IsExpression.lt_count {front : Text} (isExpression : IsExpression expression)
    (isPrefix : front <+: expression) (nonempty : front ≠ []) (proper : front ≠ expression) :
    front.count '}' < front.count '{' := by
  obtain ⟨-, isInside⟩ := isExpression
  rename_i inside
  obtain ⟨front, rfl, within⟩ := (List.prefix_cons_iff.mp isPrefix).resolve_left nonempty
  have shorter : front <+: inside := (List.prefix_concat_iff.mp within).resolve_left fun same =>
    proper (congrArg _ same)
  have opened := isInside.enclosed.staysOpen front shorter
  simpa [Nat.lt_succ_iff] using opened

theorem IsExpression.count_eq (isExpression : IsExpression expression) :
    expression.count '}' = expression.count '{' := by
  obtain ⟨-, isInside⟩ := isExpression
  have count_eq := isInside.enclosed.count_eq
  simpa using count_eq

/-- A placeholder does not overlap with itself: it has no start that is also its end. -/
theorem IsExpression.not_overlap {front back shared : Text} (isExpression : IsExpression expression)
    (starts : expression = shared ++ back) (ends : expression = front ++ shared)
    (nonempty : shared ≠ []) (moved : front ≠ []) : False := by
  have properShared : shared ≠ expression := by
    intro same
    have lengths := congrArg List.length ends
    rw [List.length_append, same] at lengths
    exact moved (List.length_eq_zero_iff.mp (by omega))
  have properFront : front ≠ expression := by
    intro same
    have lengths := congrArg List.length ends
    rw [List.length_append, same] at lengths
    exact nonempty (List.length_eq_zero_iff.mp (by omega))
  have first := isExpression.lt_count ⟨back, starts.symm⟩ nonempty properShared
  have second := isExpression.lt_count ⟨shared, ends.symm⟩ moved properFront
  have whole := isExpression.count_eq
  rw [ends, List.count_append, List.count_append] at whole
  omega

/-- A placeholder is found where it stands when it does not stand before that. -/
theorem IsExpression.find?_eq {front : Text} (isExpression : IsExpression expression)
    (apart : ¬ expression <:+: front) (rest : Text) :
    find? expression (front ++ (expression ++ rest)) = some front.length := by
  have nonempty : expression ≠ [] := List.ne_nil_of_mem isExpression.brace_mem
  induction front with
  | nil =>
      obtain ⟨char, tail, expression_eq⟩ := List.exists_cons_of_ne_nil nonempty
      have starts : startsWith expression (char :: (tail ++ rest)) = true :=
        startsWith_iff.mpr ⟨rest, by rw [expression_eq, List.cons_append]⟩
      rw [List.nil_append]
      conv => lhs; arg 2; rw [expression_eq, List.cons_append]
      rw [find?, if_pos starts, List.length_nil]
  | cons char front ih =>
      have later := ih fun within => apart (within.trans (List.suffix_cons char front).isInfix)
      have notHere : ¬ startsWith expression (char :: (front ++ (expression ++ rest))) = true := by
        intro starts
        obtain ⟨left, split⟩ := startsWith_iff.mp starts
        rw [← List.cons_append] at split
        rcases List.append_eq_append_iff.mp split with ⟨shared, ends, again⟩ | ⟨more, within, -⟩
        · by_cases whole : shared = []
          · rw [whole, List.append_nil] at ends
            exact apart (ends ▸ List.infix_refl _)
          · have sizes := congrArg List.length ends
            rw [List.length_append] at sizes
            obtain ⟨back, starts⟩ : shared <+: expression := List.prefix_of_prefix_length_le
              ⟨left, again.symm⟩ (List.prefix_append expression rest) (by omega)
            exact isExpression.not_overlap starts.symm ends whole (List.cons_ne_nil _ _)
        · exact apart ⟨[], more, by rw [within, List.nil_append]⟩
      rw [List.cons_append, find?, if_neg notHere, later, Option.map_some, List.length_cons]

theorem IsExpression.replaceFirst_eq {front : Text} (isExpression : IsExpression expression)
    (apart : ¬ expression <:+: front) (new rest : Text) :
    replaceFirst expression new (front ++ (expression ++ rest)) = front ++ (new ++ rest) := by
  rw [replaceFirst, isExpression.find?_eq apart]
  simp

/-! ## What is read from a template -/

theorem expressionsFrom_append {skip : Nat} {front : Text} (length_eq : front.length = skip)
    (rest : Text) : expressionsFrom skip (front ++ rest) = expressionsFrom 0 rest := by
  induction front generalizing skip with
  | nil =>
      subst length_eq
      rfl
  | cons char front ih =>
      subst length_eq
      rw [List.cons_append, List.length_cons, expressionsFrom]
      exact ih rfl

theorem expressions_append_of_unbraced {lead : Text} (plain : Unbraced lead) (rest : Text) :
    expressions (lead ++ rest) = expressions rest := by
  induction lead with
  | nil => rfl
  | cons char lead ih =>
      obtain ⟨noOpening, noClosing⟩ := plain
      rw [List.mem_cons, not_or] at noOpening noClosing
      have noExpression : expressionAt? (char :: (lead ++ rest)) = none := by
        rw [expressionAt?]
        rintro _ same
        cases same
        exact noOpening.1 rfl
      rw [← ih ⟨noOpening.2, noClosing.2⟩, List.cons_append, expressions, expressionsFrom, noExpression,
        expressions]

theorem expressions_append (isExpression : IsExpression expression) (rest : Text) :
    expressions (expression ++ rest) = expression :: expressions rest := by
  have read := expressionAt?_append isExpression rest
  obtain ⟨char, tail, rfl⟩ := List.exists_cons_of_ne_nil (List.ne_nil_of_mem isExpression.brace_mem)
  rw [List.cons_append] at read ⊢
  rw [expressions, expressionsFrom, read]
  exact congrArg _ (expressionsFrom_append rfl rest)

/-- A placeholder and the text that follows it up to the next one. -/
structure Slot where
  placeholder : Placeholder
  after : Text

/-- An argument with placeholders. -/
structure Template where
  lead : Text
  slots : List Slot

/-- A placeholder that is written as one and read as itself, and no braces after it. -/
structure Slot.WellFormed (slot : Slot) : Prop where
  isExpression : IsExpression slot.placeholder.expression
  read_eq : read slot.placeholder.expression = .ok slot.placeholder
  plain : Unbraced slot.after

/-- The placeholder of the target of an assignment. -/
theorem Slot.wellFormed_target {after : Text} (plain : Unbraced after) :
    Slot.WellFormed ⟨⟨"\x7btarget\x7d", .target, none⟩, after⟩ := by
  have isInside : Inside "target" := inside_of_unbraced (by decide)
  exact ⟨.intro (by decide) isInside, rfl, plain⟩

/-- The placeholder of the value of an assignment. -/
theorem Slot.wellFormed_value {after : Text} (plain : Unbraced after) :
    Slot.WellFormed ⟨⟨"\x7bvalue\x7d", .value, none⟩, after⟩ := by
  have isInside : Inside "value" := inside_of_unbraced (by decide)
  exact ⟨.intro (by decide) isInside, rfl, plain⟩

structure Template.WellFormed (template : Template) : Prop where
  plain : Unbraced template.lead
  slots : ∀ slot ∈ template.slots, slot.WellFormed

/-- Slots as they are written. -/
def writtenSlots : List Slot → Text
  | [] => []
  | slot :: rest => slot.placeholder.expression ++ (slot.after ++ writtenSlots rest)

/-- A template as it is written. -/
def Template.written (template : Template) : Text := template.lead ++ writtenSlots template.slots

/-- The placeholders of a template. -/
def Template.placeholders (template : Template) : List Placeholder := template.slots.map Slot.placeholder

theorem expressions_writtenSlots {slots : List Slot} (wellFormed : ∀ slot ∈ slots, slot.WellFormed) :
    expressions (writtenSlots slots) = slots.map fun slot => slot.placeholder.expression := by
  induction slots with
  | nil => rfl
  | cons slot slots ih =>
      have first := wellFormed slot List.mem_cons_self
      have later := ih fun other membership => wellFormed other (List.mem_cons_of_mem _ membership)
      rw [writtenSlots, expressions_append first.isExpression, expressions_append_of_unbraced first.plain,
        later, List.map_cons]

/-- The placeholders of a template are read from it as it is written. -/
theorem Template.WellFormed.read_eq {template : Template} (wellFormed : template.WellFormed) :
    (expressions template.written).mapM read = .ok template.placeholders := by
  rw [Template.written, expressions_append_of_unbraced wellFormed.plain,
    expressions_writtenSlots wellFormed.slots, Template.placeholders]
  have slots := wellFormed.slots
  generalize template.slots = list at slots
  induction list with
  | nil => rfl
  | cons slot list ih =>
      have later := ih fun other membership => slots other (List.mem_cons_of_mem _ membership)
      rw [List.map_cons, List.mapM_cons, (slots slot List.mem_cons_self).read_eq, later]
      rfl

/-- The placeholders of several templates are read in order. -/
theorem readAll_written {templates : List Template}
    (wellFormed : ∀ template ∈ templates, template.WellFormed) :
    readAll (templates.map Template.written) = .ok (templates.map Template.placeholders) := by
  rw [readAll]
  induction templates with
  | nil => rfl
  | cons template templates ih =>
      have later := ih fun other membership => wellFormed other (List.mem_cons_of_mem _ membership)
      rw [List.map_cons, List.mapM_cons, (wellFormed template List.mem_cons_self).read_eq, later]
      rfl

end Docweave.Placeholder
