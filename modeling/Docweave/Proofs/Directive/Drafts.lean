import Docweave.Proofs.Directive.Template

/-!
# Writing placeholders

A draft says what a placeholder stands for and how the text is narrowed down.  It is written in braces:
the element, and the pattern between slashes if there is one.  No element holds a slash, so the first
slash opens the pattern, and the last one closes it, whatever slashes and brackets the pattern holds.
The braces of a pattern come in pairs that hold none, so the placeholder ends where it was written to
end.  So what is read from an argument is what was written into it.
-/

namespace Docweave.Placeholder

open Text Extent

/-! ## Drafts -/

/-- A position in decimal digits, with zeros before them, that is short enough to be read. -/
structure Position where
  number : Nat
  zeros : Nat
  length_le : zeros + (ofNat number).length ≤ Value.mostDigits

/-- The digits of a position as they are written. -/
def Position.digits (position : Position) : Text :=
  List.replicate position.zeros '0' ++ ofNat position.number

/-- A position as it is written in brackets. -/
def Position.written (position : Position) : Text := '[' :: (position.digits ++ [']'])

/-- What a placeholder stands for: the target, the value, or the argument at the end of a path of at
least one position. -/
inductive Subject where
  | target
  | value
  | arg (first : Position) (more : List Position)

/-- A subject as it is written. -/
def Subject.written : Subject → Text
  | .target => "target"
  | .value => "value"
  | .arg first more => "arg".toList ++ (first :: more).flatMap Position.written

/-- The element that a subject names. -/
def Subject.element : Subject → PlaceholderElement
  | .target => .target
  | .value => .value
  | .arg first more => .arg ((first :: more).map Position.number)

/-- A pattern as it is written, with braces only in pairs that hold none. -/
structure Narrowing where
  source : Text
  pattern : Pattern
  parse_eq : Pattern.parse source = .ok pattern
  isInside : Inside source

/-- A placeholder that is to be written. -/
structure Draft where
  subject : Subject
  narrowing : Option Narrowing

namespace Draft

/-- What stands in the braces of a draft. -/
def inside (draft : Draft) : Text :=
  match draft.narrowing with
  | none => draft.subject.written
  | some narrowing => draft.subject.written ++ '/' :: (narrowing.source ++ ['/'])

/-- A draft as it is written. -/
def expression (draft : Draft) : Text := '{' :: (draft.inside ++ ['}'])

/-- The placeholder that a draft is about. -/
def placeholder (draft : Draft) : Placeholder :=
  ⟨draft.expression, draft.subject.element,
    draft.narrowing.map fun narrowing => (narrowing.source, narrowing.pattern)⟩

end Draft

/-- A draft and the text without braces that follows it. -/
structure DraftSlot where
  draft : Draft
  after : Text
  plain : Unbraced after

/-- An argument that is to be written: texts without braces, and a draft between each two of them. -/
structure DraftArgument where
  lead : Text
  plain : Unbraced lead
  slots : List DraftSlot

namespace DraftArgument

/-- An argument as it is written. -/
def written (argument : DraftArgument) : Text :=
  argument.lead ++ argument.slots.flatMap fun slot => slot.draft.expression ++ slot.after

/-- The placeholders of an argument. -/
def placeholders (argument : DraftArgument) : List Placeholder :=
  argument.slots.map fun slot => slot.draft.placeholder

end DraftArgument

/-! ## Positions -/

/-- No character of a text ends a placeholder or opens its pattern. -/
def Quiet (text : Text) : Prop := ∀ char ∈ text, char ≠ '{' ∧ char ≠ '}' ∧ char ≠ '/'

instance (text : Text) : Decidable (Quiet text) := List.decidableBAll _ text

namespace Position

variable (position : Position)

theorem isDigit_of_mem_digits {char : Char} (membership : char ∈ position.digits) :
    char.isDigit = true := by
  rcases List.mem_append.mp membership with zero | digit
  · rw [List.eq_of_mem_replicate zero]
    rfl
  · exact Nat.isDigit_of_mem_toDigits (by decide) (by decide) digit

theorem quiet_digits : Quiet position.digits := by
  intro char membership
  have isDigit := position.isDigit_of_mem_digits membership
  refine ⟨?_, ?_, ?_⟩ <;>
  · rintro rfl
    exact absurd isDigit (by decide)

theorem digits_ne_nil : position.digits ≠ [] :=
  List.append_ne_nil_of_right_ne_nil _ Nat.toDigits_ne_nil

theorem length_digits_le : position.digits.length ≤ Value.mostDigits := by
  rw [digits, List.length_append, List.length_replicate]
  exact position.length_le

end Position

/-- Decimal digits are counted up from the left. -/
theorem ofDigits_eq_ofDigitChars {digits : Text} (isDigits : ∀ char ∈ digits, char.isDigit = true) (start : Nat) :
    digits.foldl (fun number char => number * 10 + Numeral.digitValue char) start =
      Nat.ofDigitChars 10 digits start := by
  induction digits generalizing start with
  | nil => rfl
  | cons char digits ih =>
      obtain ⟨first, later⟩ := List.forall_mem_cons.mp isDigits
      have value_eq : Numeral.digitValue char = char.toNat - '0'.toNat := by
        have between : '0' ≤ char ∧ char ≤ '9' := by
          simpa [Char.isDigit, Char.le_def] using first
        rw [Numeral.digitValue, if_pos between]
        rfl
      rw [List.foldl_cons, Nat.ofDigitChars_cons, ih later, value_eq, Nat.mul_comm]

theorem Position.ofDigits_digits (position : Position) :
    Numeral.ofDigits 10 position.digits = position.number := by
  rw [Numeral.ofDigits, ofDigits_eq_ofDigitChars fun _ => position.isDigit_of_mem_digits, digits,
    Nat.ofDigitChars_append, Nat.ofDigitChars_replicate_zero, Nat.mul_zero]
  exact Nat.ofDigitChars_ten_toDigits

theorem readPositions?_digits {digits : Text} (isDigits : ∀ char ∈ digits, char.isDigit = true) (seen rest : Text)
    (nonempty : seen ++ digits ≠ []) :
    readPositions? (some seen) (digits ++ ']' :: rest) =
      (readPositions? none rest).map ((seen.reverse ++ digits) :: ·) := by
  induction digits generalizing seen with
  | nil =>
      rw [List.append_nil] at nonempty
      rw [List.nil_append, readPositions?, if_neg (by decide), if_pos ⟨rfl, nonempty⟩, List.append_nil]
  | cons char digits ih =>
      obtain ⟨first, later⟩ := List.forall_mem_cons.mp isDigits
      rw [List.cons_append, readPositions?, if_pos first, ih later _ (List.cons_ne_nil _ _)]
      simp

/-- The digits of positions are read from their brackets. -/
theorem readPositions?_written (positions : List Position) :
    readPositions? none (positions.flatMap Position.written) = some (positions.map Position.digits) := by
  induction positions with
  | nil => rfl
  | cons position positions ih =>
      rw [List.flatMap_cons, Position.written, List.cons_append, List.append_assoc,
        List.singleton_append, readPositions?,
        readPositions?_digits (fun _ => position.isDigit_of_mem_digits) [] _ position.digits_ne_nil, ih]
      rfl

/-! ## Elements -/

/-- Positions end with a bracket. -/
theorem exists_concat_written (first : Position) (more : List Position) :
    ∃ front, (first :: more).flatMap Position.written = front ++ [']'] := by
  induction more generalizing first with
  | nil => exact ⟨'[' :: first.digits, by simp [Position.written]⟩
  | cons second more ih =>
      obtain ⟨front, ends⟩ := ih second
      exact ⟨first.written ++ front, by rw [List.flatMap_cons, ends, List.append_assoc]⟩

theorem argPositions?_written (first : Position) (more : List Position) :
    argPositions? ("arg".toList ++ (first :: more).flatMap Position.written) =
      some ((first :: more).map Position.digits) := by
  obtain ⟨front, ends⟩ := exists_concat_written first more
  have rest : after? "arg" ("arg".toList ++ (first :: more).flatMap Position.written) =
      some ((first :: more).flatMap Position.written) := after?_eq_some.mpr rfl
  have kept : dropFinalNewline ((first :: more).flatMap Position.written) =
      (first :: more).flatMap Position.written := by
    rw [ends, dropFinalNewline, if_neg]
    intro newline
    obtain ⟨before, same⟩ := endsWith_singleton.mp newline
    have last := congrArg List.getLast? same
    rw [List.getLast?_concat, List.getLast?_concat] at last
    exact absurd last (by decide)
  rw [argPositions?, rest, Option.bind_eq_bind, Option.bind_some, kept, readPositions?_written]
  rfl

/-- The element that a subject names is read from it. -/
theorem readElement_written (subject : Subject) : readElement subject.written = .ok subject.element := by
  cases subject with
  | target => rfl
  | value => rfl
  | arg first more =>
      have readable : ((first :: more).map Position.digits).find?
          (fun digits => digits.length > Value.mostDigits) = none := by
        refine List.find?_eq_none.mpr fun digits membership => ?_
        obtain ⟨position, -, rfl⟩ := List.mem_map.mp membership
        simpa using position.length_digits_le
      have numbers : ((first :: more).map Position.digits).map (Numeral.ofDigits 10) =
          (first :: more).map Position.number := by
        rw [List.map_map]
        exact List.map_congr_left fun position _ => position.ofDigits_digits
      have other : ∀ rest : Text, "arg".toList ++ rest ≠ "target".toList ∧
          "arg".toList ++ rest ≠ "value".toList := by
        refine fun rest => ⟨fun same => ?_, fun same => ?_⟩ <;>
        · have first := List.head_eq_of_cons_eq same
          exact absurd first (by decide)
      have written_eq : (Subject.arg first more).written =
          "arg".toList ++ (first :: more).flatMap Position.written := rfl
      rw [written_eq, readElement, if_neg (other _).1, if_neg (other _).2, argPositions?_written]
      simp only [readable, numbers]
      rfl

theorem quiet_written (subject : Subject) : Quiet subject.written := by
  cases subject with
  | target => decide
  | value => decide
  | arg first more =>
      have word : Quiet "arg".toList := by decide
      refine List.forall_mem_append.mpr ⟨word, fun char membership => ?_⟩
      obtain ⟨position, -, within⟩ := List.mem_flatMap.mp membership
      rcases List.mem_cons.mp within with rfl | inside
      · decide
      · rcases List.mem_append.mp inside with digit | closing
        · exact position.quiet_digits char digit
        · rw [List.mem_singleton.mp closing]
          decide

theorem unbraced_written (subject : Subject) : Unbraced subject.written :=
  ⟨fun opening => (quiet_written subject _ opening).1 rfl,
    fun closing => (quiet_written subject _ closing).2.1 rfl⟩

theorem slash_not_mem_written (subject : Subject) : '/' ∉ subject.written :=
  fun slash => (quiet_written subject _ slash).2.2 rfl

theorem written_ne_nil (subject : Subject) : subject.written ≠ [] := by
  cases subject with
  | target => decide
  | value => decide
  | arg first more => exact List.append_ne_nil_of_left_ne_nil (by decide) _

/-! ## Placeholders -/

theorem Inside.append {first second : Text} (isFirst : Inside first) (isSecond : Inside second) :
    Inside (first ++ second) := by
  induction isFirst with
  | nil => exact isSecond
  | char noOpening noClosing more ih => exact .char noOpening noClosing ih
  | pair plain more ih =>
      rw [List.cons_append, List.append_assoc]
      exact .pair plain ih

namespace Draft

variable (draft : Draft)

theorem isExpression_expression : IsExpression draft.expression := by
  have isSubject := inside_of_unbraced (unbraced_written draft.subject)
  refine .intro ?_ ?_
  · rw [inside]
    split
    · exact written_ne_nil draft.subject
    · exact List.append_ne_nil_of_left_ne_nil (written_ne_nil draft.subject) _
  · rw [inside]
    split
    · exact isSubject
    · rename_i narrowing _
      have slash : Inside ['/'] := inside_of_unbraced (by decide)
      exact isSubject.append (slash.append (narrowing.isInside.append slash))

/-- The pattern of a draft is read up to its last slash. -/
theorem readPattern_source (narrowing : Narrowing) (expression : Text) :
    readPattern expression (narrowing.source ++ ['/']) = .ok (narrowing.source, narrowing.pattern) := by
  rw [readPattern, if_pos (endsWith_singleton.mpr ⟨narrowing.source, rfl⟩), List.dropLast_concat]
  simp only [narrowing.parse_eq]

/-- A placeholder is read from a draft as it is written. -/
theorem read_expression : read draft.expression = .ok draft.placeholder := by
  have stripped : (draft.expression.drop 1).dropLast = draft.inside := List.dropLast_concat
  rw [read, stripped, placeholder]
  cases narrowed : draft.narrowing with
  | none =>
      have inside_eq : draft.inside = draft.subject.written := by rw [inside, narrowed]
      have noSlash : findChar? '/' draft.subject.written = none :=
        findChar?_eq_none_iff.mpr (slash_not_mem_written draft.subject)
      simp only [inside_eq, noSlash, readElement_written]
      rfl
  | some narrowing =>
      have inside_eq : draft.inside = draft.subject.written ++ '/' :: (narrowing.source ++ ['/']) := by
        rw [inside, narrowed]
      have slash : findChar? '/' draft.inside = some draft.subject.written.length :=
        findChar?_eq_some.mpr ⟨_, _, inside_eq, slash_not_mem_written draft.subject, rfl⟩
      have before : draft.inside.take draft.subject.written.length = draft.subject.written := by
        rw [inside_eq, List.take_left]
      have after : draft.inside.drop (draft.subject.written.length + 1) = narrowing.source ++ ['/'] := by
        rw [inside_eq]
        simp
      simp only [slash, before, after, readPattern_source, readElement_written]
      rfl

end Draft

/-! ## Arguments -/

namespace DraftArgument

/-- The template of an argument. -/
def template (argument : DraftArgument) : Template :=
  ⟨argument.lead, argument.slots.map fun slot => ⟨slot.draft.placeholder, slot.after⟩⟩

variable (argument : DraftArgument)

theorem written_template : argument.template.written = argument.written := by
  rw [template, Template.written, written]
  refine congrArg _ ?_
  induction argument.slots with
  | nil => rfl
  | cons slot slots ih =>
      rw [List.map_cons, writtenSlots, ih, List.flatMap_cons, List.append_assoc]
      rfl

theorem placeholders_template : argument.template.placeholders = argument.placeholders := by
  rw [Template.placeholders, template, List.map_map]
  rfl

theorem wellFormed_template : argument.template.WellFormed := by
  refine ⟨argument.plain, fun slot membership => ?_⟩
  obtain ⟨slot, -, rfl⟩ := List.mem_map.mp membership
  exact ⟨slot.draft.isExpression_expression, slot.draft.read_expression, slot.plain⟩

end DraftArgument

/-- What is read from arguments as they are written are the placeholders that were written into them, in
order, with their elements and the texts of their patterns. -/
theorem readAll_drafts (arguments : List DraftArgument) :
    readAll (arguments.map DraftArgument.written) = .ok (arguments.map DraftArgument.placeholders) := by
  have wellFormed : ∀ template ∈ arguments.map DraftArgument.template, template.WellFormed := by
    rw [List.forall_mem_map]
    exact fun argument _ => argument.wellFormed_template
  have written_eq : arguments.map DraftArgument.written =
      (arguments.map DraftArgument.template).map Template.written := by
    rw [List.map_map]
    exact List.map_congr_left fun argument _ => argument.written_template.symm
  have placeholders_eq : arguments.map DraftArgument.placeholders =
      (arguments.map DraftArgument.template).map Template.placeholders := by
    rw [List.map_map]
    exact List.map_congr_left fun argument _ => argument.placeholders_template.symm
  rw [written_eq, placeholders_eq]
  exact readAll_written wellFormed

/-- A path, and a pattern with slashes, brackets and a repetition in braces. -/
theorem readAll_drafts_of_slashes :
    ∃ pattern, Pattern.parse "a\x7b2\x7d/[/b]" = .ok pattern ∧
      readAll ["x\x7barg[1][07]/a\x7b2\x7d/[/b]/\x7d \x7btarget\x7d"] =
        .ok [[⟨"\x7barg[1][07]/a\x7b2\x7d/[/b]/\x7d", .arg [1, 7], some ("a\x7b2\x7d/[/b]", pattern)⟩,
          ⟨"\x7btarget\x7d", .target, none⟩]] := by
  have readable : (Pattern.parse "a\x7b2\x7d/[/b]").toBool = true := by decide +kernel
  cases parsed : Pattern.parse "a\x7b2\x7d/[/b]" with
  | error error =>
      rw [parsed] at readable
      cases readable
  | ok pattern =>
      have tail : Inside "/[/b]" := inside_of_unbraced (by decide)
      have repetition : Inside ('\x7b' :: ("2".toList ++ '\x7d' :: "/[/b]".toList)) :=
        .pair (by decide) tail
      have isInside : Inside "a\x7b2\x7d/[/b]" := .char (by decide) (by decide) repetition
      let narrowing : Narrowing := ⟨"a\x7b2\x7d/[/b]", pattern, parsed, isInside⟩
      let subject : Subject := .arg ⟨1, 0, by decide⟩ [⟨7, 1, by decide⟩]
      let argument : DraftArgument :=
        ⟨"x", by decide, [⟨⟨subject, some narrowing⟩, " ", by decide⟩, ⟨⟨.target, none⟩, "", by decide⟩]⟩
      exact ⟨pattern, rfl, readAll_drafts [argument]⟩

end Docweave.Placeholder
