import Docweave.Proofs.Directive.Template
import Docweave.Proofs.Forest.Spoken

/-!
# Filling templates

The placeholders of an argument are filled one after the other, each where it is first found in what
is filled in so far.  That is the place where the template has it exactly as long as it is not written
in a text that was filled in before.  Then the argument is the template with each text in its place,
and a directive stands for one list of such arguments for each assignment that gives all texts.
-/

namespace Docweave.Placeholder

open Text

variable {forest : Forest} {content : ContentId} {id : BlockId} {index : Nat}
variable {block : Block} {template : Template} {templates : List Template} {slots : List Slot}

/-! ## One argument -/

/-- Slots with the texts that a block gives in the place of their placeholders. -/
def filledSlots? (block : Block) : List Slot → Option Text
  | [] => some []
  | slot :: rest => do
    let text ← slot.placeholder.extract? block
    let more ← filledSlots? block rest
    some (text ++ (slot.after ++ more))

/-- A template with the texts that a block gives in the place of its placeholders. -/
def Template.filled? (template : Template) (block : Block) : Option Text :=
  (filledSlots? block template.slots).map (template.lead ++ ·)

/-- No placeholder is written in what stands before it once the placeholders before it are filled,
where `front` stands before all of them. -/
def ApartFrom (block : Block) : (front : Text) → List Slot → Prop
  | _, [] => True
  | front, slot :: rest =>
    ¬ slot.placeholder.expression <:+: front ∧
      ∀ text ∈ slot.placeholder.extract? block, ApartFrom block (front ++ (text ++ slot.after)) rest

/-- No placeholder of a template is written in what is filled in before it. -/
def Template.Apart (template : Template) (block : Block) : Prop :=
  ApartFrom block template.lead template.slots

/-- A block gives a text for every placeholder of a template. -/
def Template.Extracts (template : Template) (block : Block) : Prop :=
  ∀ placeholder ∈ template.placeholders, (placeholder.extract? block).isSome

instance (template : Template) (block : Block) : Decidable (template.Extracts block) :=
  inferInstanceAs (Decidable (∀ placeholder ∈ template.placeholders, _))

theorem apartFrom_of_plain (wellFormed : ∀ slot ∈ slots, slot.WellFormed)
    (texts : ∀ slot ∈ slots, ∀ text ∈ slot.placeholder.extract? block, '{' ∉ text) {front : Text}
    (plain : '{' ∉ front) : ApartFrom block front slots := by
  induction slots generalizing front with
  | nil => trivial
  | cons slot slots ih =>
      have first := wellFormed slot List.mem_cons_self
      constructor
      · exact fun within => plain (within.subset first.isExpression.brace_mem)
      · intro text found
        apply ih (fun other membership => wellFormed other (List.mem_cons_of_mem _ membership))
          (fun other membership => texts other (List.mem_cons_of_mem _ membership))
        simp [plain, texts slot List.mem_cons_self text found, first.plain.1]

/-- Texts without an opening brace are never taken for a placeholder. -/
theorem Template.WellFormed.apart_of_plain (wellFormed : template.WellFormed)
    (texts : ∀ slot ∈ template.slots, ∀ text ∈ slot.placeholder.extract? block, '{' ∉ text) :
    template.Apart block :=
  apartFrom_of_plain wellFormed.slots texts wellFormed.plain.1

/-- Placeholders that are apart are filled where the template has them. -/
theorem fill?_writtenSlots (wellFormed : ∀ slot ∈ slots, slot.WellFormed) {front : Text}
    (apart : ApartFrom block front slots) :
    fill? block (slots.map Slot.placeholder) (front ++ writtenSlots slots) =
      (filledSlots? block slots).map (front ++ ·) := by
  induction slots generalizing front with
  | nil => rfl
  | cons slot slots ih =>
      have first := wellFormed slot List.mem_cons_self
      obtain ⟨here, later⟩ := apart
      rw [List.map_cons, fill?, filledSlots?]
      cases found : slot.placeholder.extract? block with
      | none => rfl
      | some text =>
          have rest := ih (fun other membership => wellFormed other (List.mem_cons_of_mem _ membership))
            (later text found)
          simp only [writtenSlots, first.isExpression.replaceFirst_eq here, List.append_assoc,
            Option.bind_eq_bind, Option.bind_some] at rest ⊢
          rw [rest]
          cases filledSlots? block slots <;> rfl

theorem Template.WellFormed.fill?_eq (wellFormed : template.WellFormed) (apart : template.Apart block) :
    fill? block template.placeholders template.written = template.filled? block :=
  fill?_writtenSlots wellFormed.slots apart

/-- Filling fails exactly when some placeholder finds no text. -/
theorem isSome_fill? (placeholders : List Placeholder) (arg : Text) :
    (fill? block placeholders arg).isSome ↔
      ∀ placeholder ∈ placeholders, (placeholder.extract? block).isSome := by
  induction placeholders generalizing arg with
  | nil => simp [fill?]
  | cons placeholder placeholders ih =>
      rw [fill?, List.forall_mem_cons]
      cases found : placeholder.extract? block with
      | none => simp
      | some text => simp [ih]

/-! ## All arguments -/

section Lists

variable {α β : Type} {function : α → Option β} {arguments : List α} {results : List β}

theorem mapM_eq_some_iff : arguments.mapM function = some results ↔
    List.Forall₂ (fun argument result => function argument = some result) arguments results := by
  induction arguments generalizing results with
  | nil => simp [eq_comm]
  | cons argument arguments ih =>
      simp only [List.mapM_cons, Option.bind_eq_bind, Option.bind_eq_some_iff, Option.pure_def,
        Option.some.injEq, List.forall₂_cons_left_iff]
      constructor
      · rintro ⟨first, found, later, mapped, rfl⟩
        exact ⟨first, later, found, ih.mp mapped, rfl⟩
      · rintro ⟨first, later, found, each, rfl⟩
        exact ⟨first, found, later, ih.mpr each, rfl⟩

theorem isSome_mapM_iff :
    (arguments.mapM function).isSome ↔ ∀ argument ∈ arguments, (function argument).isSome := by
  induction arguments with
  | nil => simp
  | cons argument arguments ih =>
      rw [List.mapM_cons, List.forall_mem_cons, ← ih]
      cases function argument with
      | none => simp
      | some first => cases arguments.mapM function <;> simp

/-- What a partial function gives for a list, beside the members for which it gives something. -/
theorem forall₂_filterMap (function : α → Option β) (arguments : List α) :
    List.Forall₂ (fun argument result => function argument = some result)
      (arguments.filter fun argument => (function argument).isSome) (arguments.filterMap function) := by
  induction arguments with
  | nil => exact .nil
  | cons argument arguments ih =>
      rw [List.filter_cons, List.filterMap_cons]
      cases found : function argument with
      | none => exact ih
      | some result => exact .cons found ih

end Lists

/-- The arguments of a directive, filled from a block. -/
theorem fillAll?_written (block : Block) (templates : List Template) :
    fillAll? block (templates.map Template.written) (templates.map Template.placeholders) =
      templates.mapM fun template => fill? block template.placeholders template.written := by
  rw [fillAll?, List.zip_map', List.mapM_map]
  rfl

/-- The arguments of a directive, when the block is an assignment that fills them all. -/
def filledFrom? (templates : List Template) (block : Block) : Option (List Text) :=
  if block.kind = .assignment then
    templates.mapM fun template => fill? block template.placeholders template.written
  else none

theorem isSome_filledFrom? :
    (filledFrom? templates block).isSome ↔
      block.kind = .assignment ∧ ∀ template ∈ templates, template.Extracts block := by
  rw [filledFrom?]
  split
  · rename_i isAssignment
    rw [isSome_mapM_iff]
    simp only [isSome_fill?, isAssignment, true_and, Template.Extracts]
  · rename_i other
    simp [other]

/-- Of the arguments that a block fills, those are the filled templates whose placeholders are
apart. -/
theorem filled?_of_filledFrom? (wellFormed : ∀ template ∈ templates, template.WellFormed)
    {arguments : List Text} (found : filledFrom? templates block = some arguments) :
    List.Forall₂ (fun template argument => template.Apart block → template.filled? block = some argument)
      templates arguments := by
  rw [filledFrom?] at found
  split at found
  · have each := mapM_eq_some_iff.mp found
    rw [List.forall₂_iff_zip] at each ⊢
    refine ⟨each.1, fun pair apart => ?_⟩
    have known := wellFormed _ (List.of_mem_zip pair).1
    exact (known.fill?_eq apart).symm.trans (each.2 pair)
  · cases found

/-! ## The blocks below a block -/

/-- The blocks after a block up to the first one with a blank row before it. -/
def adjacentAfter (forest : Forest) (id : BlockId) : List BlockId :=
  match (forest.entry id).place with
  | none => []
  | some place =>
    ((forest.members place.content).drop (place.index + 1)).takeWhile fun other =>
      (forest.block other).blankBefore == 0

theorem walk_adjacent_forward (placed : forest.Placed) (id : BlockId) :
    forest.walk .adjacent .forward id = adjacentAfter forest id := by
  rw [adjacentAfter]
  cases atPlace : (forest.entry id).place with
  | none =>
      rw [Forest.walk]
      cases forest.entries.size with
      | zero => rfl
      | succ fuel =>
          rw [Forest.walkFrom, Forest.step?, Forest.sibling?, atPlace]
  | some place =>
      have atIndex := (placed place.content place.index id).mpr atPlace
      have short := placed.length_members_le place.content
      have linked_eq (before after : Block) :
          Level.adjacent.linked before after = (after.blankBefore == 0) := rfl
      rw [Forest.walk, Forest.walkFrom_forward placed linked_eq atIndex (by omega)]

/-- The blocks that may fill the arguments of a directive at a block. -/
def candidates (forest : Forest) (id : BlockId) (includeTarget : Bool) : List BlockId :=
  (if includeTarget then [id] else []) ++ adjacentAfter forest id

/-- The arguments of a directive with placeholders, one list for each block that fills them all. -/
theorem expand_written (placed : forest.Placed) (id : BlockId) (includeTarget : Bool)
    (wellFormed : ∀ template ∈ templates, template.WellFormed)
    (filled : ∃ template ∈ templates, template.slots ≠ []) :
    expand forest (templates.map Template.written) (some id) includeTarget =
      .ok ((candidates forest id includeTarget).filterMap fun candidate =>
        filledFrom? templates (forest.block candidate)) := by
  have someRead : (templates.map Template.placeholders).all List.isEmpty = false := by
    obtain ⟨template, membership, nonempty⟩ := filled
    rw [List.all_eq_false]
    exact ⟨_, List.mem_map_of_mem membership, by simpa [Template.placeholders] using nonempty⟩
  have candidates_eq : (if includeTarget then id :: forest.walk .adjacent .forward id else
      forest.walk .adjacent .forward id) = candidates forest id includeTarget := by
    rw [walk_adjacent_forward placed, candidates]
    cases includeTarget <;> rfl
  rw [expand, readAll_written wellFormed]
  simp only [bind, Except.bind, someRead, Bool.false_eq_true, if_false, candidates_eq, fillAll?_written]
  rfl

/-- An argument is filled with all texts at once when no placeholder is written in what is filled in
before it; and a directive with placeholders stands for one list of arguments for each assignment,
among its target and the blocks right below, that gives a text for every placeholder, in order. -/
theorem fill_and_expand (placed : forest.Placed) :
    (∀ (template : Template) block text, template.WellFormed → template.Apart block →
      template.filled? block = some text →
      (expressions template.written).mapM read = .ok template.placeholders ∧
        fill? block template.placeholders template.written = some text) ∧
    ∀ (templates : List Template) id includeTarget, (∀ template ∈ templates, template.WellFormed) →
      (∃ template ∈ templates, template.slots ≠ []) →
      ∃ lists, expand forest (templates.map Template.written) (some id) includeTarget = .ok lists ∧
        List.Forall₂ (fun candidate => List.Forall₂ (fun template argument =>
            template.Apart (forest.block candidate) →
              template.filled? (forest.block candidate) = some argument) templates)
          ((candidates forest id includeTarget).filter fun candidate =>
            (forest.block candidate).kind = .assignment ∧
              ∀ template ∈ templates, template.Extracts (forest.block candidate)) lists := by
  constructor
  · intro template block text wellFormed apart filled
    exact ⟨wellFormed.read_eq, (wellFormed.fill?_eq apart).trans filled⟩
  · intro templates id includeTarget wellFormed nonempty
    refine ⟨_, expand_written placed id includeTarget wellFormed nonempty, ?_⟩
    have filled := forall₂_filterMap (fun candidate => filledFrom? templates (forest.block candidate))
      (candidates forest id includeTarget)
    simp only [← isSome_filledFrom?, Bool.decide_eq_true]
    exact filled.imp fun candidate arguments => filled?_of_filledFrom? wellFormed

/-- A comment's template for the assignments below it, up to a blank row. -/
theorem fill_and_expand_below :
    let forest := (Forest.ofText "// @alias\na.b = 1;\nvar c\nd.e = 2;\n\nf.g = 3;\n" 1).1
    let template : Template :=
      ⟨"x.", [⟨⟨"\x7btarget\x7d", .target, none⟩, "="⟩, ⟨⟨"\x7bvalue\x7d", .value, none⟩, ""⟩]⟩
    (forest.Placed ∧ template.WellFormed ∧ template.Apart (forest.block ⟨1⟩) ∧
      template.filled? (forest.block ⟨1⟩) = some "x.a.b=1".toList) ∧
      fill? (forest.block ⟨1⟩) template.placeholders template.written = some "x.a.b=1".toList ∧
      expand forest [template.written] (some ⟨0⟩) false = .ok [["x.a.b=1"], ["x.d.e=2"]] := by
  intro forest template
  have placed : forest.Placed := (Forest.reads_ofText _ 1).placed
  have wellFormed : template.WellFormed := by
    refine ⟨by decide, ?_⟩
    simp only [template, List.forall_mem_cons, List.not_mem_nil, false_implies, implies_true, and_true]
    exact ⟨Slot.wellFormed_target (by decide), Slot.wellFormed_value (by decide)⟩
  have apart : template.Apart (forest.block ⟨1⟩) := wellFormed.apart_of_plain (by decide +kernel)
  have apartBelow : template.Apart (forest.block ⟨3⟩) := wellFormed.apart_of_plain (by decide +kernel)
  have filled : template.filled? (forest.block ⟨1⟩) = some "x.a.b=1".toList := by decide +kernel
  have filledBelow : template.filled? (forest.block ⟨3⟩) = some "x.d.e=2".toList := by decide +kernel
  obtain ⟨fills, expands⟩ := fill_and_expand placed
  obtain ⟨lists, expanded, each⟩ := expands [template] ⟨0⟩ false
    (by simpa using wellFormed) ⟨template, List.mem_singleton_self _, List.cons_ne_nil _ _⟩
  have candidates_eq : ((candidates forest ⟨0⟩ false).filter fun candidate =>
      (forest.block candidate).kind = .assignment ∧
        ∀ given ∈ [template], Template.Extracts given (forest.block candidate)) = [⟨1⟩, ⟨3⟩] := by
    decide +kernel
  rw [candidates_eq] at each
  refine ⟨⟨placed, wellFormed, apart, filled⟩, (fills _ _ _ wellFormed apart filled).2, ?_⟩
  rcases each with _ | ⟨here, _ | ⟨below, _ | _⟩⟩
  rcases here with _ | ⟨given, _ | _⟩
  rcases below with _ | ⟨givenBelow, _ | _⟩
  obtain rfl := Option.some.inj (filled.symm.trans (given apart))
  obtain rfl := Option.some.inj (filledBelow.symm.trans (givenBelow apartBelow))
  exact expanded

/-- A text that is filled in takes the next placeholder when it is written as that. -/
theorem misplaced_of_written :
    let forest := (Forest.ofText "a.b = \"\x7btarget\x7d\";\n" 1).1
    let template : Template :=
      ⟨"", [⟨⟨"\x7bvalue\x7d", .value, none⟩, " "⟩, ⟨⟨"\x7btarget\x7d", .target, none⟩, ""⟩]⟩
    (template.WellFormed ∧ (forest.block ⟨0⟩).kind = .assignment ∧ template.Extracts (forest.block ⟨0⟩) ∧
      template.filled? (forest.block ⟨0⟩) = some "\"\x7btarget\x7d\" a.b".toList) ∧
      fill? (forest.block ⟨0⟩) template.placeholders template.written =
        some "\"a.b\" \x7btarget\x7d".toList ∧
      expand forest [template.written] (some ⟨0⟩) true = .ok [["\"a.b\" \x7btarget\x7d"]] := by
  intro forest template
  have wellFormed : template.WellFormed := by
    refine ⟨by decide, ?_⟩
    simp only [template, List.forall_mem_cons, List.not_mem_nil, false_implies, implies_true, and_true]
    exact ⟨Slot.wellFormed_value (by decide), Slot.wellFormed_target (by decide)⟩
  have extracts : template.Extracts (forest.block ⟨0⟩) := by decide +kernel
  exact ⟨⟨wellFormed, by decide +kernel, extracts, by decide +kernel⟩, by decide +kernel,
    by decide +kernel⟩

end Docweave.Placeholder
