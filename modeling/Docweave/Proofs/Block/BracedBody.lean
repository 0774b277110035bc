import Docweave.Proofs.Block.AssignedBody

/-!
# Constructs in braces taken apart

A construct in braces is what stands before its first brace, the body between that brace and the
matching one, and the semicolons right after it.  Its extent is measured by counting braces and its
body by cutting off what closes it at the end, and the two agree on every body, whatever that ends
with.
-/

namespace Docweave

open Text Extent

variable {before inner after opened : Text}

theorem afterBody?_of_enclosed (enclosed : Enclosed inner) (after : Text) :
    afterBody? 1 (inner ++ '}' :: after) = some after :=
  (afterBody?_eq_some Nat.one_pos).mpr ⟨inner, rfl, enclosed.staysOpen, by rw [enclosed.count_eq]⟩

/-- The extent reaches past the matching brace and the semicolons right after it. -/
theorem braced_of_enclosed (fresh : '{' ∉ before) (enclosed : Enclosed inner) (after : Text) :
    braced (before ++ '{' :: (inner ++ '}' :: after)) =
      (before ++ '{' :: (inner ++ ['}'])).length + (after.takeWhile (· = ';')).length := by
  have semicolons := congrArg List.length
    (List.takeWhile_append_dropWhile (p := fun char => decide (char = ';')) (l := after))
  rw [List.length_append] at semicolons
  rw [braced_eq fresh, afterBody?_of_enclosed enclosed]
  simp only [List.length_append, List.length_cons, List.length_nil]
  omega

theorem take_braced_of_enclosed (fresh : '{' ∉ before) (enclosed : Enclosed inner) (after : Text) :
    (before ++ '{' :: (inner ++ '}' :: after)).take
        (braced (before ++ '{' :: (inner ++ '}' :: after))) =
      before ++ '{' :: (inner ++ '}' :: after.takeWhile (· = ';')) := by
  have split : before ++ '{' :: (inner ++ '}' :: after) =
      (before ++ '{' :: (inner ++ ['}'])) ++ after := by simp
  rw [braced_of_enclosed fresh enclosed, split, List.take_length_add_append,
    ← List.prefix_iff_eq_take.mp (List.takeWhile_prefix _)]
  simp

/-- Semicolons right after a brace close a body with it. -/
theorem Body.closing_semicolons (after : Text) : Closing (after.takeWhile (· = ';')) := by
  have semicolons : ∀ char ∈ after.takeWhile (· = ';'), char = ';' := fun char membership => by
    simpa using mem_takeWhile_inClass membership
  simpa using Closing.intro (List.forall_mem_nil _) semicolons (List.forall_mem_nil _)

theorem Body.dropClosing_of_closing (closing : Closing after) :
    dropClosing (inner ++ '}' :: after) = dropTrailing isBlank inner := by
  rcases dropClosing_of_brace inner after with ⟨-, kept⟩ | ⟨goesOn, -⟩
  · exact kept
  · exact absurd closing goesOn

/-- A brace that is not matched is told by the scan. -/
theorem exists_enclosed_iff :
    (∃ inner after, opened = inner ++ '}' :: after ∧ Enclosed inner) ↔ afterBody? 1 opened ≠ none := by
  constructor
  · rintro ⟨inner, after, rfl, enclosed⟩
    rw [afterBody?_of_enclosed enclosed]
    exact Option.some_ne_none after
  · intro matched
    obtain ⟨rest, found⟩ := Option.ne_none_iff_exists'.mp matched
    obtain ⟨inner, split, staysOpen, count_eq⟩ := (afterBody?_eq_some Nat.one_pos).mp found
    exact ⟨inner, rest, split, staysOpen, Nat.add_right_cancel count_eq⟩

/-- A construct whose first brace is matched ends after the matching brace and the semicolons right
after that, and the body that is read from it is the text between the two braces, without the blanks at
its end and without its shared indentation.  If nothing matches the first brace, the construct is the
whole text. -/
theorem length_and_body_of_braced (fresh : '{' ∉ before) (opened : Text) :
    let text := before ++ '{' :: opened
    let raw := text.take (braced text)
    (∀ inner after, opened = inner ++ '}' :: after → Enclosed inner →
      braced text = (before ++ '{' :: (inner ++ ['}'])).length + (after.takeWhile (· = ';')).length ∧
        ∀ row, Body.read raw (findChar? '{' raw) row =
          ⟨deindent (dropTrailing isBlank inner), row + before.count '\n'⟩) ∧
      ((¬ ∃ inner after, opened = inner ++ '}' :: after ∧ Enclosed inner) → braced text = text.length) := by
  intro text raw
  constructor
  · rintro inner after rfl enclosed
    have raw_eq : raw = before ++ '{' :: (inner ++ '}' :: after.takeWhile (· = ';')) :=
      take_braced_of_enclosed fresh enclosed after
    have brace : findChar? '{' raw = some before.length :=
      findChar?_eq_some.mpr ⟨before, _, raw_eq, fresh, rfl⟩
    refine ⟨braced_of_enclosed fresh enclosed after, fun row => ?_⟩
    rw [brace, raw_eq, Body.read_eq, Body.dropClosing_of_closing (Body.closing_semicolons after)]
  · intro unmatched
    have scanned : afterBody? 1 opened = none :=
      Classical.byContradiction fun matched => unmatched (exists_enclosed_iff.mpr matched)
    rw [braced_eq fresh, scanned]

/-- A body that ends with braces and blanks, and a brace that is not matched. -/
theorem length_and_body_of_braced_class :
    let inner : Text := "\n\tf() \x7b\x7d\n\t \x7b\x7d \t"
    let text : Text := "class A " ++ '{' :: (inner ++ '}' :: ";; ;")
    let unclosed : Text := "class A " ++ '{' :: "f() \x7b\x7d;"
    ('{' ∉ "class A ".toList ∧ Enclosed inner ∧ afterBody? 1 "f() \x7b\x7d;" = none) ∧
      braced text = text.length - 2 ∧
      Body.read (text.take (braced text)) (findChar? '{' (text.take (braced text))) 3 =
        ⟨"\nf() \x7b\x7d\n \x7b\x7d".toList, 3⟩ ∧
      braced unclosed = unclosed.length := by
  intro inner text unclosed
  have fresh : '{' ∉ "class A ".toList := by decide
  have enclosed : Enclosed inner := by decide +kernel
  have unmatched : afterBody? 1 "f() \x7b\x7d;" = none := by decide
  obtain ⟨length_eq, body_eq⟩ := (length_and_body_of_braced fresh _).1 inner ";; ;" rfl enclosed
  have whole := (length_and_body_of_braced fresh "f() \x7b\x7d;").2
    (mt exists_enclosed_iff.mp (not_not_intro unmatched))
  refine ⟨⟨fresh, enclosed, unmatched⟩, ?_, ?_, whole⟩
  · exact length_eq.trans (by decide)
  · exact (body_eq 3).trans (by decide +kernel)

end Docweave
