import Docweave.Block.Header
import Docweave.Proofs.Text.Cut

/-!
# What headers read

A recogniser that reads a header returns a suffix of the text.  For the headers
that end in a mark of their own the suffix starts right after that mark: a binding
ends in an equals sign, and a function, class or method in the brace that opens
its body.  So a block of such a kind always holds its mark.
-/

namespace Docweave.Header

open Text

variable {text rest : Text}

/-! ## Parts of headers -/

theorem suffix_of_some? {inClass : Char → Bool} (found : some? inClass text = some rest) :
    rest <:+ text := by
  cases text with
  | nil => simp [some?] at found
  | cons char tail =>
      simp only [some?] at found
      split at found
      · cases found
        exact (List.dropWhile_suffix inClass).trans (List.suffix_cons char tail)
      · cases found

theorem skip_suffix (text : Text) : skip text <:+ text := List.dropWhile_suffix isSeparator

theorem suffix_of_word? {words : List Text} (found : word? words text = some rest) :
    rest <:+ text := by
  obtain ⟨word, _, read⟩ := List.exists_of_findSome?_eq_some found
  exact suffix_of_after? read

theorem suffix_of_spaced? {words : List Text} (found : spaced? words text = some rest) :
    rest <:+ text := by
  simp only [spaced?, Option.bind_eq_bind, Option.bind_eq_some_iff] at found
  obtain ⟨afterWord, readWord, readBlanks⟩ := found
  exact (suffix_of_some? readBlanks).trans (suffix_of_word? readWord)

theorem skipAsync_suffix (text : Text) : skipAsync text <:+ text := by
  rw [skipAsync]
  cases read : spaced? ["async"] text with
  | none => exact List.suffix_refl text
  | some rest => exact suffix_of_spaced? read

theorem skipModifiers_suffix (fuel : Nat) (found : Bool) (text : Text) :
    (skipModifiers fuel found text).2 <:+ text := by
  induction fuel generalizing found text with
  | zero => exact List.suffix_refl text
  | succ fuel ih =>
      simp only [skipModifiers]
      split
      · rename_i rest read
        exact (ih true rest).trans (suffix_of_spaced? read)
      · exact List.suffix_refl text

/-- A mark that is read after separators stands right before what follows. -/
theorem mark_suffix {mark : Char} (found : after? [mark] (skip text) = some rest) :
    mark :: rest <:+ text := by
  rw [after?_eq_some] at found
  have suffix := skip_suffix text
  rwa [found] at suffix

/-! ## Headers with a mark -/

theorem binding?_suffix (found : binding? text = some rest) : '=' :: rest <:+ text := by
  simp only [binding?, Option.bind_eq_bind, Option.bind_eq_some_iff] at found
  obtain ⟨afterWord, readWord, afterName, readName, readMark⟩ := found
  have nameSuffix := (suffix_of_some? readName).trans (suffix_of_spaced? readWord)
  exact (mark_suffix readMark).trans (nameSuffix.trans (skip_suffix text))

theorem parameters?_suffix (found : parameters? text = some rest) : '{' :: rest <:+ text := by
  simp only [parameters?, Option.bind_eq_bind, Option.bind_eq_some_iff] at found
  obtain ⟨inside, readOpen, afterwards, readClose, readBrace⟩ := found
  have openSuffix := (suffix_of_after? readOpen).trans (skip_suffix text)
  have insideSuffix := (suffix_of_after? readClose).trans (List.dropWhile_suffix _)
  exact (mark_suffix readBrace).trans (insideSuffix.trans openSuffix)

theorem function?_suffix (found : function? text = some rest) : '{' :: rest <:+ text := by
  simp only [function?, Option.bind_eq_bind] at found
  split at found
  · rename_i value bound
    obtain ⟨afterName, readWord, readParameters⟩ := Option.bind_eq_some_iff.mp found
    have valueSuffix := (List.suffix_cons '=' value).trans (binding?_suffix bound)
    have asyncSuffix := (skipAsync_suffix (skip value)).trans (skip_suffix value)
    have nameSuffix := (suffix_of_after? readWord).trans (asyncSuffix.trans valueSuffix)
    exact (parameters?_suffix readParameters).trans nameSuffix
  · simp only [Option.bind_eq_some_iff] at found
    obtain ⟨afterWord, readWord, afterName, readName, readParameters⟩ := found
    have asyncSuffix := (skipAsync_suffix (skip text)).trans (skip_suffix text)
    have wordSuffix := (suffix_of_spaced? readWord).trans asyncSuffix
    exact (parameters?_suffix readParameters).trans ((suffix_of_some? readName).trans wordSuffix)

theorem class?_suffix (found : class? text = some rest) : '{' :: rest <:+ text := by
  simp only [class?, Option.bind_eq_bind, Option.bind_eq_some_iff] at found
  obtain ⟨afterWord, readWord, afterName, readName, readBrace⟩ := found
  have nameSuffix : afterName <:+ text :=
    (suffix_of_some? readName).trans ((suffix_of_spaced? readWord).trans (skip_suffix text))
  simp only [Option.orElse_eq_orElse, Option.orElse_eq_or, Option.or_eq_some_iff,
    Option.bind_eq_some_iff] at readBrace
  rcases readBrace with extending | ⟨_, plain⟩
  · obtain ⟨afterBlanks, readBlanks, afterExtends, readExtends, afterBase, readBase, readBrace⟩ :=
      extending
    have baseSuffix := (suffix_of_some? readBase).trans (suffix_of_spaced? readExtends)
    have blankSuffix := (suffix_of_some? readBlanks).trans nameSuffix
    exact (mark_suffix readBrace).trans (baseSuffix.trans blankSuffix)
  · exact (mark_suffix plain).trans nameSuffix

theorem method?_suffix (found : method? text = some rest) : '{' :: rest <:+ text := by
  simp only [method?] at found
  split at found
  · cases found
  · have modifierSuffix := skipModifiers_suffix (skip text).length false (skip text)
    have startSuffix := modifierSuffix.trans (skip_suffix text)
    split at found
    · rename_i afterName readName
      have nameSuffix := (suffix_of_some? readName).trans startSuffix
      exact (parameters?_suffix found).trans nameSuffix
    · split at found
      · exact (parameters?_suffix found).trans startSuffix
      · cases found

/-! ## Marks of statements -/

theorem equals_mem_of_variableStart? (found : (variableStart? text).isSome) : '=' ∈ text := by
  obtain ⟨rest, found⟩ := Option.isSome_iff_exists.mp found
  simp only [variableStart?, Option.bind_eq_bind, Option.bind_eq_some_iff] at found
  obtain ⟨value, bound, _⟩ := found
  exact (binding?_suffix bound).mem (List.mem_cons_self ..)

theorem equals_mem_of_assignment? (found : (assignment? text).isSome) : '=' ∈ text := by
  obtain ⟨rest, found⟩ := Option.isSome_iff_exists.mp found
  simp only [assignment?, Option.bind_eq_bind, Option.bind_eq_some_iff] at found
  obtain ⟨afterTarget, readTarget, value, readMark, _⟩ := found
  have targetSuffix := (suffix_of_some? readTarget).trans (skip_suffix text)
  exact ((mark_suffix readMark).trans targetSuffix).mem (List.mem_cons_self ..)

end Docweave.Header
