import Mathlib.Data.List.TakeWhile
import Docweave.Block.Basic
import Docweave.Proofs.Block.Classified
import Docweave.Proofs.Block.ImportHeader

/-!
# Imports and the blocks they are in

The header of an import may go over several rows, and its block is the first of them.  So the block
holds the statement when the statement is on one row.  The path is the first quoted text of the block,
in which runs of blanks are squeezed: it is lost when the statement goes on before its first quoted
text is closed.
-/

namespace Docweave

open Text

namespace ImportInfo

variable {text rest more : Text} {char : Char}

/-! ## The first quoted text -/

/-- The text holds a quote. -/
def HasQuote (text : Text) : Prop := ∃ char ∈ text, Header.isPathQuote char = true

instance (text : Text) : Decidable (HasQuote text) :=
  inferInstanceAs (Decidable (∃ char ∈ text, Header.isPathQuote char = true))

theorem hasQuote_cons :
    HasQuote (char :: rest) ↔ Header.isPathQuote char = true ∨ HasQuote rest := by
  simp [HasQuote]

theorem hasQuote_append : HasQuote (text ++ more) ↔ HasQuote text ∨ HasQuote more := by
  simp [HasQuote, or_and_right, exists_or]

theorem isPathQuote_of_isBlank (blank : isBlank char = true) : Header.isPathQuote char = false := by
  simp only [isBlank, Bool.or_eq_true, beq_iff_eq] at blank
  rcases blank with rfl | rfl <;> rfl

theorem not_hasQuote_of_blank (blank : ∀ char ∈ text, isBlank char = true) : ¬ HasQuote text := by
  rintro ⟨char, membership, quote⟩
  rw [isPathQuote_of_isBlank (blank char membership)] at quote
  cases quote

/-- The text before the first quote. -/
def beforeQuote (text : Text) : Text := text.takeWhile fun char => !Header.isPathQuote char

theorem beforeQuote_eq_self_iff : beforeQuote text = text ↔ ¬ HasQuote text := by
  rw [beforeQuote, List.takeWhile_eq_self_iff]
  simp [HasQuote]

theorem length_beforeQuote_lt_iff : (beforeQuote text).length < text.length ↔ HasQuote text := by
  have isPrefix : beforeQuote text <+: text := List.takeWhile_prefix _
  rw [← not_iff_not, ← beforeQuote_eq_self_iff]
  constructor
  · intro same
    exact isPrefix.eq_of_length_le (Nat.le_of_not_lt same)
  · intro same
    rw [same]
    exact Nat.lt_irrefl _

theorem beforeQuote_append (hasQuote : HasQuote text) :
    beforeQuote (text ++ more) = beforeQuote text := by
  have shorter := length_beforeQuote_lt_iff.mpr hasQuote
  rw [beforeQuote] at shorter ⊢
  rw [List.takeWhile_append, if_neg (Nat.ne_of_lt shorter), beforeQuote]

/-- A quote starts the first quoted text, unless nothing is quoted by it. -/
theorem firstQuoted_cons :
    firstQuoted (char :: rest) =
      if Header.isPathQuote char = true ∧ beforeQuote rest ≠ [] ∧ HasQuote rest then beforeQuote rest
      else firstQuoted rest := by
  rw [firstQuoted]
  simp only [← length_beforeQuote_lt_iff, beforeQuote, Bool.and_eq_true, Bool.not_eq_true',
    List.isEmpty_eq_false_iff, decide_eq_true_eq, and_assoc]

theorem firstQuoted_of_not (noQuote : ¬ HasQuote text) : firstQuoted text = [] := by
  induction text with
  | nil => rfl
  | cons char rest ih =>
      rw [hasQuote_cons, not_or] at noQuote
      rw [firstQuoted_cons, if_neg fun starts => noQuote.1 starts.1]
      exact ih noQuote.2

/-- What comes after the first quoted text does not matter. -/
theorem firstQuoted_append (quoted : firstQuoted text ≠ []) :
    firstQuoted (text ++ more) = firstQuoted text := by
  induction text with
  | nil => exact absurd rfl quoted
  | cons char rest ih =>
      rw [firstQuoted_cons] at quoted
      rw [List.cons_append, firstQuoted_cons, firstQuoted_cons]
      by_cases hasQuote : HasQuote rest
      · rw [beforeQuote_append hasQuote]
        split at quoted
        · rename_i starts
          rw [if_pos starts, if_pos ⟨starts.1, starts.2.1, hasQuote_append.mpr (.inl hasQuote)⟩]
        · rename_i fails
          rw [if_neg fails, if_neg fun starts => fails ⟨starts.1, starts.2.1, hasQuote⟩]
          exact ih quoted
      · rw [if_neg fun starts => hasQuote starts.2.2, firstQuoted_of_not hasQuote] at quoted
        exact absurd rfl quoted

/-- What holds no quote closes no quoted text. -/
theorem firstQuoted_append_of_not (noQuote : ¬ HasQuote more) :
    firstQuoted (text ++ more) = firstQuoted text := by
  induction text with
  | nil => exact firstQuoted_of_not noQuote
  | cons char rest ih =>
      have hasQuote_iff : HasQuote (rest ++ more) ↔ HasQuote rest := by
        rw [hasQuote_append, or_iff_left noQuote]
      rw [List.cons_append, firstQuoted_cons, firstQuoted_cons, ih]
      simp only [hasQuote_iff]
      by_cases hasQuote : HasQuote rest
      · rw [beforeQuote_append hasQuote]
      · simp only [hasQuote, and_false, if_false]

theorem firstQuoted_append_left (noQuote : ¬ HasQuote text) :
    firstQuoted (text ++ more) = firstQuoted more := by
  induction text with
  | nil => rfl
  | cons char rest ih =>
      rw [hasQuote_cons, not_or] at noQuote
      rw [List.cons_append, firstQuoted_cons, if_neg fun starts => noQuote.1 starts.1]
      exact ih noQuote.2

/-! ## Blanks -/

theorem firstQuoted_cons_of_blank (blank : isBlank char = true) :
    firstQuoted (char :: rest) = firstQuoted rest := by
  rw [firstQuoted_cons, isPathQuote_of_isBlank blank, if_neg fun starts => Bool.noConfusion starts.1]

theorem hasQuote_squeeze (afterBlank : Bool) (text : Text) :
    HasQuote (squeeze afterBlank text) ↔ HasQuote text := by
  induction text generalizing afterBlank with
  | nil => rfl
  | cons char rest ih =>
      rw [squeeze, hasQuote_cons]
      split
      · rename_i blank
        rw [isPathQuote_of_isBlank blank]
        split
        · simp [ih]
        · simp [hasQuote_cons, ih, show Header.isPathQuote ' ' = false from rfl]
      · rw [hasQuote_cons, ih]

theorem beforeQuote_squeeze (afterBlank : Bool) (text : Text) :
    beforeQuote (squeeze afterBlank text) = squeeze afterBlank (beforeQuote text) := by
  induction text generalizing afterBlank with
  | nil => rfl
  | cons char rest ih =>
      by_cases blank : isBlank char = true
      · have noQuote := isPathQuote_of_isBlank blank
        have noSpaceQuote : Header.isPathQuote ' ' = false := rfl
        simp only [beforeQuote] at ih
        cases afterBlank with
        | true => simp [beforeQuote, squeeze, blank, noQuote, ih]
        | false => simp [beforeQuote, squeeze, blank, noQuote, noSpaceQuote, ih]
      · simp only [beforeQuote] at ih
        by_cases quote : Header.isPathQuote char = true
        · simp [beforeQuote, squeeze, blank, quote]
        · simp [beforeQuote, squeeze, blank, quote, ih]

theorem squeeze_eq_nil_iff : squeeze false text = [] ↔ text = [] := by
  cases text with
  | nil => simp [squeeze]
  | cons char rest =>
      rw [squeeze]
      split <;> simp

theorem firstQuoted_squeeze (afterBlank : Bool) (text : Text) :
    firstQuoted (squeeze afterBlank text) = squeeze false (firstQuoted text) := by
  induction text generalizing afterBlank with
  | nil => rfl
  | cons char rest ih =>
      rw [squeeze]
      split
      · rename_i blank
        rw [firstQuoted_cons_of_blank blank]
        split
        · exact ih true
        · rw [firstQuoted_cons_of_blank rfl]
          exact ih true
      · simp only [firstQuoted_cons, beforeQuote_squeeze, hasQuote_squeeze, ne_eq, squeeze_eq_nil_iff,
          ih]
        split <;> rfl

theorem firstQuoted_trim (text : Text) : firstQuoted (trim text) = firstQuoted text := by
  obtain ⟨tail, split, blank⟩ := eq_dropTrailing_append isBlank (text.dropWhile isBlank)
  rw [trim, stripOf, ← firstQuoted_append_of_not (not_hasQuote_of_blank blank), ← split,
    ← firstQuoted_append_left (not_hasQuote_of_blank fun _ => mem_takeWhile_inClass),
    List.takeWhile_append_dropWhile]

theorem replaceChar_of_not_mem {old new : Char} (absent : old ∉ text) : replaceChar old new text = text := by
  have each : ∀ char ∈ text, (if char = old then new else char) = char := by
    intro char membership
    apply if_neg
    rintro rfl
    exact absent membership
  rw [replaceChar, List.map_congr_left each, List.map_id']

/-- The path of an import on one row is its first quoted text, with runs of blanks squeezed. -/
theorem path_read (oneRow : '\n' ∉ text) : (read text).path = squeeze false (firstQuoted text) := by
  have path_eq : (read text).path = firstQuoted (clean (replaceChar '\n' ' ' text)) := by
    rw [read]
    dsimp only
    split <;> rfl
  rw [path_eq, replaceChar_of_not_mem oneRow, clean, firstQuoted_trim, firstQuoted_squeeze]

end ImportInfo

/-! ## The first row -/

namespace Extent

variable {text front : Text}

theorem take_line (text : Text) : text.take (line text) = text.takeWhile (· ≠ '\n') :=
  (List.prefix_iff_eq_take.mp (List.takeWhile_prefix _)).symm

theorem newline_not_mem_take_line (text : Text) : '\n' ∉ text.take (line text) := by
  rw [take_line]
  intro membership
  simpa using mem_takeWhile_inClass membership

/-- What starts the text is on its first row when it holds no newline. -/
theorem length_le_line_iff (isPrefix : front <+: text) : front.length ≤ line text ↔ '\n' ∉ front := by
  constructor
  · intro onRow membership
    have inRow : front <+: text.take (line text) := List.prefix_take_iff.mpr ⟨isPrefix, onRow⟩
    exact newline_not_mem_take_line text (inRow.subset membership)
  · intro oneRow
    obtain ⟨rest, rfl⟩ := isPrefix
    have inside : ∀ char ∈ front, decide (char ≠ '\n') = true := by
      intro char membership
      rw [decide_eq_true_eq]
      rintro rfl
      exact oneRow membership
    rw [line, List.takeWhile_append_of_pos inside, List.length_append]
    exact Nat.le_add_right _ _

end Extent

/-! ## Blocks of imports -/

open Header ImportInfo

/-- What is taken for an import starts with the longest match of one of the two headers. -/
theorem exists_statement {text : Text} (found : (classify text).kind = .moduleImport) :
    (classify text).length = Extent.line text ∧ ∃ statement,
      LongestMatch RequireStatement text statement ∨ LongestMatch ImportStatement text statement := by
  have nonempty : text ≠ [] := by
    rintro rfl
    cases found
  rcases classify_cases nonempty with ⟨recognised, -⟩ | unknown
  · generalize classify text = result at found recognised
    cases recognised with
    | moduleImport isImport =>
        refine ⟨rfl, ?_⟩
        rcases isImport with requires | imports
        · obtain ⟨rest, requires⟩ := Option.isSome_iff_exists.mp requires
          obtain ⟨statement, -, longest⟩ := readsLongest_require?.longestMatch requires
          exact ⟨statement, .inl longest⟩
        · obtain ⟨rest, imports⟩ := Option.isSome_iff_exists.mp imports
          obtain ⟨statement, -, longest⟩ := readsLongest_import?.longestMatch imports
          exact ⟨statement, .inr longest⟩
    | _ => cases found
  · rw [unknown] at found
    cases found

/-- The block of an import is the first row of the text.  It holds the whole statement exactly when
that is on one row, and then the path is the first quoted text of the statement, runs of blanks apart;
when the statement goes on, the path may be lost, but no other is read in its place. -/
theorem length_and_path_of_moduleImport (text : Text) (found : (classify text).kind = .moduleImport) :
    let block := text.take (classify text).length
    ∃ statement,
      (LongestMatch RequireStatement text statement ∨ LongestMatch ImportStatement text statement) ∧
      (classify text).length = Extent.line text ∧
      (statement.length ≤ (classify text).length ↔ '\n' ∉ statement) ∧
      (ImportInfo.read block).path = squeeze false (firstQuoted block) ∧
      ('\n' ∉ statement → firstQuoted statement ≠ [] → firstQuoted block = firstQuoted statement) ∧
      ('\n' ∈ statement → firstQuoted block ≠ [] → firstQuoted block = firstQuoted statement) := by
  intro block
  obtain ⟨length_eq, statement, longest⟩ := exists_statement found
  have isPrefix : statement <+: text := longest.elim LongestMatch.isPrefix LongestMatch.isPrefix
  have block_eq : block = text.take (Extent.line text) := congrArg text.take length_eq
  have whole := Extent.length_le_line_iff isPrefix
  refine ⟨statement, longest, length_eq, by rwa [length_eq], ?_, ?_, ?_⟩
  · apply path_read
    rw [block_eq]
    exact Extent.newline_not_mem_take_line text
  · intro oneRow quoted
    obtain ⟨more, split⟩ := List.prefix_take_iff.mpr ⟨isPrefix, whole.mpr oneRow⟩
    rw [block_eq, ← split]
    exact firstQuoted_append quoted
  · intro goesOn quoted
    have shorter : block.length ≤ statement.length := by
      rw [block_eq, List.length_take]
      have longer := mt whole.mp (not_not.mpr goesOn)
      omega
    obtain ⟨more, split⟩ := List.prefix_of_prefix_length_le (List.take_prefix _ text) isPrefix shorter
    rw [← split]
    exact (firstQuoted_append quoted).symm

/-- An import on one row, with a quoted text after it. -/
theorem length_and_path_of_moduleImport_row :
    let text : Text := "import \x7b a, b \x7d from './x' // 'y'\n'z'"
    let block := text.take (classify text).length
    (classify text).kind = .moduleImport ∧ (classify text).length = 33 ∧
      (ImportInfo.read block).path = "./x".toList := by
  intro text block
  have found : (classify text).kind = .moduleImport := by decide +kernel
  obtain ⟨statement, -, length_eq, -, path_eq, -⟩ := length_and_path_of_moduleImport text found
  exact ⟨found, length_eq.trans (by decide +kernel), path_eq.trans (by decide +kernel)⟩

/-- An import with its names on a row of their own is cut after the first row, and its path is lost. -/
theorem path_lost_of_moduleImport :
    let text : Text := "import \x7b\n  a\n\x7d from './x'\n"
    let statement := text.dropLast
    let block := text.take (classify text).length
    (classify text).kind = .moduleImport ∧ LongestMatch ImportStatement text statement ∧
      (classify text).length < statement.length ∧ firstQuoted statement = "./x".toList ∧
      (ImportInfo.read block).path = [] := by
  intro text statement block
  have read : import? text = some ['\n'] := by decide +kernel
  obtain ⟨front, split, longest⟩ := readsLongest_import?.longestMatch read
  have front_eq : front = statement :=
    List.append_cancel_right (split.symm.trans (by decide : text = statement ++ ['\n']))
  rw [front_eq] at longest
  exact ⟨by decide +kernel, longest, by decide +kernel, by decide +kernel, by decide +kernel⟩

end Docweave
