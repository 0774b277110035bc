import Mathlib.Data.List.SplitBy
import Docweave.Proofs.Text.Cut
import Docweave.Proofs.Value.Json
import Docweave.Text.Utf8
import Docweave.Yaml.Write

/-!
# What is written as YAML

A YAML text holds nothing but newlines and printable ASCII characters.  The marks, the digits and the
names that are written are such, and so is a text unless it is put in double quotes, where every other
character is escaped.  Written to a file and read again, a YAML text is the same.
-/

namespace Docweave.Yaml

variable {text front back : Text} {pen : Pen} {value : Value}

/-! ## Printable texts -/

/-- A text of newlines and printable ASCII characters. -/
def Printable (text : Text) : Prop := ∀ char ∈ text, Style.needsEscape char = false

instance (text : Text) : Decidable (Printable text) := List.decidableBAll _ text

@[simp] theorem printable_nil : Printable [] := List.forall_mem_nil _

@[simp] theorem printable_cons {char : Char} :
    Printable (char :: text) ↔ Style.needsEscape char = false ∧ Printable text := List.forall_mem_cons

@[simp] theorem printable_append : Printable (front ++ back) ↔ Printable front ∧ Printable back :=
  List.forall_mem_append

theorem Printable.of_subset (printable : Printable text) (subset : front ⊆ text) : Printable front :=
  fun char membership => printable char (subset membership)

theorem printable_replicate {char : Char} (plain : Style.needsEscape char = false) (count : Nat) :
    Printable (List.replicate count char) := by
  intro other membership
  rw [List.eq_of_mem_replicate membership]
  exact plain

theorem printable_replaceFirst {old new : Text} (text_ : Printable text) (new_ : Printable new) :
    Printable (Text.replaceFirst old new text) := by
  rw [Text.replaceFirst]
  split
  · exact text_
  · rw [printable_append, printable_append]
    exact ⟨⟨text_.of_subset (List.take_subset _ _), new_⟩, text_.of_subset (List.drop_subset _ _)⟩

/-! ## Digits and numbers -/

theorem exists_of_mem_toDigits {base : Nat} (large : 1 < base) (number : Nat) :
    ∀ char ∈ Nat.toDigits base number, ∃ digit < base, char = Nat.digitChar digit := by
  induction number using Nat.strongRecOn with
  | ind number ih =>
      intro char membership
      by_cases single : number < base
      · rw [Nat.toDigits_of_lt_base single, List.mem_singleton] at membership
        exact ⟨number, single, membership⟩
      · have notSmall := Nat.le_of_not_lt single
        rw [Nat.toDigits_of_base_le large notSmall, List.mem_append, List.mem_singleton] at membership
        rcases membership with before | last
        · have shorter : number / base < number := Nat.div_lt_self (by omega) large
          exact ih (number / base) shorter char before
        · exact ⟨number % base, Nat.mod_lt number (by omega), last⟩

theorem printable_ofNat (number : Nat) : Printable (Text.ofNat number) := by
  intro char membership
  obtain ⟨digit, small, rfl⟩ := exists_of_mem_toDigits (by decide) number char membership
  have each : ∀ digit < 10, Style.needsEscape (Nat.digitChar digit) = false := by decide
  exact each digit small

theorem printable_ofInt (number : Int) : Printable (Text.ofInt number) := by
  cases number with
  | ofNat number => exact printable_ofNat number
  | negSucc number => exact printable_cons.mpr ⟨by decide, printable_ofNat _⟩

theorem printable_hexText (width number : Nat) : Printable (Style.hexText width number) := by
  rw [Style.hexText, printable_append]
  constructor
  · exact printable_replicate (by decide) _
  · intro char membership
    obtain ⟨old, oldMember, rfl⟩ := List.mem_map.mp membership
    obtain ⟨digit, small, rfl⟩ := exists_of_mem_toDigits (by decide) number old oldMember
    have each : ∀ digit < 16, Style.needsEscape (Nat.digitChar digit).toUpper = false := by decide
    exact each digit small

theorem printable_layout {digits : Text} (printable : Printable digits) (power : Int) :
    Printable (Double.layout digits power) := by
  have zeros : ∀ count, Printable (List.replicate count '0') := printable_replicate (by decide)
  have point : Style.needsEscape '.' = false := by decide
  have words : Printable "0." ∧ Printable ".0" ∧ Printable "e-" ∧ Printable "e+" := by decide
  obtain ⟨zeroPoint, pointZero, minus, plus⟩ := words
  simp only [Double.layout]
  split
  · split
    · simp only [printable_append]
      exact ⟨⟨zeroPoint, zeros _⟩, printable⟩
    · split
      · simp only [printable_append]
        exact ⟨⟨printable, zeros _⟩, pointZero⟩
      · rw [printable_append, printable_cons]
        exact ⟨printable.of_subset (List.take_subset _ _), point, printable.of_subset (List.drop_subset _ _)⟩
  · simp only [printable_append]
    refine ⟨⟨⟨?_, ?_⟩, zeros _⟩, printable_ofNat _⟩
    · split
      · exact printable_nil
      · exact printable
      · rw [printable_cons] at printable
        exact printable_cons.mpr ⟨printable.1, printable_cons.mpr ⟨point, printable.2⟩⟩
    · split
      · exact minus
      · exact plus

theorem printable_render (number : Double) : Printable number.render := by
  cases number with
  | notANumber => decide
  | infinite negative => cases negative <;> decide
  | finite negative mantissa exponent =>
      have sign : Printable (if negative then ['-'] else []) := by cases negative <;> decide
      simp only [Double.render]
      split
      · exact printable_append.mpr ⟨sign, by decide⟩
      · refine printable_append.mpr ⟨sign, printable_layout ?_ _⟩
        apply (printable_ofNat _).of_subset
        exact (Text.dropTrailing_isPrefix _ _).subset

theorem printable_decimalText (number : Double) : Printable (decimalText number) := by
  cases number with
  | notANumber => decide
  | infinite negative => cases negative <;> decide
  | finite negative mantissa exponent =>
      have render := printable_render (.finite negative mantissa exponent)
      simp only [decimalText]
      split
      · exact render
      · exact printable_replaceFirst render (by decide)

theorem printable_escape (char : Char) : Printable (Style.escape char) := by
  have marks : Printable ['\\', 'x', 'u', 'U'] := by decide
  simp only [printable_cons, printable_nil, and_true] at marks
  rw [Style.escape]
  split
  · rename_i short found
    have each : ∀ entry ∈ Style.shortEscapes, Style.needsEscape entry.2 = false := by decide
    obtain ⟨front, back, split, -⟩ := List.lookup_eq_some_iff.mp found
    have plain := each (char, short) (by simp [split])
    simp [marks, plain]
  · dsimp only
    split
    · simp [marks, printable_hexText]
    · split <;> simp [marks, printable_hexText]

/-! ## Pens -/

namespace Pen

theorem printable_put (printable : Printable pen.written) (more : Printable text) :
    Printable (pen.put text).written := printable_append.mpr ⟨printable, more⟩

theorem printable_newline (printable : Printable pen.written) : Printable pen.newline.written :=
  printable_append.mpr ⟨printable, by decide⟩

theorem printable_mark (printable : Printable pen.written) (more : Printable text) (spaced keepsIndent : Bool) :
    Printable (pen.mark text spaced keepsIndent).written := by
  apply printable_put printable
  split
  · exact more
  · exact printable_cons.mpr ⟨by decide, more⟩

theorem printable_indent (printable : Printable pen.written) (column : Nat) :
    Printable (pen.indent column).written := by
  have spaces : ∀ count, Printable (List.replicate count ' ') := printable_replicate (by decide)
  have line := printable_newline printable
  simp only [indent]
  split
  · split
    · exact printable_put line (spaces _)
    · exact line
  · split
    · exact printable_put printable (spaces _)
    · exact printable

/-- Many lines are ended. -/
theorem printable_newlines (printable : Printable pen.written) (lines : List Unit) :
    Printable (lines.foldl (fun pen _ => pen.newline) pen).written := by
  induction lines generalizing pen with
  | nil => exact printable
  | cons line lines ih => exact ih (printable_newline printable)

end Pen

/-! ## Texts -/

theorem printable_of_mem_runs (printable : Printable text) : ∀ run ∈ runs text, Printable run := by
  intro run membership char charMember
  apply printable
  rw [← List.flatten_splitBy (fun left right => RunKind.ofChar left == RunKind.ofChar right) text]
  exact List.mem_flatten.mpr ⟨run, membership, charMember⟩

theorem printable_plainRuns (column : Nat) (folds : Bool) {runs : List Text}
    (printable : Printable pen.written) (each : ∀ run ∈ runs, Printable run) :
    Printable (plainRuns column folds runs pen).written := by
  induction runs generalizing pen with
  | nil => exact printable
  | cons run runs ih =>
      obtain ⟨first, others⟩ := List.forall_mem_cons.mp each
      rw [plainRuns]
      split
      · exact ih (Pen.printable_indent printable column) others
      · exact ih (Pen.printable_put printable first) others

theorem printable_writePlain (column : Nat) (folds : Bool) (printable : Printable pen.written)
    (more : Printable text) : Printable (writePlain column folds text pen).written := by
  rw [writePlain]
  split
  · exact printable
  · refine printable_plainRuns column folds ?_ (printable_of_mem_runs more)
    split
    · exact printable
    · exact Pen.printable_put printable (by decide)

theorem printable_doubleQuotes (printable : Printable text) : Printable (doubleQuotes text) := by
  intro char membership
  obtain ⟨old, oldMember, charMember⟩ := List.mem_flatMap.mp membership
  split at charMember
  · exact (show Printable ['\'', '\''] by decide) char charMember
  · rw [List.mem_singleton] at charMember
    rw [charMember]
    exact printable old oldMember

theorem printable_singleRuns (column : Nat) (folds first : Bool) {runs : List Text}
    (printable : Printable pen.written) (each : ∀ run ∈ runs, Printable run) :
    Printable (singleRuns column folds first runs pen).written := by
  induction runs generalizing pen first with
  | nil => exact printable
  | cons run runs ih =>
      obtain ⟨run_, others⟩ := List.forall_mem_cons.mp each
      rw [singleRuns]
      split
      · exact ih _ (Pen.printable_put printable (printable_doubleQuotes run_)) others
      · exact ih _ (Pen.printable_indent (Pen.printable_newlines printable _) column) others
      · split
        · exact ih _ (Pen.printable_indent printable column) others
        · exact ih _ (Pen.printable_put printable run_) others

theorem printable_writeSingle (column : Nat) (folds : Bool) (printable : Printable pen.written)
    (more : Printable text) : Printable (writeSingle column folds text pen).written := by
  have quote : Printable ['\''] := by decide
  have opened := Pen.printable_mark printable quote true false
  have inside := printable_singleRuns column folds true opened (printable_of_mem_runs more)
  exact Pen.printable_mark inside quote false false

theorem needsEscape_of_not_isEscaped {char : Char} (plain : Style.isEscaped char = false) :
    Style.needsEscape char = false := by
  simp only [Style.isEscaped, Bool.or_eq_false_iff] at plain
  exact plain.1.1.1

/-- In double quotes all that is not printable is escaped. -/
theorem printable_doubleFrom (column : Nat) (folds first : Bool) {pending : Text}
    (printable : Printable pen.written) (waits : Printable pending) (text : Text) :
    Printable (doubleFrom column folds first pending text pen).written := by
  have slash : Printable ['\\'] := by decide
  induction text generalizing pen first pending with
  | nil => exact Pen.printable_put printable waits
  | cons char rest ih =>
      cases escaped : Style.isEscaped char with
      | true =>
          have put := Pen.printable_put (Pen.printable_put printable waits) (printable_escape char)
          simp only [doubleFrom, escaped, if_true]
          split
          · have folded := Pen.printable_indent (Pen.printable_put put slash) column
            apply ih _ _ printable_nil
            split
            · exact Pen.printable_put folded slash
            · exact folded
          · exact ih _ put printable_nil
      | false =>
          have plain : Printable [char] :=
            printable_cons.mpr ⟨needsEscape_of_not_isEscaped escaped, printable_nil⟩
          simp only [doubleFrom, escaped, Bool.false_eq_true, if_false]
          split
          · have folded := Pen.printable_indent
              (Pen.printable_put printable (printable_append.mpr ⟨waits, slash⟩)) column
            apply ih _ _ plain
            split
            · exact Pen.printable_put folded slash
            · exact folded
          · exact ih _ printable (printable_append.mpr ⟨waits, plain⟩)

theorem printable_writeDouble (column : Nat) (folds : Bool) (printable : Printable pen.written)
    (text : Text) : Printable (writeDouble column folds text pen).written := by
  have quote : Printable ['"'] := by decide
  have opened := Pen.printable_mark printable quote true false
  exact Pen.printable_mark (printable_doubleFrom column folds true opened printable_nil text) quote false false

theorem printable_of_allowsSingle (allowed : Style.allowsSingle text = true) : Printable text := by
  simp only [Style.allowsSingle, Bool.not_eq_true', Bool.or_eq_false_iff, List.any_eq_false] at allowed
  intro char membership
  exact Bool.eq_false_iff.mpr (allowed.1.1 char membership)

theorem printable_writeText (outer : Option Nat) (position : Position) (text : Text)
    (printable : Printable pen.written) : Printable (writeText outer position text pen).written := by
  have allowed : Style.ofText (position = .key) text ≠ .double → Printable text := by
    intro notDouble
    apply printable_of_allowsSingle
    by_contra notAllowed
    simp [Style.ofText, Style.allowsPlain, notAllowed] at notDouble
  rw [writeText]
  split
  · rename_i plain
    exact printable_writePlain _ _ printable (allowed (by simp [plain]))
  · rename_i single
    exact printable_writeSingle _ _ printable (allowed (by simp [single]))
  · exact printable_writeDouble _ _ printable text

/-! ## Values -/

/-- A value adds nothing but printable text wherever it is written. -/
def WritesPrintable (names : List (Nat × Text)) (value : Value) : Prop :=
  ∀ outer position (pen : Pen), Printable pen.written →
    Printable (writeValue names outer position value pen).written

variable {names : List (Nat × Text)}

theorem printable_writeEmpty {opening closing : Char} (printable : Printable pen.written)
    (marks : Printable [opening, closing]) : Printable (writeEmpty opening closing pen).written := by
  simp only [printable_cons] at marks
  have opened : Printable [opening] := printable_cons.mpr ⟨marks.1, printable_nil⟩
  have closed : Printable [closing] := printable_cons.mpr ⟨marks.2.1, printable_nil⟩
  exact Pen.printable_mark (Pen.printable_mark printable opened true false) closed false false

theorem printable_writeItems {items : List Value} (each : ∀ item ∈ items, WritesPrintable names item)
    (column : Nat) (printable : Printable pen.written) :
    Printable (writeItems names column items pen).written := by
  induction items generalizing pen with
  | nil => exact printable
  | cons item items ih =>
      obtain ⟨first, others⟩ := List.forall_mem_cons.mp each
      have dash : Printable ['-'] := by decide
      have marked := Pen.printable_mark (Pen.printable_indent printable column) dash true true
      rw [writeItems]
      exact ih others (first _ _ _ marked)

theorem printable_writeEntries {entries : List (Value × Value)}
    (keys : ∀ entry ∈ entries, WritesPrintable names entry.1)
    (values : ∀ entry ∈ entries, WritesPrintable names entry.2) (column : Nat)
    (printable : Printable pen.written) : Printable (writeEntries names column entries pen).written := by
  have colon : Printable [':'] := by decide
  have question : Printable ['?'] := by decide
  induction entries generalizing pen with
  | nil => exact printable
  | cons entry entries ih =>
      obtain ⟨key, otherKeys⟩ := List.forall_mem_cons.mp keys
      obtain ⟨value, otherValues⟩ := List.forall_mem_cons.mp values
      have line := Pen.printable_indent printable column
      rw [writeEntries]
      apply ih otherKeys otherValues
      apply value
      split
      · exact Pen.printable_mark (key _ _ _ line) colon false false
      · have written := key (some column) .entry _ (Pen.printable_mark line question true true)
        exact Pen.printable_mark (Pen.printable_indent written column) colon true true

theorem writesPrintable_text (text : Text) : WritesPrintable names (.text text) := by
  intro outer position pen printable
  rw [writeValue]
  exact printable_writeText outer position text printable

theorem writesPrintable_of_isJson (isJson : value.IsJson) : WritesPrintable names value := by
  induction isJson with
  | null =>
      intro outer position pen printable
      simp only [writeValue]
      exact printable_writePlain _ _ printable (by decide)
  | bool flag =>
      intro outer position pen printable
      simp only [writeValue]
      exact printable_writePlain _ _ printable (by cases flag <;> decide)
  | int number =>
      intro outer position pen printable
      simp only [writeValue]
      exact printable_writePlain _ _ printable (printable_ofInt number)
  | double number =>
      intro outer position pen printable
      simp only [writeValue]
      exact printable_writePlain _ _ printable (printable_decimalText number)
  | text text => exact writesPrintable_text text
  | list each ih =>
      intro outer position pen printable
      rw [writeValue]
      split
      · exact printable_writeEmpty printable (by decide)
      · exact printable_writeItems ih _ printable
  | @mapping entries keys values ih =>
      intro outer position pen printable
      have keys_ : ∀ entry ∈ entries, WritesPrintable names entry.1 := by
        intro entry membership
        obtain ⟨key, isText⟩ := keys entry membership
        rw [isText]
        exact writesPrintable_text key
      rw [writeValue]
      split
      · exact printable_writeEmpty printable (by decide)
      · exact printable_writeEntries keys_ ih _ printable

/-- A value of JSON kind is written in newlines and printable characters alone. -/
theorem printable_write (isJson : value.IsJson) : Printable (write value) := by
  have dots : Printable "..." := by decide
  have writes : WritesPrintable (Meetings.ofValue value {}).names value := writesPrintable_of_isJson isJson
  have ended := Pen.printable_indent (writes none .root {} printable_nil) 0
  simp only [write]
  split
  · exact Pen.printable_indent (Pen.printable_mark ended dots true false) 0
  · exact ended

/-! ## Through a file -/

theorem unifyBreaks_of_printable (printable : Printable text) : Text.unifyBreaks text = text := by
  induction text with
  | nil => rfl
  | cons char text ih =>
      obtain ⟨plain, others⟩ := printable_cons.mp printable
      rw [Text.unifyBreaks, ih others]
      · rintro rest rfl
        exact absurd plain (by decide)
      · rintro rfl
        exact absurd plain (by decide)

theorem toNat_lt_of_not_needsEscape {char : Char} (plain : Style.needsEscape char = false) :
    char.toNat < 128 := by
  simp only [Style.needsEscape, Bool.not_eq_false', Bool.or_eq_true, beq_iff_eq, Bool.and_eq_true,
    decide_eq_true_eq] at plain
  rcases plain with rfl | ⟨-, last⟩
  · decide
  · exact Nat.lt_of_le_of_lt (Char.le_def.mp last) (by decide)

/-- A character of seven bits is a byte of its own. -/
theorem decodeFrom_cons {char : Char} (small : char.toNat < 128) (fuel position : Nat) (rest : Text) :
    Utf8.decodeFrom (fuel + 1) position (Utf8.encode (char :: rest)) =
      (Utf8.decodeFrom fuel (position + 1) (Utf8.encode rest)).map (char :: ·) := by
  have single : char.utf8Size = 1 := by
    rw [Char.utf8Size_eq_one_iff, UInt32.le_iff_toNat_le]
    exact Nat.le_of_lt_succ small
  have number : char.val.toUInt8.toNat = char.toNat := by
    rw [UInt32.toNat_toUInt8]
    exact Nat.mod_eq_of_lt (Nat.lt_trans small (by decide))
  have lead : Utf8.lead? char.val.toUInt8 = some ⟨0, char.toNat, 0x80, 0xbf⟩ := by
    have low : char.val.toUInt8 < 0x80 := by
      rw [UInt8.lt_iff_toNat_lt, number]
      exact small
    rw [Utf8.lead?, if_pos low, number]
  have bytes : Utf8.encode (char :: rest) = char.val.toUInt8 :: Utf8.encode rest := by
    rw [Utf8.encode, List.flatMap_cons, String.utf8EncodeChar_eq_singleton single]
    rfl
  rw [bytes, Utf8.decodeFrom, lead]
  simp only [Utf8.faultIn, Utf8.charOf, List.take_zero, List.foldl_nil, List.drop_zero, Char.ofNat_toNat]
  rfl

theorem decodeFrom_encode (printable : Printable text) :
    ∀ fuel position, text.length ≤ fuel →
      Utf8.decodeFrom fuel position (Utf8.encode text) = .ok text := by
  induction text with
  | nil =>
      intro fuel position enough
      cases fuel <;> rfl
  | cons char text ih =>
      intro fuel position enough
      obtain ⟨plain, others⟩ := printable_cons.mp printable
      cases fuel with
      | zero => cases enough
      | succ fuel =>
          rw [decodeFrom_cons (toNat_lt_of_not_needsEscape plain),
            ih others fuel (position + 1) (Nat.le_of_succ_le_succ enough)]
          rfl

theorem length_le_encode (text : Text) : text.length ≤ (Utf8.encode text).length := by
  induction text with
  | nil => exact Nat.le_refl 0
  | cons char text ih =>
      rw [Utf8.encode, List.flatMap_cons, List.length_append, String.length_utf8EncodeChar,
        List.length_cons, Nat.add_comm]
      exact Nat.add_le_add char.utf8Size_pos ih

/-- A printable text is decoded as it was encoded. -/
theorem decode_encode (printable : Printable text) : Utf8.decode (Utf8.encode text) = .ok text :=
  decodeFrom_encode printable _ 0 (length_le_encode text)

end Docweave.Yaml
