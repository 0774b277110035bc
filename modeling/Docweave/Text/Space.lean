import Docweave.Text.Basic

/-!
# White space

White space is wider than the blanks of a row: it is every character whose bidirectional class or
category makes it a separator of words or rows, in all scripts.
-/

namespace Docweave.Text

/-- The white space characters: the ASCII controls from tab to carriage return and from file to unit
separator, the space, next line, and the space, line and paragraph separators of other scripts. -/
def isSpace (char : Char) : Bool :=
  let code := char.toNat
  (9 ≤ code && code ≤ 13) || (28 ≤ code && code ≤ 32) || code == 0x85 || code == 0xA0 ||
    code == 0x1680 || (0x2000 ≤ code && code ≤ 0x200A) || code == 0x2028 || code == 0x2029 ||
    code == 0x202F || code == 0x205F || code == 0x3000

/-- The white space characters that end a row: the controls from line feed to carriage return and from file to
record separator, next line, and the line and paragraph separators. -/
def isBreak (char : Char) : Bool :=
  let code := char.toNat
  (10 ≤ code && code ≤ 13) || (28 ≤ code && code ≤ 30) || code == 0x85 || code == 0x2028 || code == 0x2029

/-- Strip white space from the left. -/
def stripLeft (text : Text) : Text := text.dropWhile isSpace

/-- Strip white space from the right. -/
def stripRight (text : Text) : Text := dropTrailing isSpace text

/-- Strip white space from both ends. -/
def strip (text : Text) : Text := stripOf isSpace text

/-- The words of a text, without the white space between them. -/
def words (text : Text) : List Text := (text.splitOnP isSpace).filter fun word => !word.isEmpty

/-- Blanks and newlines are white space. -/
theorem isSpace_of_isSeparator {char : Char} (separator : isSeparator char = true) :
    isSpace char = true := by
  simp only [isSeparator, isBlank, Bool.or_eq_true, beq_iff_eq] at separator
  rcases separator with (rfl | rfl) | rfl <;> decide

end Docweave.Text
