import Docweave.Text.Basic

/-!
# Places in a YAML text

A cursor is a place in a text: what is still to be read, and the index, line and column reached. Reading
only ever moves it forward.
-/

namespace Docweave.Yaml

/-- A place in a text. -/
structure Cursor where
  rest : Text
  index : Nat := 0
  line : Nat := 0
  column : Nat := 0
  deriving DecidableEq, Repr, Inhabited

/-- Whether a character breaks a line. -/
def isBreak (char : Char) : Bool := ['\n', '\r', '\u0085', '\u2028', '\u2029'].contains char

/-- Whether a character separates words on a line or breaks the line. -/
def isGap (char : Char) : Bool := Text.isBlank char || isBreak char

/-- Whether what follows ends a line: a break, or the end of the text. -/
def endsLine : Option Char → Bool
  | none => true
  | some char => isBreak char

/-- Whether what follows ends a word: a blank, a break, or the end of the text. -/
def endsWord : Option Char → Bool
  | none => true
  | some char => isGap char

/-- Whether what follows ends a word, where a tab does not. -/
def endsField : Option Char → Bool
  | none => true
  | some char => char == ' ' || isBreak char

/-- The mark that may stand at the start of a text and takes up no column. -/
def byteOrderMark : Char := '\ufeff'

namespace Cursor

/-- The place before a text. -/
def start (text : Text) : Cursor := { rest := text }

/-- The next character. -/
def peek? (cursor : Cursor) : Option Char := cursor.rest.head?

/-- The character some places ahead. -/
def peekAt? (cursor : Cursor) (offset : Nat) : Option Char := cursor.rest[offset]?

/-- Whether the next character is a given one. -/
def sees (cursor : Cursor) (char : Char) : Bool := cursor.peek? == some char

/-- Move over one character. The two characters of a break count as one line. -/
def next (cursor : Cursor) : Cursor :=
  match cursor.rest with
  | [] => cursor
  | char :: rest =>
    if isBreak char && !(char == '\r' && rest.head? == some '\n') then
      ⟨rest, cursor.index + 1, cursor.line + 1, 0⟩
    else if char = byteOrderMark then ⟨rest, cursor.index + 1, cursor.line, cursor.column⟩
    else ⟨rest, cursor.index + 1, cursor.line, cursor.column + 1⟩

/-- Move over several characters. -/
def advance (cursor : Cursor) : (count : Nat) → Cursor
  | 0 => cursor
  | count + 1 => cursor.next.advance count

/-- Take the characters of a class, and the place after them. -/
def span (cursor : Cursor) (inClass : Char → Bool) : Text × Cursor :=
  let taken := cursor.rest.takeWhile inClass
  (taken, cursor.advance taken.length)

/-- Move over spaces. -/
def skipSpaces (cursor : Cursor) : Cursor := (cursor.span (· == ' ')).2

/-- Move over blanks. -/
def skipBlanks (cursor : Cursor) : Cursor := (cursor.span Text.isBlank).2

/-- Move to the end of the line. -/
def skipLine (cursor : Cursor) : Cursor := (cursor.span fun char => !isBreak char).2

/-- Move over a comment, if one starts here. -/
def skipComment (cursor : Cursor) : Cursor := if cursor.sees '#' then cursor.skipLine else cursor

/-- Take a line break, if there is one. All but the two separators of paragraphs are read as a newline. -/
def takeBreak? (cursor : Cursor) : Option (Char × Cursor) :=
  match cursor.rest with
  | '\r' :: '\n' :: _ => some ('\n', cursor.advance 2)
  | char :: _ =>
    if char = '\u2028' ∨ char = '\u2029' then some (char, cursor.next)
    else if isBreak char then some ('\n', cursor.next)
    else none
  | [] => none

/-- Whether a mark of three characters between documents stands here. -/
def seesMark (cursor : Cursor) (mark : Text) : Bool :=
  Text.startsWith mark cursor.rest && endsWord (cursor.peekAt? 3)

/-- Whether a document starts or ends here. -/
def seesSeparator (cursor : Cursor) : Bool := cursor.seesMark "---" || cursor.seesMark "..."

end Cursor

end Docweave.Yaml
