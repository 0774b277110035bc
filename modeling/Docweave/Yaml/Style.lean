import Docweave.Yaml.Cursor
import Docweave.Yaml.Plain

/-!
# How a text is written

A text is written plain where it reads back as the same text, else in single quotes, and in double quotes
where it holds characters that need an escape or blanks that folding would lose.
-/

namespace Docweave.Yaml

/-- How a scalar is written. -/
inductive Style where
  | plain
  | single
  | double
  deriving DecidableEq, Repr, Inhabited

namespace Style

/-- Whether a character is written as an escape. -/
def needsEscape (char : Char) : Bool := !(char == '\n' || (' ' ≤ char && char ≤ '~'))

/-- Whether a character starts a new line when it is written. -/
def isNewline (char : Char) : Bool := isBreak char && char != '\r'

/-- Characters that no plain scalar starts with. -/
def leadMarks : List Char :=
  ['#', ',', '[', ']', '{', '}', '&', '*', '!', '|', '>', '\'', '"', '%', '@', '\x60']

/-- Whether a text starts with something that is no part of a plain scalar. -/
def startsMarked (text : Text) : Bool :=
  Text.startsWith "---" text || Text.startsWith "..." text ||
    match text with
    | [] => false
    | char :: rest => leadMarks.contains char || (['?', ':', '-'].contains char && endsWord rest.head?)

/-- Whether a text holds, after its first character `before`, a colon or a hash sign that would end a plain
scalar. -/
def holdsMark : (before : Char) → Text → Bool
  | _, [] => false
  | before, char :: rest =>
    (char == ':' && endsWord rest.head?) || (char == '#' && isGap before) || holdsMark char rest

/-- Whether two characters of given kinds follow each other in a text. -/
def holdsPair (first second : Char → Bool) : Text → Bool
  | left :: right :: rest => (first left && second right) || holdsPair first second (right :: rest)
  | _ => false

/-- Whether a character is a space or starts a new line. -/
def isEdge (char : Char) : Bool := char == ' ' || isNewline char

/-- Whether a text starts or ends with a space or a new line. -/
def hasBlankEdge (text : Text) : Bool := (text.head?.map isEdge).getD false || (text.getLast?.map isEdge).getD false

/-- Whether folding keeps a text as it is: it needs no escapes, and no space stands next to a new line. -/
def allowsSingle (text : Text) : Bool :=
  !(text.any needsEscape || holdsPair (· == ' ') isNewline text || holdsPair isNewline (· == ' ') text)

/-- Whether a text can be written without quotes, where it need not read back as a text. -/
def allowsPlain (text : Text) : Bool :=
  let marked := match text with
    | first :: rest => holdsMark first rest
    | [] => false
  allowsSingle text && !(text.any isNewline || hasBlankEdge text || startsMarked text || marked)

/-- The style of a text. A key must not be empty or go over several lines without quotes. -/
def ofText (isKey : Bool) (text : Text) : Style :=
  let long := text.any isNewline
  if Plain.kind text = .text && allowsPlain text && !(isKey && (text.isEmpty || long)) then .plain
  else if allowsSingle text && !(isKey && long) then .single
  else .double

/-- Characters with an escape of their own. -/
def shortEscapes : List (Char × Char) :=
  [('\x00', '0'), ('\x07', 'a'), ('\x08', 'b'), ('\t', 't'), ('\n', 'n'), ('\x0b', 'v'), ('\x0c', 'f'),
    ('\r', 'r'), ('\x1b', 'e'), ('"', '"'), ('\\', '\\'), ('\u0085', 'N'), ('\u00a0', '_'),
    ('\u2028', 'L'), ('\u2029', 'P')]

/-- A number in capital hexadecimal digits, with zeros in front. -/
def hexText (width number : Nat) : Text :=
  let digits := (Nat.toDigits 16 number).map Char.toUpper
  List.replicate (width - digits.length) '0' ++ digits

/-- The escape of a character. -/
def escape (char : Char) : Text :=
  match shortEscapes.lookup char with
  | some short => ['\\', short]
  | none =>
    let code := char.toNat
    if code ≤ 0xff then '\\' :: 'x' :: hexText 2 code
    else if code ≤ 0xffff then '\\' :: 'u' :: hexText 4 code
    else '\\' :: 'U' :: hexText 8 code

/-- Whether a character is written as an escape in double quotes. -/
def isEscaped (char : Char) : Bool := needsEscape char || char == '\n' || char == '"' || char == '\\'

end Style

end Docweave.Yaml
