import Docweave.Value.Numeral

/-!
# What a plain scalar stands for

A scalar without quotes stands for a value by the way it is spelled: the empty one and `~` for nothing,
`yes` and `off` for flags, digits for numbers in one of several notations, a date for a date or a moment.
Anything else is text. Two spellings have a meaning in mappings only: `<<` merges, and `=` is a default value.
-/

namespace Docweave.Yaml

/-- What a node stands for. -/
inductive Tag where
  | nothing
  | flag
  | integer
  | decimal
  | binary
  | date
  | text
  | merge
  | standIn
  | sequence
  | ordered
  | pairs
  | mapping
  | set
  | unknown
  deriving DecidableEq, Repr, Inhabited

namespace Plain

/-- Spellings of nothing. -/
def nothingWords : List Text := ["", "~", "null", "Null", "NULL"]

/-- Spellings of a set flag. -/
def trueWords : List Text := ["yes", "Yes", "YES", "true", "True", "TRUE", "on", "On", "ON"]

/-- Spellings of a flag that is not set. -/
def falseWords : List Text := ["no", "No", "NO", "false", "False", "FALSE", "off", "Off", "OFF"]

/-- Spellings of the infinite number, after a sign. -/
def infinityWords : List Text := [".inf", ".Inf", ".INF"]

/-- Spellings of what is no number. -/
def notANumberWords : List Text := [".nan", ".NaN", ".NAN"]

/-- Whether a character is a digit or separates digits. -/
def isDigitMark (char : Char) : Bool := char.isDigit || char == '_'

/-- Whether a text starts with a digit and goes on with digits and what separates them. -/
def isDigits : Text → Bool
  | first :: rest => first.isDigit && rest.all isDigitMark
  | [] => false

/-- Whether a text is such a number without a zero in front. -/
def isCounting (text : Text) : Bool := isDigits text && text.head? != some '0'

/-- Whether a text is a number of minutes or seconds. -/
def isSixtieth : Text → Bool
  | [digit] => digit.isDigit
  | [ten, digit] => '0' ≤ ten && ten ≤ '5' && digit.isDigit
  | _ => false

/-- Whether parts after the first are numbers of minutes or seconds, and there are some. -/
def areSixtieths (parts : List Text) : Bool := !parts.isEmpty && parts.all isSixtieth

/-- Whether a text is a whole number: binary, octal, decimal, hexadecimal, or in base sixty. -/
def isInteger (text : Text) : Bool :=
  match (Numeral.cutSign text).2 with
  | '0' :: 'b' :: digits => !digits.isEmpty && digits.all fun char => char == '0' || char == '1' || char == '_'
  | '0' :: 'x' :: digits =>
    !digits.isEmpty && digits.all fun char =>
      isDigitMark char || ('a' ≤ char && char ≤ 'f') || ('A' ≤ char && char ≤ 'F')
  | '0' :: digits => digits.all fun char => char == '_' || ('0' ≤ char && char ≤ '7')
  | digits =>
    match Text.splitChar ':' digits with
    | [] => false
    | first :: parts => isCounting first && (parts.isEmpty || areSixtieths parts)

/-- Whether a text is an exponent with its sign, or empty. -/
def isExponent : Text → Bool
  | [] => true
  | mark :: sign :: digits =>
    (mark == 'e' || mark == 'E') && (sign == '-' || sign == '+') && !digits.isEmpty && digits.all Char.isDigit
  | _ => false

/-- Whether a text is a fraction after the point: digits, then an exponent if there is one. -/
def isFraction (text : Text) : Bool := isExponent (text.dropWhile isDigitMark)

/-- Whether a text is a number with a point in base sixty. -/
def isSexagesimal (text : Text) : Bool :=
  let (whole, fraction) := Text.cutAt '.' text
  match Text.splitChar ':' whole with
  | [] => false
  | first :: parts => text.contains '.' && isDigits first && areSixtieths parts && fraction.all isDigitMark

/-- Whether a text is a number with a point. -/
def isDecimal (text : Text) : Bool :=
  let body := (Numeral.cutSign text).2
  let (whole, fraction) := Text.cutAt '.' body
  let bare := match text with
    | '.' :: digit :: rest => digit.isDigit && isFraction rest
    | _ => false
  (body.contains '.' && isDigits whole && isFraction fraction) || bare || isSexagesimal body
    || infinityWords.contains body || notANumberWords.contains text

/-- A point in time as it is written: a day, and perhaps a time of day. -/
structure WrittenTime where
  day : Text × Text × Text
  time : Option (Text × Text × Text × Text) := none
  zone : Option (Bool × Text × Text) := none

/-- Take between `least` and `most` digits off a text. -/
def takeDigits? (least most : Nat) (text : Text) : Option (Text × Text) :=
  let digits := (text.take most).takeWhile Char.isDigit
  if digits.length < least then none else some (digits, text.drop digits.length)

/-- Take the mark between a day and a time of day off a text: a letter, or blanks. -/
def takeTimeMark? : Text → Option Text
  | 'T' :: rest | 't' :: rest => some rest
  | char :: rest => if Text.isBlank char then some (rest.dropWhile Text.isBlank) else none
  | [] => none

/-- The fraction of a second after a point, if there is one, and what follows. -/
def cutFraction : Text → Text × Text
  | '.' :: rest => (rest.takeWhile Char.isDigit, rest.dropWhile Char.isDigit)
  | text => ([], text)

/-- The zone at the end of a time: whether it is behind, and its hours and minutes. The outer option is
for a text that is no zone, the inner one for no zone at all. -/
def zone? (text : Text) : Option (Option (Bool × Text × Text)) :=
  match text.dropWhile Text.isBlank with
  | [] => if text.isEmpty then some none else none
  | ['Z'] => some (some (false, [], []))
  | sign :: rest =>
    if sign ≠ '+' ∧ sign ≠ '-' then none
    else do
      let (hours, rest) ← takeDigits? 1 2 rest
      match rest with
      | [] => some (some (sign == '-', hours, []))
      | [':', ten, one] => if ten.isDigit && one.isDigit then some (some (sign == '-', hours, [ten, one])) else none
      | _ => none

/-- Read a day, and the time of day after it. -/
def writtenTime? (text : Text) : Option WrittenTime := do
  let (year, rest) ← takeDigits? 4 4 text
  let (month, rest) ← takeDigits? 1 2 (← Text.after? ['-'] rest)
  let (day, rest) ← takeDigits? 1 2 (← Text.after? ['-'] rest)
  if rest.isEmpty then some { day := (year, month, day) }
  else
    let (hour, rest) ← takeDigits? 1 2 (← takeTimeMark? rest)
    let (minute, rest) ← takeDigits? 2 2 (← Text.after? [':'] rest)
    let (second, rest) ← takeDigits? 2 2 (← Text.after? [':'] rest)
    let (fraction, rest) := cutFraction rest
    some { day := (year, month, day), time := some (hour, minute, second, fraction), zone := ← zone? rest }

/-- Whether a text is a day or a moment. A day alone has two digits for month and day. -/
def isTime (text : Text) : Bool :=
  match writtenTime? text with
  | some { day := (_, month, day), time := none, .. } => month.length = 2 ∧ day.length = 2
  | some _ => true
  | none => false

/-- What a plain scalar stands for. -/
def kind (text : Text) : Tag :=
  if trueWords.contains text || falseWords.contains text then .flag
  else if isDecimal text then .decimal
  else if isInteger text then .integer
  else if text = "<<".toList then .merge
  else if nothingWords.contains text then .nothing
  else if isTime text then .date
  else if text = "=".toList then .standIn
  else .text

end Plain

end Docweave.Yaml
