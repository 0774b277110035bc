import Docweave.Text.Quote
import Docweave.Text.Space
import Docweave.Text.Word
import Docweave.Value.Basic

/-!
# Numbers as they are written

A whole number is written in the digits of a base, a number with a point in decimal digits with an exponent if
there is one. White space around a number is passed over, and the digits of all scripts count. What is no number
is refused with the text as it is written.
-/

namespace Docweave

/-- Why a text is no number. -/
inductive NumeralError where
  | notWhole (base : Nat) (text : Text)
  | notDecimal (text : Text)
  | tooManyDigits (count : Nat)
  deriving DecidableEq, Repr

namespace NumeralError

/-- How much of a text that is no whole number is shown. -/
def shownLength : Nat := 200

/-- The words about numbers that are too long. -/
def limitText (detail : Text) : Text :=
  "Exceeds the limit (" ++ Text.ofNat Value.mostDigits ++ " digits) for integer string conversion" ++ detail
    ++ "; use sys.set_int_max_str_digits() to increase the limit"

/-- What is said about a text that is no number. -/
def message : NumeralError → Text
  | .notWhole base text =>
    "invalid literal for int() with base " ++ Text.ofNat base ++ ": " ++ (Text.quoted text).take shownLength
  | .notDecimal text => "could not convert string to float: " ++ Text.quoted text
  | .tooManyDigits count => limitText (": value has " ++ Text.ofNat count ++ " digits")

end NumeralError

namespace Numeral

/-- Whether a character may stand around a number: in a text of ASCII characters alone, the separators do not
count as white space. -/
def isAround (text : Text) (char : Char) : Bool :=
  if text.all fun char => char.toNat < 128 then char == ' ' || (9 ≤ char.toNat && char.toNat ≤ 13)
  else Text.isSpace char

/-- The digit of a script as an ASCII digit. Other characters stay as they are. The digits of a script follow
each other from zero on, and where there are several rows of ten, so do the rows. -/
def plainDigit (char : Char) : Char :=
  if char.toNat < 128 then char
  else
    match Text.digitRanges.find? fun (first, last) => first ≤ char.toNat && char.toNat ≤ last with
    | some (first, _) => Char.ofNat ((char.toNat - first) % 10 + 48)
    | none => char

/-- A number without white space around it, in ASCII digits. -/
def body (text : Text) : Text := (Text.stripOf (isAround text) text).map plainDigit

/-- Cut a sign off: whether it is a minus, and what follows. -/
def cutSign : Text → Bool × Text
  | '-' :: rest => (true, rest)
  | '+' :: rest => (false, rest)
  | text => (false, text)

/-- The value of a digit, where the letters go on after nine. -/
def digitValue (char : Char) : Nat :=
  if '0' ≤ char ∧ char ≤ '9' then char.toNat - 48
  else if 'a' ≤ char ∧ char ≤ 'z' then char.toNat - 87
  else if 'A' ≤ char ∧ char ≤ 'Z' then char.toNat - 55
  else 36

/-- The number that digits in a base stand for. -/
def ofDigits (base : Nat) (digits : Text) : Nat :=
  digits.foldl (fun number char => number * base + digitValue char) 0

/-- Cut digits off a text. A single underscore may stand between two of them. -/
def cutDigits (inClass : Char → Bool) : (afterDigit : Bool) → Text → Text × Text
  | _, [] => ([], [])
  | afterDigit, char :: rest =>
    if inClass char then
      let (digits, behind) := cutDigits inClass true rest
      (char :: digits, behind)
    else
      match rest with
      | next :: more =>
        if afterDigit && char == '_' && inClass next then
          let (digits, behind) := cutDigits inClass true more
          (next :: digits, behind)
        else ([], char :: rest)
      | [] => ([], char :: rest)

/-- The letter that may stand after a zero before the digits of a base. -/
def baseMark : Nat → Option Char
  | 2 => some 'b'
  | 8 => some 'o'
  | 16 => some 'x'
  | _ => none

/-- Drop the mark of a base, and tell whether there was one. -/
def dropMark (base : Nat) : Text → Bool × Text
  | '0' :: mark :: rest => if some mark.toLower = baseMark base then (true, rest) else (false, '0' :: mark :: rest)
  | text => (false, text)

/-- Read a whole number in a base. -/
def whole (base : Nat) (text : Text) : Except NumeralError Int :=
  let (negative, unsigned) := cutSign (body text)
  let (hasMark, written) := dropMark base unsigned
  let (digits, rest) := cutDigits (digitValue · < base) hasMark written
  if base = 10 ∧ digits.length > Value.mostDigits then .error (.tooManyDigits digits.length)
  else if digits.isEmpty ∨ !rest.isEmpty then .error (.notWhole base text)
  else
    let size : Int := ofDigits base digits
    .ok (if negative then -size else size)

/-- Spellings of the infinite number. -/
def infinityWords : List Text := ["inf", "infinity"]

/-- The spelling of what is no number. -/
def notANumberWord : Text := "nan"

/-- Read an exponent with its mark, or nothing. -/
def exponent? : Text → Option Int
  | [] => some 0
  | mark :: rest =>
    let (negative, digits) := cutSign rest
    if mark.toLower ≠ 'e' ∨ digits.isEmpty ∨ digits.any (fun char => !char.isDigit) then none
    else some (if negative then -(ofDigits 10 digits : Int) else ofDigits 10 digits)

/-- Read a number without a sign. -/
def unsigned? (text : Text) : Option Double :=
  let lower := text.map Char.toLower
  if infinityWords.contains lower then some (.infinite false)
  else if lower = notANumberWord then some .notANumber
  else
    let whole := text.takeWhile Char.isDigit
    let rest := text.dropWhile Char.isDigit
    let (fraction, rest) := match rest with
      | '.' :: rest => (rest.takeWhile Char.isDigit, rest.dropWhile Char.isDigit)
      | _ => ([], rest)
    if whole.isEmpty ∧ fraction.isEmpty then none
    else
      (exponent? rest).map fun power =>
        Double.ofDecimal false (ofDigits 10 (whole ++ fraction)) (power - fraction.length)

/-- Read a number with a point. -/
def decimal (text : Text) : Except NumeralError Double :=
  let (negative, unsigned) := cutSign (body text)
  match unsigned? unsigned with
  | some number => .ok (if negative then number.neg else number)
  | none => .error (.notDecimal text)

end Numeral

end Docweave
