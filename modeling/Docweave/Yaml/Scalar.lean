import Docweave.Text.Case
import Docweave.Value.Base64
import Docweave.Yaml.Plain
import Docweave.Yaml.ReadError

/-!
# Values of scalars

A scalar with a tag is read as what the tag names, whether or not it is spelled like it. Spellings are therefore
taken wider here than where a scalar has no tag, and a scalar that cannot be read is an error.
-/

namespace Docweave.Yaml.Scalar

/-- A text without what separates digits. -/
def withoutMarks (text : Text) : Text := text.filter (· ≠ '_')

/-- Whether a scalar stands for a flag that is set. -/
def flag (text : Text) : Except ScalarError Bool :=
  let word := text.map Text.lowerChar
  if Plain.trueWords.contains word then .ok true
  else if Plain.falseWords.contains word then .ok false
  else .error (.notAFlag word)

/-- Read a whole number in a base. -/
def whole (base : Nat) (text : Text) : Except ScalarError Int := (Numeral.whole base text).mapError .numeral

/-- The whole number that digits stand for: in base two, eight, sixteen, ten or sixty. -/
def wholeBody (text : Text) : Except ScalarError Int :=
  match text with
  | [] => .error .noText
  | ['0'] => .ok 0
  | '0' :: 'b' :: digits => whole 2 digits
  | '0' :: 'x' :: digits => whole 16 digits
  | '0' :: _ => whole 8 text
  | _ => do
    let parts ← (Text.splitChar ':' text).mapM (whole 10)
    return parts.foldl (fun number part => number * 60 + part) 0

/-- The whole number that a scalar stands for. -/
def integer (text : Text) : Except ScalarError Int := do
  let (negative, digits) := Numeral.cutSign (withoutMarks text)
  let size ← wholeBody digits
  return if negative then -size else size

/-- The sum of parts in base sixty, the last one first, each rounded as it is added. -/
def sixtieths (parts : List Double) : Except ScalarError Double :=
  let step (state : Double × Nat) (part : Double) : Except ScalarError (Double × Nat) :=
    match Double.ofNat state.2 with
    | .infinite _ => .error .tooLarge
    | base => .ok (state.1.add (part.mul base), state.2 * 60)
  (parts.foldlM step (Double.ofNat 0, 1)).map Prod.fst

/-- The number with a point that a scalar stands for. -/
def decimal (text : Text) : Except ScalarError Double := do
  let read (part : Text) : Except ScalarError Double := (Numeral.decimal part).mapError .numeral
  let written := withoutMarks text
  if written.isEmpty then .error .noText
  let (negative, body) := Numeral.cutSign (written.map Text.lowerChar)
  let size ←
    if Plain.infinityWords.contains body then .ok (.infinite false)
    else if Plain.notANumberWords.contains body then .ok .notANumber
    else if body.contains ':' then do sixtieths (← (Text.splitChar ':' body).mapM read).reverse
    else read body
  return if negative then size.neg else size

/-- Whether a year has a day more. -/
def isLeapYear (year : Nat) : Bool := year % 4 == 0 && (year % 100 != 0 || year % 400 == 0)

/-- The number of days of a month. -/
def daysOf (year month : Nat) : Nat :=
  if month = 2 then if isLeapYear year then 29 else 28
  else if month = 4 ∨ month = 6 ∨ month = 9 ∨ month = 11 then 30
  else 31

/-- Whether there is a day of a year, month and day. -/
def checkDay (year month day : Nat) : Except ScalarError Unit :=
  if year = 0 then .error .yearOutOfRange
  else if month = 0 ∨ month > 12 then .error .monthOutOfRange
  else if day = 0 ∨ day > daysOf year month then .error .dayOutOfRange
  else .ok ()

/-- Whether there is a time of an hour, minute and second. -/
def checkTime (hour minute second : Nat) : Except ScalarError Unit :=
  if hour > 23 then .error .hourOutOfRange
  else if minute > 59 then .error .minuteOutOfRange
  else if second > 59 then .error .secondOutOfRange
  else .ok ()

/-- The microseconds of a fraction of a second. Further digits are cut off. -/
def microseconds (fraction : Text) : Nat :=
  let digits := fraction.take 6
  Numeral.ofDigits 10 digits * Nat.pow 10 (6 - digits.length)

/-- The minutes of a zone, which is less than a day away. -/
def zoneMinutes : Bool × Text × Text → Except ScalarError Int
  | (behind, hours, minutes) =>
    let size : Int := Numeral.ofDigits 10 hours * 60 + Numeral.ofDigits 10 minutes
    let zone := if behind then -size else size
    if size < 24 * 60 then .ok zone else .error (.zoneOutOfRange zone)

/-- The date or moment that is written, if there is such a day and time. -/
def timeValue (written : Plain.WrittenTime) : Except ScalarError Value := do
  let number := Numeral.ofDigits 10
  let (year, month, day) := written.day
  let (year, month, day) := (number year, number month, number day)
  match written.time with
  | none =>
    checkDay year month day
    return .date year month day
  | some (hour, minute, second, fraction) =>
    let (hour, minute, second) := (number hour, number minute, number second)
    let zone ← written.zone.mapM zoneMinutes
    checkDay year month day
    checkTime hour minute second
    return .moment ⟨year, month, day, hour, minute, second, microseconds fraction, zone⟩

/-- A text without a newline at its end. -/
def dropNewline (text : Text) : Text := if Text.endsWith ['\n'] text then text.dropLast else text

/-- The date or moment that a scalar stands for. -/
def time (text : Text) : Except ScalarError Value :=
  match Plain.writtenTime? (dropNewline text) with
  | some written => timeValue written
  | none => .error .notATime

/-- The bytes that a scalar stands for. -/
def bytes? (text : Text) : Option (List UInt8) :=
  if text.any fun char => char.toNat ≥ 128 then none else Base64.decode? text

/-- The value of a scalar with a tag. The tags for mappings and unknown ones give none. -/
def value (tag : Tag) (text : Text) : Except ReadError Value :=
  let checked {α : Type} (wrap : α → Value) (result : Except ScalarError α) : Except ReadError Value :=
    (result.map wrap).mapError .scalar
  match tag with
  | .nothing => .ok .null
  | .flag => checked .bool (flag text)
  | .integer => checked .int (integer text)
  | .decimal => checked .double (decimal text)
  | .date => checked id (time text)
  | .text => .ok (.text text)
  | .binary =>
    match bytes? text with
    | some bytes => .ok (.bytes bytes)
    | none => .error .malformed
  | _ => .error .malformed

end Docweave.Yaml.Scalar
