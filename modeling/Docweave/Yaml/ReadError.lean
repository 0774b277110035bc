import Docweave.Value.Numeral

/-!
# Why a YAML text has no value

A text may be ill formed, it may name a character that does not exist, or a scalar may not have the form of what
it stands for.
-/

namespace Docweave.Yaml

/-- Why a scalar has no value. -/
inductive ScalarError where
  | numeral (error : NumeralError)
  | noText
  | notAFlag (word : Text)
  | notATime
  | tooLarge
  | yearOutOfRange
  | monthOutOfRange
  | dayOutOfRange
  | hourOutOfRange
  | minuteOutOfRange
  | secondOutOfRange
  | zoneOutOfRange (minutes : Int)
  deriving DecidableEq, Repr

namespace ScalarError

/-- The literal of a distance of minutes: whole days, and the seconds beyond them. -/
def distanceLiteral (minutes : Int) : Text :=
  let days := minutes / (24 * 60)
  let seconds := minutes % (24 * 60) * 60
  let parts : List Text :=
    (if days = 0 then [] else ["days=" ++ Text.ofInt days])
      ++ (if seconds = 0 then [] else ["seconds=" ++ Text.ofInt seconds])
  "datetime.timedelta(" ++ Text.join ", " parts ++ ")"

/-- What is said about a scalar without a value. -/
def message : ScalarError → Text
  | .numeral error => error.message
  | .noText => "A number has no digits."
  | .notAFlag word => word
  | .notATime => "A time has a form of its own."
  | .tooLarge => "int too large to convert to float"
  | .yearOutOfRange => "year 0 is out of range"
  | .monthOutOfRange => "month must be in 1..12"
  | .dayOutOfRange => "day is out of range for month"
  | .hourOutOfRange => "hour must be in 0..23"
  | .minuteOutOfRange => "minute must be in 0..59"
  | .secondOutOfRange => "second must be in 0..59"
  | .zoneOutOfRange minutes =>
    "offset must be a timedelta strictly between -timedelta(hours=24) and timedelta(hours=24), not "
      ++ distanceLiteral minutes ++ "."

end ScalarError

/-- Why a text has no value. -/
inductive ReadError where
  | malformed
  | noSuchCharacter (code : Nat)
  | scalar (error : ScalarError)
  deriving DecidableEq, Repr

namespace ReadError

/-- The codes that are compared with the last character. Greater ones are no codes at all. -/
def codeLimit : Nat := 0x80000000

/-- What is said about a text without a value. -/
def message : ReadError → Text
  | .malformed => "invalid yaml"
  | .noSuchCharacter code =>
    if code < codeLimit then "chr() arg not in range(0x110000)" else "A code is too large."
  | .scalar error => error.message

/-- Whether an error tells about a wrong value. Those that do not are failures of reading itself. -/
def isAboutValue : ReadError → Bool
  | .malformed => true
  | .noSuchCharacter code => code < codeLimit
  | .scalar error =>
    match error with
    | .noText | .notAFlag _ | .notATime | .tooLarge => false
    | _ => true

end ReadError

end Docweave.Yaml
