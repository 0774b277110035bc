import Docweave.Text.Basic

/-!
# Points in time

A moment is a day and a time of day to the microsecond, with or without the distance of its clock from
universal time.
-/

namespace Docweave

/-- A point in time. The zone is a number of minutes ahead of universal time. -/
structure Moment where
  year : Nat
  month : Nat
  day : Nat
  hour : Nat
  minute : Nat
  second : Nat
  microsecond : Nat := 0
  zone : Option Int := none
  deriving DecidableEq, Repr, Inhabited

namespace Moment

/-- A number with zeros in front, up to a width. -/
def padded (width number : Nat) : Text :=
  let digits := Text.ofNat number
  List.replicate (width - digits.length) '0' ++ digits

/-- The text of a day. -/
def dayText (year month day : Nat) : Text :=
  padded 4 year ++ '-' :: padded 2 month ++ '-' :: padded 2 day

/-- The text of a zone. -/
def zoneText (zone : Int) : Text :=
  (if zone < 0 then '-' else '+') :: padded 2 (zone.natAbs / 60) ++ ':' :: padded 2 (zone.natAbs % 60)

/-- The text of a moment. Microseconds are left out when there are none. -/
def render (moment : Moment) : Text :=
  dayText moment.year moment.month moment.day ++ ' ' :: padded 2 moment.hour ++ ':' :: padded 2 moment.minute
    ++ ':' :: padded 2 moment.second
    ++ (if moment.microsecond = 0 then [] else '.' :: padded 6 moment.microsecond)
    ++ (moment.zone.map zoneText).getD []

/-- The literal of a zone: whole days, and the seconds beyond them. -/
def zoneLiteral (zone : Int) : Text :=
  if zone = 0 then "datetime.timezone.utc"
  else
    let seconds := Text.ofInt (zone * 60 % 86400)
    let days : Text := if zone < 0 then "days=-1, " else ""
    "datetime.timezone(datetime.timedelta(" ++ days ++ "seconds=" ++ seconds ++ "))"

/-- The parts of a time of day that its literal shows. -/
def timeParts (moment : Moment) : List Nat :=
  if moment.microsecond ≠ 0 then [moment.hour, moment.minute, moment.second, moment.microsecond]
  else if moment.second ≠ 0 then [moment.hour, moment.minute, moment.second]
  else [moment.hour, moment.minute]

/-- The literal of a moment. -/
def literal (moment : Moment) : Text :=
  let parts := ([moment.year, moment.month, moment.day] ++ moment.timeParts).map Text.ofNat
  let zone := match moment.zone with
    | some zone => ["tzinfo=" ++ zoneLiteral zone]
    | none => []
  "datetime.datetime(" ++ Text.join ", " (parts ++ zone) ++ ")"

end Moment

end Docweave
