import StyleTypings.Text.Basic

/-!
# Dates and times

Days of the Gregorian calendar, and moments with an optional offset from universal time. A day
is made only from a year, a month and a day of the month that exist; the fault names the first
of the three that does not.
-/

namespace StyleTypings

/-- Why fields do not make a date or a time. -/
inductive CalendarFault where
  /-- The year is not one of 1 to 9999. -/
  | year (given : Nat)
  /-- The month is not one of 1 to 12. -/
  | month
  /-- The month has no such day. -/
  | day
  /-- The hour is not one of 0 to 23. -/
  | hour
  /-- The minute is not one of 0 to 59. -/
  | minute
  /-- The second is not one of 0 to 59. -/
  | second
  /-- The offset, in minutes, reaches a whole day. -/
  | offset (minutes : Int)
  deriving DecidableEq, Repr

namespace Calendar

/-- Whether a year has a leap day. -/
def isLeap (year : Nat) : Bool := year % 4 == 0 && (year % 100 != 0 || year % 400 == 0)

/-- How many days a month has. -/
def daysIn (year month : Nat) : Nat :=
  if month = 2 then (if isLeap year then 29 else 28)
  else if month = 4 ∨ month = 6 ∨ month = 9 ∨ month = 11 then 30
  else 31

/-- A number of minutes as days, and seconds of the last day, in the notation of a span. -/
def spanText (minutes : Int) : Text :=
  let days := Int.fdiv minutes 1440
  let seconds := 60 * Int.fmod minutes 1440
  let parts := (if days = 0 then [] else ["days=".toText ++ Text.ofInt days]) ++
    (if seconds = 0 then [] else ["seconds=".toText ++ Text.ofInt seconds])
  "datetime.timedelta(".toText ++
    (if parts.isEmpty then "0".toText else Text.join [',', ' '] parts) ++ [')']

end Calendar

/-- The wording of a fault. -/
def CalendarFault.message : CalendarFault → Text
  | .year given => "year ".toText ++ Text.ofNat given ++ " is out of range".toText
  | .month => "month must be in 1..12".toText
  | .day => "day is out of range for month".toText
  | .hour => "hour must be in 0..23".toText
  | .minute => "minute must be in 0..59".toText
  | .second => "second must be in 0..59".toText
  | .offset minutes =>
    ("offset must be a timedelta strictly between -timedelta(hours=24) and " ++
      "timedelta(hours=24), not ").toText ++ Calendar.spanText minutes

/-- A day. -/
structure Date where
  /-- The year. -/
  year : Nat
  /-- The month, from one. -/
  month : Nat
  /-- The day of the month, from one. -/
  day : Nat
  deriving DecidableEq, Repr

namespace Date

/-- The day with these fields. -/
def make (year month day : Nat) : Except CalendarFault Date :=
  if year < 1 ∨ 9999 < year then .error (.year year)
  else if month < 1 ∨ 12 < month then .error .month
  else if day < 1 ∨ Calendar.daysIn year month < day then .error .day
  else .ok ⟨year, month, day⟩

/-- Year, month and day with hyphens between them. -/
def text (date : Date) : Text :=
  Text.zeroPadded 4 (Text.ofNat date.year) ++
    .char '-' :: Text.zeroPadded 2 (Text.ofNat date.month) ++
    .char '-' :: Text.zeroPadded 2 (Text.ofNat date.day)

/-- The day in the notation used inside lists. -/
def literal (date : Date) : Text :=
  "datetime.date(".toText ++
    Text.join [',', ' '] ([date.year, date.month, date.day].map Text.ofNat) ++ [')']

/-- Days since a fixed day long ago; it orders dates and measures their distance. -/
def number (date : Date) : Nat :=
  let y := date.year - 1
  365 * y + y / 4 - y / 100 + y / 400 + date.day +
    (List.range (date.month - 1)).foldl (fun sum m => sum + Calendar.daysIn date.year (m + 1)) 0

end Date

/-- A time of a day. -/
structure Moment where
  /-- The day. -/
  date : Date
  /-- The hour, from zero. -/
  hour : Nat
  /-- The minute, from zero. -/
  minute : Nat
  /-- The second, from zero. -/
  second : Nat
  /-- Millionths of a second. -/
  micro : Nat
  /-- Minutes ahead of universal time, if known. -/
  offset : Option Int
  deriving DecidableEq, Repr

namespace Moment

/-- The moment with these fields. The offset is looked at first. -/
def make (year month day hour minute second micro : Nat) (offset : Option Int) :
    Except CalendarFault Moment :=
  match offset with
  | some minutes =>
    if minutes.natAbs < 1440 then build (some minutes) else .error (.offset minutes)
  | none => build none
where
  /-- The moment with a checked offset. -/
  build (offset : Option Int) : Except CalendarFault Moment :=
    match Date.make year month day with
    | .error fault => .error fault
    | .ok date =>
      if 23 < hour then .error .hour
      else if 59 < minute then .error .minute
      else if 59 < second then .error .second
      else .ok ⟨date, hour, minute, second, micro, offset⟩

/-- An offset as a sign, hours and minutes. -/
def offsetText (minutes : Int) : Text :=
  (if minutes < 0 then .char '-' else .char '+') ::
    Text.zeroPadded 2 (Text.ofNat (minutes.natAbs / 60)) ++
    .char ':' :: Text.zeroPadded 2 (Text.ofNat (minutes.natAbs % 60))

/-- The day, the time and, where known, the offset. -/
def text (moment : Moment) : Text :=
  moment.date.text ++ .char ' ' :: Text.zeroPadded 2 (Text.ofNat moment.hour) ++
    .char ':' :: Text.zeroPadded 2 (Text.ofNat moment.minute) ++
    .char ':' :: Text.zeroPadded 2 (Text.ofNat moment.second) ++
    (if moment.micro = 0 then [] else .char '.' :: Text.zeroPadded 6 (Text.ofNat moment.micro)) ++
    (match moment.offset with
      | none => []
      | some minutes => offsetText minutes)

/-- The moment in the notation used inside lists. Seconds and their fractions are left out when
nothing behind them is set. -/
def literal (moment : Moment) : Text :=
  let seconds :=
    if moment.micro ≠ 0 then [moment.second, moment.micro]
    else if moment.second ≠ 0 then [moment.second] else []
  let fields := [moment.date.year, moment.date.month, moment.date.day, moment.hour,
    moment.minute] ++ seconds
  let zone := match moment.offset with
    | none => []
    | some minutes =>
      ["tzinfo=datetime.timezone".toText ++
        (if minutes = 0 then ".utc".toText
        else .char '(' :: Calendar.spanText minutes ++ [')'])]
  "datetime.datetime(".toText ++ Text.join [',', ' '] (fields.map Text.ofNat ++ zone) ++ [')']

/-- Millionths of a second since a fixed moment long ago, in universal time where the offset is
known. -/
def instant (moment : Moment) : Int :=
  let minutes : Int := (moment.date.number * 24 + moment.hour : Nat) * 60 + moment.minute -
    moment.offset.getD 0
  (minutes * 60 + moment.second) * 1000000 + moment.micro

end Moment

end StyleTypings
