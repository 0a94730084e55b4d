import StyleTypings.Calendar
import StyleTypings.Decimal.Powers

/-!
# Dates and times in YAML

The fields of a date, and of a time behind it, as they stand in a text. Nothing is said yet on
whether the fields make a day or a time that exists.
-/

namespace StyleTypings.Yaml

/-- The time behind a date. -/
structure TimeFields where
  /-- The hour. -/
  hour : Nat
  /-- The minute. -/
  minute : Nat
  /-- The second. -/
  second : Nat
  /-- The digits behind the point of the second. -/
  places : Text
  /-- Minutes ahead of universal time, if they are given. -/
  offset : Option Int
  deriving DecidableEq, Repr

/-- The fields of a date, and of a time behind it. -/
structure Timestamp where
  /-- The year. -/
  year : Nat
  /-- The month. -/
  month : Nat
  /-- The day. -/
  day : Nat
  /-- The time, if there is one. -/
  time : Option TimeFields
  deriving DecidableEq, Repr

namespace Timestamp

/-- The number that digits stand for. -/
def number (digits : Text) : Nat := digits.foldl (fun n d => n * 10 + (d.toNat - 48)) 0

/-- A number of at least `least` and at most `most` digits, and what follows. -/
def digits? (least most : Nat) (text : Text) : Option (Nat × Text) :=
  let run := (text.takeWhile CodePoint.isDigit).take most
  if run.length < least then none else some (number run, text.drop run.length)

/-- What follows a character that must stand in front. -/
def behind? (mark : CodePoint) : Text → Option Text
  | c :: text => if c = mark then some text else none
  | [] => none

/-- Whether a character is a space or a tab. -/
def isBlankOrTab (c : CodePoint) : Bool := c == ' ' || c == '\t'

/-- The offset behind a time: absent, universal time, or a sign with hours and minutes. -/
def offset? (text : Text) : Option (Option Int) :=
  if text.isEmpty then some none
  else match text.dropWhile isBlankOrTab with
    | ['Z'] => some (some 0)
    | sign :: rest => do
      if sign != '+' && sign != '-' then none
      let (hours, rest) ← digits? 1 2 rest
      let minutes ← match rest with
        | [] => some 0
        | ':' :: rest => do
          let (minutes, rest) ← digits? 2 2 rest
          if rest.isEmpty then some minutes else none
        | _ => none
      let size : Int := hours * 60 + minutes
      return some (if sign == '-' then -size else size)
    | [] => none

/-- The time in front of an offset. -/
def time? (text : Text) : Option TimeFields := do
  let (hour, rest) ← digits? 1 2 text
  let (minute, rest) ← digits? 2 2 (← behind? ':' rest)
  let (second, rest) ← digits? 2 2 (← behind? ':' rest)
  let (places, rest) := match rest with
    | '.' :: rest => (rest.takeWhile CodePoint.isDigit, rest.dropWhile CodePoint.isDigit)
    | rest => ([], rest)
  let offset ← offset? rest
  return ⟨hour, minute, second, places, offset⟩

/-- The fields in a text. A date alone may have a month or a day of one digit. -/
def ofText? (text : Text) : Option Timestamp := do
  let (year, rest) ← digits? 4 4 text
  let (month, rest) ← digits? 1 2 (← behind? '-' rest)
  let (day, rest) ← digits? 1 2 (← behind? '-' rest)
  match rest with
  | [] => return ⟨year, month, day, none⟩
  | c :: back =>
    if c == 'T' || c == 't' then return ⟨year, month, day, some (← time? back)⟩
    else if isBlankOrTab c then
      return ⟨year, month, day, some (← time? (back.dropWhile isBlankOrTab))⟩
    else none

/-- Whether bare text is taken for a date or a time. A date alone needs two digits for the month
and for the day. -/
def isPlain (text : Text) : Bool :=
  match ofText? text with
  | none => false
  | some stamp => stamp.time.isSome || text.length == 10

/-- Millionths in digits behind a point; further digits do not count. -/
def micros (places : Text) : Nat :=
  number (places.take 6) * tenTo (6 - (places.take 6).length)

/-- The day or the moment that the fields make. -/
def resolve (stamp : Timestamp) : Except CalendarFault (Date ⊕ Moment) :=
  match stamp.time with
  | none => (Date.make stamp.year stamp.month stamp.day).map .inl
  | some time =>
    (Moment.make stamp.year stamp.month stamp.day time.hour time.minute time.second
      (micros time.places) time.offset).map .inr

end Timestamp

end StyleTypings.Yaml
