import Multitarget.Text.Integer

/-!
# Days and moments

Days of the calendar with years 1 to 9999, and moments of a day to the
microsecond, with or without a distance to universal time.
-/

namespace Multitarget

/-- A day of the calendar. -/
structure Date where
  year : Nat
  month : Nat
  day : Nat
  deriving DecidableEq, Repr

/-- A moment of a day; the offset is its distance to universal time in minutes. -/
structure Moment where
  date : Date
  hour : Nat
  minute : Nat
  second : Nat
  microsecond : Nat
  offset : Option Int
  deriving DecidableEq, Repr

/-- Why there is no such day or moment. -/
inductive CalendarError where
  | year (year : Nat)
  | month
  | day
  | hour
  | minute
  | second
  /-- The distance to universal time, in minutes, is a day or more. -/
  | offset (minutes : Int)
  deriving DecidableEq, Repr

namespace Date

/-- Every fourth year is a leap year, of full centuries every fourth. -/
def isLeap (year : Nat) : Bool :=
  year % 4 == 0 && (year % 100 != 0 || year % 400 == 0)

/-- The number of days of a month. -/
def daysIn (year month : Nat) : Nat :=
  if month = 2 then (if isLeap year then 29 else 28)
  else if month = 4 ∨ month = 6 ∨ month = 9 ∨ month = 11 then 30
  else 31

/-- The day with these numbers, if the calendar has it. -/
def check (year month day : Nat) : Except CalendarError Date :=
  if year = 0 ∨ 9999 < year then .error (.year year)
  else if month = 0 ∨ 12 < month then .error .month
  else if day = 0 ∨ daysIn year month < day then .error .day
  else .ok ⟨year, month, day⟩

end Date

/-- The moment with these numbers, if there is one. The offset is looked at first. -/
def Moment.check (year month day hour minute second microsecond : Nat) (offset : Option Int) :
    Except CalendarError Moment := do
  if let some minutes := offset then
    if minutes ≤ -1440 ∨ 1440 ≤ minutes then .error (.offset minutes)
  let date ← Date.check year month day
  if 23 < hour then .error .hour
  if 59 < minute then .error .minute
  if 59 < second then .error .second
  return ⟨date, hour, minute, second, microsecond, offset⟩

/-- The number of days before a month of a year. -/
def Date.daysBefore (year : Nat) : (month : Nat) → Nat
  | 0 => 0
  | 1 => 0
  | month + 2 => Date.daysBefore year (month + 1) + Date.daysIn year (month + 1)

/-- The number of a day; the first day of the calendar has number one. -/
def Date.ordinal (date : Date) : Nat :=
  let years := date.year - 1
  365 * years + years / 4 - years / 100 + years / 400
    + Date.daysBefore date.year date.month + date.day

/-- The minutes from the start of the calendar to a moment, in universal time as far as the
distance to it is known. -/
def Moment.minutes (moment : Moment) : Int :=
  ((moment.date.ordinal * 24 + moment.hour) * 60 + moment.minute : Nat) - moment.offset.getD 0

/-- Whether two moments are the same one. With and without a distance to universal time they never
are. -/
def Moment.sameInstant (left right : Moment) : Bool :=
  left.offset.isSome == right.offset.isSome && left.minutes == right.minutes &&
    left.second == right.second && left.microsecond == right.microsecond

/-- A duration of minutes as whole days and the seconds of a day. -/
def showDuration (minutes : Int) : String :=
  let days := minutes.fdiv 1440
  let seconds := minutes.fmod 1440 * 60
  let text (number : Int) : String := String.ofList (Text.integer number)
  let parts :=
    (if days = 0 then [] else ["days=" ++ text days]) ++
    (if seconds = 0 then [] else ["seconds=" ++ text seconds])
  "datetime.timedelta(" ++ (if parts.isEmpty then "0" else ", ".intercalate parts) ++ ")"

/-- The wording of a calendar error. -/
def CalendarError.message : CalendarError → String
  | .year number => "year " ++ String.ofList (Text.decimal number) ++ " is out of range"
  | .month => "month must be in 1..12"
  | .day => "day is out of range for month"
  | .hour => "hour must be in 0..23"
  | .minute => "minute must be in 0..59"
  | .second => "second must be in 0..59"
  | .offset minutes =>
    "offset must be a timedelta strictly between -timedelta(hours=24) and "
      ++ "timedelta(hours=24), not " ++ showDuration minutes ++ "."

/-- The text of a day by its numbers. -/
def Date.display (date : Date) : String :=
  let text (number : Nat) : String := String.ofList (Text.decimal number)
  "datetime.date(" ++ text date.year ++ ", " ++ text date.month ++ ", " ++ text date.day ++ ")"

/-- The text of a moment by its numbers; seconds are left out when they and their fraction are
zero. -/
def Moment.display (moment : Moment) : String :=
  let text (number : Nat) : String := String.ofList (Text.decimal number)
  let numbers :=
    [moment.date.year, moment.date.month, moment.date.day, moment.hour, moment.minute] ++
    (if moment.microsecond ≠ 0 then [moment.second, moment.microsecond]
      else if moment.second ≠ 0 then [moment.second] else [])
  let zone :=
    match moment.offset with
    | none => ""
    | some 0 => ", tzinfo=datetime.timezone.utc"
    | some minutes => ", tzinfo=datetime.timezone(" ++ showDuration minutes ++ ")"
  "datetime.datetime(" ++ ", ".intercalate (numbers.map text) ++ zone ++ ")"

end Multitarget
