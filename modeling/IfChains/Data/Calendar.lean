/-
**Days and times of the calendar.**

A day has a year of four digits, and a month and a day that exist; a moment adds a time of the day
to the microsecond, and perhaps the offset of its zone. `Day.of` and `Moment.of` say which part does
not exist.
-/

namespace IfChains

/-- What is wrong with a day or a time. -/
inductive CalendarFault
  | year (value : Nat)
  | month
  | day
  | hour
  | minute
  | second
  /-- The offset of a zone is a day or longer, given in minutes. -/
  | offset (minutes : Int)
deriving DecidableEq, Repr

/-- A day. -/
structure Day where
  year : Nat
  month : Nat
  day : Nat
deriving DecidableEq, Repr

/-- The time of a day, to the microsecond. -/
structure DayTime where
  hour : Nat
  minute : Nat
  second : Nat
  fraction : Nat
deriving DecidableEq, Repr

/-- A day with a time, and the offset of its zone in minutes if it has one. -/
structure Moment where
  day : Day
  time : DayTime
  zone : Option Int
deriving DecidableEq, Repr

namespace Calendar

/-- A stretch of time written down by its days and seconds, given in minutes. -/
def stretch (minutes : Int) : String :=
  let days := Int.fdiv minutes 1440
  let seconds := 60 * (minutes - 1440 * days)
  let parts := (if days = 0 then [] else ["days=" ++ toString days]) ++
    (if seconds = 0 then [] else ["seconds=" ++ toString seconds])
  "datetime.timedelta(" ++ (if parts.isEmpty then "0" else ", ".intercalate parts) ++ ")"

/-- Whether a year has a day more than others. -/
def isLeap (year : Nat) : Bool :=
  year % 4 = 0 && (year % 100 ≠ 0 || year % 400 = 0)

/-- The number of days of a month. -/
def daysIn (year month : Nat) : Nat :=
  if month = 2 then if isLeap year then 29 else 28
  else if [4, 6, 9, 11].contains month then 30
  else 31

end Calendar

namespace CalendarFault

/-- The wording of a fault. -/
def message : CalendarFault → String
  | year value => "year " ++ toString value ++ " is out of range"
  | month => "month must be in 1..12"
  | day => "day is out of range for month"
  | hour => "hour must be in 0..23"
  | minute => "minute must be in 0..59"
  | second => "second must be in 0..59"
  | offset minutes =>
    "offset must be a timedelta strictly between -timedelta(hours=24) and timedelta(hours=24), " ++
      "not " ++ Calendar.stretch minutes ++ "."

end CalendarFault

namespace Day

/-- The day of some numbers, if it exists. -/
def of (year month day : Nat) : Except CalendarFault Day :=
  if year = 0 || 9999 < year then .error (.year year)
  else if month = 0 || 12 < month then .error .month
  else if day = 0 || Calendar.daysIn year month < day then .error .day
  else .ok ⟨year, month, day⟩

/-- A day written down. -/
def shown (day : Day) : String :=
  "datetime.date(" ++ ", ".intercalate ([day.year, day.month, day.day].map toString) ++ ")"

end Day

namespace Moment

/-- The offset of a zone in minutes, if it is shorter than a day. -/
def zoneOf (minutes : Int) : Except CalendarFault Int :=
  if minutes.natAbs < 1440 then .ok minutes else .error (.offset minutes)

/-- The moment of a day and a time, if both exist. -/
def of (year month day : Nat) (time : DayTime) (zone : Option Int) :
    Except CalendarFault Moment := do
  let day ← Day.of year month day
  if 23 < time.hour then throw .hour
  if 59 < time.minute then throw .minute
  if 59 < time.second then throw .second
  return ⟨day, time, zone⟩

/-- The offset of a zone written down. -/
def zoneShown (minutes : Int) : String :=
  "datetime.timezone" ++
    if minutes = 0 then ".utc" else "(" ++ Calendar.stretch minutes ++ ")"

/-- A moment written down: its seconds and their fraction only if there are any. -/
def shown (moment : Moment) : String :=
  let time := moment.time
  let numbers := [moment.day.year, moment.day.month, moment.day.day, time.hour, time.minute] ++
    (if time.second = 0 && time.fraction = 0 then [] else [time.second]) ++
    (if time.fraction = 0 then [] else [time.fraction])
  "datetime.datetime(" ++ ", ".intercalate (numbers.map toString) ++
    (moment.zone.elim "" fun minutes => ", tzinfo=" ++ zoneShown minutes) ++ ")"

end Moment

example : (Day.of 2024 2 29).toOption = some ⟨2024, 2, 29⟩ := by decide +kernel
example : (Day.of 2023 2 29).toOption = none := by decide +kernel

end IfChains
