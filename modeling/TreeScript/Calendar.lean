/-! # Dates and moments

A date is a day of the calendar, in the year 1 or later. A moment is a time of a day; it may tell
how far its clock is ahead of universal time, and two moments that do are the same if they denote
the same instant.
-/

namespace TreeScript

/-- A number with leading zeros up to a width. -/
def zeroPadded (width n : Nat) : String :=
  let digits := Nat.toDigits 10 n
  String.ofList (List.replicate (width - digits.length) '0' ++ digits)

/-- A length of time in seconds as messages quote it: whole days, and seconds within a day. -/
def durationText (seconds : Int) : String :=
  let part (name : String) (n : Int) : List String := if n = 0 then [] else [s!"{name}={n}"]
  let parts := part "days" (seconds.fdiv 86400) ++ part "seconds" (seconds.fmod 86400)
  let listed := if parts.isEmpty then "0" else ", ".intercalate parts
  s!"datetime.timedelta({listed})"

/-- What is wrong with the parts of a date or moment. -/
inductive CalendarError where
  | year (year : Nat)
  | month
  | day
  | hour
  | minute
  | second
  /-- A clock that is a day or more ahead or behind, by its offset in seconds. -/
  | offset (seconds : Int)
  deriving DecidableEq

def CalendarError.message : CalendarError → String
  | year n => s!"year {n} is out of range"
  | month => "month must be in 1..12"
  | day => "day is out of range for month"
  | hour => "hour must be in 0..23"
  | minute => "minute must be in 0..59"
  | second => "second must be in 0..59"
  | offset seconds =>
    "offset must be a timedelta strictly between -timedelta(hours=24) and timedelta(hours=24), not "
      ++ durationText seconds ++ "."

def isLeapYear (year : Nat) : Bool :=
  year % 4 == 0 && (year % 100 != 0 || year % 400 == 0)

def daysInMonth (year month : Nat) : Nat :=
  match month with
  | 2 => if isLeapYear year then 29 else 28
  | 4 | 6 | 9 | 11 => 30
  | _ => 31

structure Date where
  year : Nat
  month : Nat
  day : Nat
  isYear : 1 ≤ year
  isMonth : 1 ≤ month ∧ month ≤ 12
  isDay : 1 ≤ day ∧ day ≤ daysInMonth year month
  deriving DecidableEq

namespace Date

def ofParts (year month day : Nat) : Except CalendarError Date :=
  if isYear : 1 ≤ year then
    if isMonth : 1 ≤ month ∧ month ≤ 12 then
      if isDay : 1 ≤ day ∧ day ≤ daysInMonth year month then
        .ok ⟨year, month, day, isYear, isMonth, isDay⟩
      else .error .day
    else .error .month
  else .error (.year year)

/-- The number of a day within its year, from one on. -/
def dayOfYear (date : Date) : Nat :=
  (List.range (date.month - 1)).foldl (fun days n => days + daysInMonth date.year (n + 1)) date.day

/-- The number of a day, counted from the first day of the year 1, which is day one. -/
def dayNumber (date : Date) : Nat :=
  let past := date.year - 1
  365 * past + past / 4 - past / 100 + past / 400 + date.dayOfYear

/-- A date as plain text. -/
def text (date : Date) : String :=
  "-".intercalate [zeroPadded 4 date.year, zeroPadded 2 date.month, zeroPadded 2 date.day]

/-- The parts of a date as messages list them. -/
def parts (date : Date) : List String :=
  [date.year, date.month, date.day].map fun n => toString n

/-- A date as messages quote it. -/
def display (date : Date) : String :=
  let listed := ", ".intercalate date.parts
  s!"datetime.date({listed})"

end Date

structure Moment where
  date : Date
  hour : Nat
  minute : Nat
  second : Nat
  microsecond : Nat
  /-- The seconds by which the clock is ahead of universal time, if that is known. -/
  offset : Option Int
  isHour : hour < 24
  isMinute : minute < 60
  isSecond : second < 60
  isMicrosecond : microsecond < 1000000
  isOffset : ∀ seconds ∈ offset, seconds.natAbs < 86400
  deriving DecidableEq

namespace Moment

/-- The microseconds since the beginning of the year 1 on the moment's own clock. -/
def localTime (moment : Moment) : Int :=
  let seconds := (moment.date.dayNumber * 24 + moment.hour) * 60 + moment.minute
  (seconds * 60 + moment.second) * 1000000 + moment.microsecond

/-- The microseconds since the beginning of the year 1 on the clock of universal time. -/
def instant (moment : Moment) : Int :=
  moment.localTime - moment.offset.getD 0 * 1000000

/-- Whether two moments are the same: by their instants if both tell their offset, literally if none
does. -/
def same (left right : Moment) : Bool :=
  left.offset.isSome == right.offset.isSome && left.instant == right.instant

/-- An offset as plain text. -/
def offsetText (seconds : Int) : String :=
  let minutes := seconds.natAbs / 60
  (if seconds < 0 then "-" else "+") ++ zeroPadded 2 (minutes / 60) ++ ":"
    ++ zeroPadded 2 (minutes % 60)

/-- A moment as plain text. -/
def text (moment : Moment) : String :=
  let time := ":".intercalate
    [zeroPadded 2 moment.hour, zeroPadded 2 moment.minute, zeroPadded 2 moment.second]
  let fraction :=
    if moment.microsecond = 0 then "" else "." ++ zeroPadded 6 moment.microsecond
  let offset := match moment.offset with
    | some seconds => offsetText seconds
    | none => ""
  moment.date.text ++ " " ++ time ++ fraction ++ offset

/-- A moment as messages quote it; seconds and their fraction are left out if they are zero. -/
def display (moment : Moment) : String :=
  let small :=
    if moment.microsecond ≠ 0 then [moment.second, moment.microsecond]
    else if moment.second ≠ 0 then [moment.second] else []
  let zone := match moment.offset with
    | some 0 => ["tzinfo=datetime.timezone.utc"]
    | some seconds => ["tzinfo=datetime.timezone(" ++ durationText seconds ++ ")"]
    | none => []
  let numbers := (moment.hour :: moment.minute :: small).map fun n => toString n
  let listed := ", ".intercalate (moment.date.parts ++ numbers ++ zone)
  s!"datetime.datetime({listed})"

/-- A clock's offset, which is less than a day. -/
def checkOffset (offset : Option Int) :
    Except CalendarError { offset : Option Int // ∀ seconds ∈ offset, seconds.natAbs < 86400 } :=
  match offset with
  | none => .ok ⟨none, by simp⟩
  | some seconds =>
    if small : seconds.natAbs < 86400 then .ok ⟨some seconds, by simpa using small⟩
    else .error (.offset seconds)

/-- A moment from its parts; the offset is looked at first. The microseconds are taken modulo one
second. -/
def ofParts (year month day hour minute second microsecond : Nat) (offset : Option Int) :
    Except CalendarError Moment := do
  let ⟨offset, isOffset⟩ ← checkOffset offset
  let date ← Date.ofParts year month day
  if isHour : hour < 24 then
    if isMinute : minute < 60 then
      if isSecond : second < 60 then
        return ⟨date, hour, minute, second, microsecond % 1000000, offset, isHour, isMinute,
          isSecond, Nat.mod_lt _ (by decide), isOffset⟩
      else throw .second
    else throw .minute
  else throw .hour

end Moment

end TreeScript
