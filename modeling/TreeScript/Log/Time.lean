import TreeScript.Calendar

/-! # Times on log lines

A clock is read once, in milliseconds since the beginning of 1970. By default a line shows date,
time and milliseconds; a format may ask for other parts, each by a percent sign and a letter.
-/

namespace TreeScript.Log

/-- The year, month and day that is a number of days after the beginning of 1970. Years are counted
from March on, so that the leap day is the last day of a year of 365 or 366 days. -/
def dateOf (days : Nat) : Nat × Nat × Nat :=
  let shifted := days + 719468
  let era := shifted / 146097
  let dayOfEra := shifted % 146097
  let yearOfEra := (dayOfEra - dayOfEra / 1460 + dayOfEra / 36524 - dayOfEra / 146096) / 365
  let dayOfYear := dayOfEra - (365 * yearOfEra + yearOfEra / 4 - yearOfEra / 100)
  let month := (5 * dayOfYear + 2) / 153
  let day := dayOfYear - (153 * month + 2) / 5 + 1
  let year := yearOfEra + era * 400
  if month < 10 then (year, month + 3, day) else (year + 1, month - 9, day)

/-- A time, in milliseconds since the beginning of 1970, as date and time of day. -/
def timeText (milliseconds : Nat) : String :=
  let seconds := milliseconds / 1000
  let (year, month, day) := dateOf (seconds / 86400)
  let ofDay := seconds % 86400
  let date := "-".intercalate [zeroPadded 4 year, zeroPadded 2 month, zeroPadded 2 day]
  let time := ":".intercalate
    [zeroPadded 2 (ofDay / 3600), zeroPadded 2 (ofDay / 60 % 60), zeroPadded 2 (ofDay % 60)]
  date ++ " " ++ time ++ "," ++ zeroPadded 3 (milliseconds % 1000)

def weekdayNames : List String :=
  ["Sunday", "Monday", "Tuesday", "Wednesday", "Thursday", "Friday", "Saturday"]

def monthNames : List String :=
  ["January", "February", "March", "April", "May", "June", "July", "August", "September",
   "October", "November", "December"]

/-- The first three letters of a name. -/
def short (name : String) : String := String.ofList (name.toList.take 3)

/-- A number with leading blanks up to two characters. -/
def blankPadded (n : Nat) : String := if n < 10 then " " ++ toString n else toString n

/-- The part of a time that a letter asks for; other letters ask for nothing. -/
def timePart? (milliseconds : Nat) (letter : Char) : Option String :=
  let seconds := milliseconds / 1000
  let days := seconds / 86400
  let (year, month, day) := dateOf days
  let hour := seconds % 86400 / 3600
  let minute := seconds % 3600 / 60
  let second := seconds % 60
  let weekday := (days + 4) % 7
  let dayOfYear := (List.range (month - 1)).foldl (fun days n => days + daysInMonth year (n + 1)) day
  let weekdayName := weekdayNames.getD weekday ""
  let monthName := monthNames.getD (month - 1) ""
  let two := zeroPadded 2
  let halfDay := if hour % 12 = 0 then 12 else hour % 12
  let time := ":".intercalate [two hour, two minute, two second]
  match letter with
  | 'Y' => some (toString year)
  | 'C' => some (two (year / 100))
  | 'y' => some (two (year % 100))
  | 'm' => some (two month)
  | 'd' => some (two day)
  | 'e' => some (blankPadded day)
  | 'H' => some (two hour)
  | 'k' => some (blankPadded hour)
  | 'I' => some (two halfDay)
  | 'l' => some (blankPadded halfDay)
  | 'M' => some (two minute)
  | 'S' => some (two second)
  | 'p' => some (if hour < 12 then "AM" else "PM")
  | 'P' => some (if hour < 12 then "am" else "pm")
  | 'j' => some (zeroPadded 3 dayOfYear)
  | 'a' => some (short weekdayName)
  | 'A' => some weekdayName
  | 'b' | 'h' => some (short monthName)
  | 'B' => some monthName
  | 'w' => some (toString weekday)
  | 'u' => some (toString (if weekday = 0 then 7 else weekday))
  | 'U' => some (two ((dayOfYear + 6 - weekday) / 7))
  | 'W' => some (two ((dayOfYear + 6 - (weekday + 6) % 7) / 7))
  | 's' => some (toString seconds)
  | 'D' | 'x' => some ("/".intercalate [two month, two day, two (year % 100)])
  | 'F' => some ("-".intercalate [toString year, two month, two day])
  | 'T' | 'X' => some time
  | 'R' => some (two hour ++ ":" ++ two minute)
  | 'r' => some (":".intercalate [two halfDay, two minute, two second] ++
      (if hour < 12 then " AM" else " PM"))
  | 'c' => some (" ".intercalate
      [short weekdayName, short monthName, blankPadded day, time, toString year])
  | 'z' => some "+0000"
  | 'Z' => some "UTC"
  | 'n' => some "\n"
  | 't' => some "\t"
  | '%' => some "%"
  | _ => none

/-- A text with its parts of a time filled in. -/
def fillTime (milliseconds : Nat) : List Char → List Char
  | '%' :: letter :: rest =>
    match timePart? milliseconds letter with
    | some part => part.toList ++ fillTime milliseconds rest
    | none => '%' :: letter :: fillTime milliseconds rest
  | c :: rest => c :: fillTime milliseconds rest
  | [] => []

/-- A reading of the clock. -/
structure Clock where
  milliseconds : Nat
  /-- How the reading is shown by default. -/
  stamp : String

namespace Clock

def ofMilliseconds (milliseconds : Nat) : Clock := ⟨milliseconds, timeText milliseconds⟩

/-- A reading in a format; none or an empty one is the default. -/
def text (clock : Clock) : Option String → String
  | none | some "" => clock.stamp
  | some format => String.ofList (fillTime clock.milliseconds format.toList)

end Clock

end TreeScript.Log
