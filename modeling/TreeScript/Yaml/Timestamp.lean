import TreeScript.Document.Basic
import TreeScript.Yaml.Problem

/-! # Plain scalars spelled like a date or a moment

A date has four digits for the year and two each for month and day. A moment adds the time of day,
which may have a fraction and an offset from universal time; then one digit suffices for the month,
the day and the hour.
-/

namespace TreeScript.Yaml

/-- A number of as many digits as allowed, and the rest. -/
def fixedDigits? (least most : Nat) (cs : List Char) : Option (Nat × List Char) :=
  let digits := cs.takeWhile Char.isDigit
  if least ≤ digits.length ∧ digits.length ≤ most then
    some (digits.foldl (fun n c => n * 10 + (c.toNat - '0'.toNat)) 0, cs.drop digits.length)
  else none

/-- The rest of a text after a mark. -/
def after? (mark : Char) : List Char → Option (List Char)
  | c :: rest => if c == mark then some rest else none
  | [] => none

/-- The first six digits of a fraction, as millionths. -/
def millionths (digits : List Char) : Nat :=
  ((digits ++ List.replicate 6 '0').take 6).foldl (fun n c => n * 10 + (c.toNat - '0'.toNat)) 0

/-- An offset from universal time in seconds at the end of a text, which may be missing. -/
def offset? (cs : List Char) : Option (Option Int) :=
  match cs with
  | [] => some none
  | cs =>
    match cs.dropWhile fun c => c == ' ' || c == '\t' with
    | ['Z'] => some (some 0)
    | sign :: rest => do
      if sign != '-' && sign != '+' then none
      let (hours, rest) ← fixedDigits? 1 2 rest
      let minutes ← match rest with
        | [] => some 0
        | rest => do
          let (minutes, rest) ← fixedDigits? 2 2 (← after? ':' rest)
          if rest.isEmpty then some minutes else none
      let seconds : Int := (hours * 60 + minutes) * 60
      return some (if sign == '-' then -seconds else seconds)
    | [] => none

/-- The time of day after a date: hour, minute, second, microsecond and offset. -/
def timeOfDay? (cs : List Char) : Option (Nat × Nat × Nat × Nat × Option Int) := do
  let cs ← match cs with
    | 'T' :: rest | 't' :: rest => some rest
    | c :: rest =>
      if c == ' ' || c == '\t' then some (rest.dropWhile fun c => c == ' ' || c == '\t') else none
    | [] => none
  let (hour, cs) ← fixedDigits? 1 2 cs
  let (minute, cs) ← fixedDigits? 2 2 (← after? ':' cs)
  let (second, cs) ← fixedDigits? 2 2 (← after? ':' cs)
  let (fraction, cs) := match cs with
    | '.' :: rest => (rest.takeWhile Char.isDigit, rest.dropWhile Char.isDigit)
    | cs => ([], cs)
  let offset ← offset? cs
  return (hour, minute, second, millionths fraction, offset)

/-- A date or moment, if a text is one; the month and the day of a date may have one digit. -/
def calendarTime? (cs : List Char) : Option (Except CalendarError Scalar) := do
  let (year, rest) ← fixedDigits? 4 4 cs
  let (month, rest) ← fixedDigits? 1 2 (← after? '-' rest)
  let (day, rest) ← fixedDigits? 1 2 (← after? '-' rest)
  if rest.isEmpty then some ((Date.ofParts year month day).map Scalar.date)
  else do
    let (hour, minute, second, microsecond, offset) ← timeOfDay? rest
    let moment := Moment.ofParts year month day hour minute second microsecond offset
    some (moment.map Scalar.moment)

/-- A date or moment, if a plain text is spelled like one; the month and the day of a date have two
digits then. -/
def timestamp? (cs : List Char) : Option (Except CalendarError Scalar) :=
  if cs.length < 10 then none else calendarTime? cs

end TreeScript.Yaml
