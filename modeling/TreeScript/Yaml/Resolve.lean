import TreeScript.Numeric.Decimal
import TreeScript.Yaml.Timestamp

/-! # Meaning of plain scalars

A plain scalar is null, a truth value, a number, a date or a moment if it is spelled like one, and a
text otherwise. Integers may be binary, octal or hexadecimal, or counted in sixties; doubles need a
point, and their exponents a sign. Underscores in numbers are ignored.
-/

namespace TreeScript.Yaml

def nullNames : List String := ["", "~", "null", "Null", "NULL"]

def trueNames : List String :=
  ["yes", "Yes", "YES", "true", "True", "TRUE", "on", "On", "ON"]

def falseNames : List String :=
  ["no", "No", "NO", "false", "False", "FALSE", "off", "Off", "OFF"]

/-- The digits of a base in a text, where underscores count for nothing. -/
def digitsIn? (base : Nat) (cs : List Char) : Option (List Nat) :=
  (cs.filter (· != '_')).mapM fun c =>
    let value :=
      if '0' ≤ c ∧ c ≤ '9' then some (c.toNat - '0'.toNat)
      else if 'a' ≤ c ∧ c ≤ 'f' then some (c.toNat - 'a'.toNat + 10)
      else if 'A' ≤ c ∧ c ≤ 'F' then some (c.toNat - 'A'.toNat + 10)
      else none
    value.filter (· < base)

def valueIn (base : Nat) (digits : List Nat) : Nat :=
  digits.foldl (fun value digit => value * base + digit) 0

/-- A number of digits, at least one of them. -/
def natural? (base : Nat) (cs : List Char) : Option Nat := do
  let digits ← digitsIn? base cs
  if digits.isEmpty then none else some (valueIn base digits)

/-- A number after the mark of its base; underscores alone look like one and are none. -/
def marked? (base : Nat) (cs : List Char) : Option (Except BadScalar Nat) := do
  let digits ← digitsIn? base cs
  if !digits.isEmpty then some (.ok (valueIn base digits))
  else if cs.isEmpty then none
  else some (.error (.notInteger base ""))

/-- A part of a number in sixties: one digit, or two of which the first is at most five. -/
def sixtieth? (cs : List Char) : Option Nat :=
  match cs with
  | [_] => if cs.contains '_' then none else natural? 10 cs
  | [a, _] => if '0' ≤ a ∧ a ≤ '5' ∧ !cs.contains '_' then natural? 10 cs else none
  | _ => none

/-- A text cut at its colons. -/
def atColons (cs : List Char) : List (List Char) :=
  cs.foldr (fun c parts =>
    if c == ':' then [] :: parts
    else match parts with
      | part :: rest => (c :: part) :: rest
      | [] => [[c]]) [[]]

/-- An unsigned integer. -/
def unsigned? (cs : List Char) : Option (Except BadScalar Nat) :=
  match cs with
  | ['0'] => some (.ok 0)
  | '0' :: 'b' :: digits => marked? 2 digits
  | '0' :: 'x' :: digits => marked? 16 digits
  | '0' :: digits => (digitsIn? 8 digits).map fun digits => .ok (valueIn 8 digits)
  | first :: _ =>
    if '1' ≤ first ∧ first ≤ '9' then
      match atColons cs with
      | [_] => (natural? 10 cs).map .ok
      | whole :: parts => do
        let value ← natural? 10 whole
        let parts ← parts.mapM sixtieth?
        return .ok (parts.foldl (fun value part => value * 60 + part) value)
      | [] => none
    else none
  | [] => none

/-- A sign and what follows it; `true` is minus. -/
def splitSign (cs : List Char) : Bool × List Char :=
  match cs with
  | '-' :: rest => (true, rest)
  | '+' :: rest => (false, rest)
  | _ => (false, cs)

def integer? (cs : List Char) : Option (Except BadScalar Int) :=
  let (negative, rest) := splitSign cs
  (unsigned? rest).map fun n => n.map fun n => if negative then -(n : Int) else n

/-- A signed exponent, or nothing at all. -/
def exponent? (cs : List Char) : Option Int :=
  match cs with
  | [] => some 0
  | e :: sign :: digits =>
    if (e == 'e' || e == 'E') && (sign == '+' || sign == '-') && !digits.contains '_' then
      (natural? 10 digits).map fun n => if sign == '-' then -(n : Int) else n
    else none
  | _ => none

def isDigitOrUnderscore (c : Char) : Bool := c.isDigit || c == '_'

/-- The double with the given digits before and after the point. -/
def double (whole fraction : List Char) (exponent : Int) : Binary64 :=
  let fraction := fraction.filter (· != '_')
  let digits := (whole.filter (· != '_') ++ fraction).map fun c => c.toNat - '0'.toNat
  Binary64.ofDecimal false ⟨valueIn 10 digits, exponent - fraction.length⟩

/-- The sum of some parts, of which each counts sixty times as much as the next. -/
def sumOfSixties (parts : List Binary64) : Binary64 :=
  (parts.reverse.foldl
    (fun (total, unit) part => (total + part * Binary64.ofInt unit, unit * 60))
    (Binary64.zero false, (1 : Int))).1

/-- A double in sixties: integers between colons, and a last part with a point. -/
def inSixties? (cs : List Char) : Option Binary64 :=
  match atColons cs with
  | whole :: parts@(_ :: _) => do
    let last ← parts.getLast?
    let lastWhole := last.takeWhile (· != '.')
    let fraction ← match last.dropWhile (· != '.') with
      | '.' :: fraction => if fraction.all isDigitOrUnderscore then some fraction else none
      | _ => none
    let first ← if whole.head?.any Char.isDigit then natural? 10 whole else none
    let middle ← parts.dropLast.mapM sixtieth?
    let _ ← sixtieth? lastWhole
    let doubles := (first :: middle).map fun (n : Nat) => Binary64.ofInt n
    return sumOfSixties (doubles ++ [double lastWhole fraction 0])
  | _ => none

/-- An unsigned double; one that starts with its point stands without a sign. -/
def unsignedDouble? (signed : Bool) (cs : List Char) : Option Binary64 :=
  let whole := cs.takeWhile isDigitOrUnderscore
  match whole, cs.drop whole.length with
  | first :: _, '.' :: rest =>
    let fraction := rest.takeWhile isDigitOrUnderscore
    if first == '_' then none
    else (exponent? (rest.drop fraction.length)).map (double whole fraction)
  | [], '.' :: rest =>
    let fraction := rest.takeWhile isDigitOrUnderscore
    if signed || !fraction.head?.any Char.isDigit then none
    else (exponent? (rest.drop fraction.length)).map (double [] fraction)
  | _ :: _, ':' :: _ => inSixties? cs
  | _, _ => none

def double? (text : String) : Option Binary64 :=
  let cs := text.toList
  let (negative, rest) := splitSign cs
  let signed := rest.length < cs.length
  if [".inf", ".Inf", ".INF"].contains (String.ofList rest) then some (.infinite negative)
  else if [".nan", ".NaN", ".NAN"].contains text then some .nan
  else (unsignedDouble? signed rest).map fun d => if negative then -d else d

/-- The marks for merging and for default values, which are no scalars. -/
def isMark (text : String) : Bool := text == "<<" || text == "="

/-- The meaning of a plain scalar. -/
def resolve (text : String) : Except Problem Scalar :=
  if nullNames.contains text then .ok .null
  else if trueNames.contains text then .ok (.bool true)
  else if falseNames.contains text then .ok (.bool false)
  else if isMark text then .error .malformed
  else match integer? text.toList, double? text, timestamp? text.toList with
    | some n, _, _ => (n.map Scalar.int).mapError .badScalar
    | none, some d, _ => .ok (.float d)
    | none, none, some time => time.mapError fun cause => .badScalar (.calendar cause)
    | none, none, none => .ok (.string text)

end TreeScript.Yaml
