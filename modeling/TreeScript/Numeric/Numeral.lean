import TreeScript.Numeric.Number
import TreeScript.Text.Blank
import TreeScript.Text.Digit
import TreeScript.Text.Quoted

/-! # Texts read as numbers

Numerals may use the decimal digits of any script, and single underscores between digits. A whole
text is read by `integer?`, `double?` and `Number.ofText`; `leadingInteger` and `leadingDouble` read
the longest numeral at the start of a text and ignore what follows.
-/

namespace TreeScript.Numeral

/-- The blanks allowed around a numeral; the information separators are not among them. -/
def isMargin (c : Char) : Bool :=
  isBlank c && !(0x1c ≤ c.toNat && c.toNat ≤ 0x1f)

def trimMargin (cs : List Char) : List Char :=
  (((cs.dropWhile isMargin).reverse).dropWhile isMargin).reverse

/-- The value of a digit in bases up to sixteen, decimal digits of any script included. -/
def digitValue? (c : Char) : Option Nat :=
  match decimalValue? c with
  | some value => some value
  | none =>
    if 'a' ≤ c ∧ c ≤ 'f' then some (c.toNat - 'a'.toNat + 10)
    else if 'A' ≤ c ∧ c ≤ 'F' then some (c.toNat - 'A'.toNat + 10)
    else none

/-- The value of a digit of the given base. -/
def digitIn? (base : Nat) (c : Char) : Option Nat :=
  (digitValue? c).filter (· < base)

/-- The number that a list of digit values denotes. -/
def ofDigits (base : Nat) (digits : List Nat) : Nat :=
  digits.foldl (fun value digit => value * base + digit) 0

/-- The digits of a text of digits, where a single underscore may stand between two of them. -/
def digits? (base : Nat) : List Char → Option (List Nat)
  | [] => none
  | [c] => (digitIn? base c).map ([·])
  | c :: '_' :: rest => do
    let digit ← digitIn? base c
    return digit :: (← digits? base rest)
  | c :: rest => do
    let digit ← digitIn? base c
    return digit :: (← digits? base rest)

/-- An optional sign and the text after it; `true` is minus. -/
def splitSign : List Char → Bool × List Char
  | '-' :: rest => (true, rest)
  | '+' :: rest => (false, rest)
  | cs => (false, cs)

def signed (negative : Bool) (n : Nat) : Int := if negative then -(n : Int) else n

/-- A decimal integer with an optional sign. -/
def integer? (cs : List Char) : Option Int := do
  let (negative, rest) := splitSign (trimMargin cs)
  let digits ← digits? 10 rest
  return signed negative (ofDigits 10 digits)

/-- How a text that is no integer of a base is reported. -/
def refusal (base : Nat) (text : String) : String :=
  s!"invalid literal for int() with base {base}: " ++ SourceText.excerpt text

/-- The base that a letter after a leading zero announces. -/
def baseOf? (c : Char) : Option Nat :=
  if c = 'x' ∨ c = 'X' then some 16
  else if c = 'o' ∨ c = 'O' then some 8
  else if c = 'b' ∨ c = 'B' then some 2
  else none

/-- An unsigned integer in a base other than ten, after the letter that announces the base; an
underscore may separate the two. -/
def based? (base : Nat) (cs : List Char) : Option Nat :=
  (digits? base (match cs with
    | '_' :: rest => rest
    | rest => rest)).map (ofDigits base)

/-- The decimal digits at the start of a text, and the rest. -/
def spanDecimals : List Char → List Nat × List Char
  | [] => ([], [])
  | c :: rest =>
    match decimalValue? c with
    | some digit =>
      let (digits, rest) := spanDecimals rest
      (digit :: digits, rest)
    | none => ([], c :: rest)

/-- An exponent at the start of a text, if the text starts with a complete one, and the rest. -/
def scanExponent (cs : List Char) : Int × List Char :=
  match cs with
  | e :: rest =>
    if e = 'e' ∨ e = 'E' then
      let (negative, rest) := splitSign rest
      match spanDecimals rest with
      | ([], _) => (0, cs)
      | (digits, rest) => (signed negative (ofDigits 10 digits), rest)
    else (0, cs)
  | [] => (0, [])

/-- The longest unsigned decimal at the start of a text, and the rest. -/
def scanDecimal? (cs : List Char) : Option (Decimal × List Char) :=
  let (whole, rest) := spanDecimals cs
  let (fraction, rest) := match rest with
    | '.' :: afterPoint =>
      let (fraction, rest) := spanDecimals afterPoint
      if whole.isEmpty && fraction.isEmpty then ([], '.' :: afterPoint) else (fraction, rest)
    | rest => ([], rest)
  if whole.isEmpty && fraction.isEmpty then none
  else
    let (exponent, rest) := scanExponent rest
    some (⟨ofDigits 10 (whole ++ fraction), exponent - fraction.length⟩, rest)

/-- Text without its underscores, provided that each stands between two decimal digits; `previous`
tells whether the character before was a digit. -/
def dropUnderscores? : Bool → List Char → Option (List Char)
  | _, [] => some []
  | previous, '_' :: rest =>
    match rest with
    | next :: _ =>
      if previous && isDecimal next then dropUnderscores? false rest else none
    | [] => none
  | _, c :: rest => (dropUnderscores? (isDecimal c) rest).map (c :: ·)

/-- A double written in decimal, or by name in any mixture of cases. -/
def double? (cs : List Char) : Option Binary64 := do
  let text ← dropUnderscores? false (trimMargin cs)
  let (negative, rest) := splitSign text
  let name := String.ofList (rest.map Char.toLower)
  if name == "inf" || name == "infinity" then return .infinite negative
  if name == "nan" then return .nan
  match scanDecimal? rest with
  | some (decimal, []) => return .ofDecimal negative decimal
  | _ => none

/-- The hexadecimal digits at the start of a text; only ASCII digits count. -/
def spanHexadecimals (cs : List Char) : List Nat :=
  let isHexadecimal (c : Char) : Bool :=
    c.isDigit || ('a' ≤ c && c ≤ 'f') || ('A' ≤ c && c ≤ 'F')
  (cs.takeWhile isHexadecimal).filterMap digitValue?

/-- The hexadecimal digits after the mark `0x` at the start of a text. -/
def markedHexadecimals : List Char → List Nat
  | '0' :: x :: afterMark => if x = 'x' ∨ x = 'X' then spanHexadecimals afterMark else []
  | _ => []

/-- The integer at the start of a text, after blanks; NaN if there is none. -/
def leadingInteger (text : String) : Number :=
  let (negative, rest) := splitSign (text.toList.dropWhile isBlank)
  match markedHexadecimals rest, spanDecimals rest with
  | [], ([], _) => .nan
  | [], (digits, _) => .int (signed negative (ofDigits 10 digits))
  | digits, _ => .int (signed negative (ofDigits 16 digits))

/-- How many decimal digits the integer at the start of a text has; hexadecimal ones are not counted. -/
def leadingDecimals (text : String) : Nat :=
  let (_, rest) := splitSign (text.toList.dropWhile isBlank)
  if (markedHexadecimals rest).isEmpty then (spanDecimals rest).1.length else 0

/-- The double at the start of a text, after blanks; NaN if there is none. -/
def leadingDouble (text : String) : Binary64 :=
  let (negative, rest) := splitSign (text.toList.dropWhile isBlank)
  if "Infinity".toList.isPrefixOf rest then .infinite negative
  else match scanDecimal? rest with
    | some (decimal, _) => .ofDecimal negative decimal
    | none => .nan

end TreeScript.Numeral

namespace TreeScript

/-- The number that a whole text stands for, blanks at its ends aside: nothing is zero, a marked
base gives an integer, anything else a double, NaN if it is no numeral. -/
def Number.ofText (text : String) : Number :=
  match stripBlanks text.toList with
  | [] => .int 0
  | cs =>
    let marked := match cs with
      | '0' :: mark :: rest => (Numeral.baseOf? mark).map (·, rest)
      | _ => none
    match marked with
    | some (base, rest) =>
      match Numeral.based? base rest with
      | some n => .int n
      | none => .nan
    | none => .float ((Numeral.double? cs).getD .nan)

end TreeScript
