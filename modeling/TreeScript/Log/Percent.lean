import TreeScript.Log.Digits
import TreeScript.Log.Field

/-! # Formats with percent signs

A field is a percent sign, a name in parentheses, flags, a width, a precision and a letter for the
conversion. A doubled percent sign stands for one.
-/

namespace TreeScript.Log.Percent

/-- How a field is written. -/
structure Spec where
  isLeft : Bool
  showsPlus : Bool
  showsBlank : Bool
  isAlternate : Bool
  padsZeros : Bool
  width : Nat
  precision : Option Nat
  conversion : Char

inductive Part where
  | text (chars : List Char)
  | field (name : String) (spec : Spec)

/-- Text filled up with blanks to a width. -/
def fill (spec : Spec) (chars : List Char) : List Char :=
  let blanks := List.replicate (spec.width - chars.length) ' '
  if spec.isLeft then chars ++ blanks else blanks ++ chars

def fillText (spec : Spec) (text : String) : List Char :=
  let chars := text.toList
  fill spec (match spec.precision with
    | some limit => chars.take limit
    | none => chars)

/-- A number filled up to a width: with blanks around it, or with zeros after its sign and mark. -/
def fillNumber (spec : Spec) (digits : Digits) : List Char :=
  let positive := if spec.showsPlus then ['+'] else if spec.showsBlank then [' '] else []
  let start := digits.sign positive ++ digits.mark
  if spec.padsZeros && !spec.isLeft then
    let zeros := spec.width - (start.length + digits.body.length)
    start ++ List.replicate zeros '0' ++ digits.body
  else fill spec (start ++ digits.body)

/-- An integer with at least as many digits as the precision asks for. -/
def integerDigits (spec : Spec) (base : Nat) (mark : List Char) (n : Int) : Digits :=
  let digits := Digits.ofInt base (spec.conversion == 'X') (if spec.isAlternate then mark else []) n
  let zeros := spec.precision.getD 0 - digits.body.length
  { digits with body := List.replicate zeros '0' ++ digits.body }

/-- The number that a field holds. -/
def number? : Field → Option Number
  | .whole n => some (.int n)
  | .real d => some (.float d)
  | _ => none

/-- A field with a conversion; none if they do not fit. -/
def convert? (spec : Spec) (field : Field) : Option (List Char) :=
  let integer (base : Nat) (mark : String) : Option (List Char) :=
    match field with
    | .whole n => some (fillNumber spec (integerDigits spec base mark.toList n))
    | _ => none
  match spec.conversion with
  | 's' => some (fillText spec field.plain)
  | 'r' => some (fillText spec field.display)
  | 'a' => some (fillText spec field.ascii)
  | 'c' =>
    match field with
    | .whole n =>
      if 0 ≤ n ∧ n < 0x110000 then some (fill spec [Char.ofNat n.toNat]) else none
    | .text value => if value.length = 1 then some (fill spec value.toList) else none
    | _ => none
  | 'd' | 'i' | 'u' =>
    match field with
    | .whole n => some (fillNumber spec (integerDigits spec 10 [] n))
    | .real d => d.truncate?.map fun n => fillNumber spec (integerDigits spec 10 [] n)
    | _ => none
  | 'o' => integer 8 "0o"
  | 'x' => integer 16 "0x"
  | 'X' => integer 16 "0X"
  | letter =>
    if "eEfFgG".toList.contains letter then do
      let d ← doubleOf? (← number? field)
      let digits := Digits.ofDouble letter spec.isAlternate (spec.precision.getD 6) d
      return fillNumber spec digits
    else none

/-- A number at the start of a text. -/
def spanNumber (cs : List Char) : Nat × List Char :=
  let digits := cs.takeWhile Char.isDigit
  (digits.foldl (fun n c => n * 10 + (c.toNat - '0'.toNat)) 0, cs.drop digits.length)

/-- The specification of a field up to its letter, and the rest. -/
def spec? (cs : List Char) : Option (Spec × List Char) :=
  let flags := cs.takeWhile "#0+ -".toList.contains
  let (width, cs) := spanNumber (cs.drop flags.length)
  let (precision, cs) := match cs with
    | '.' :: rest =>
      let (precision, rest) := spanNumber rest
      (some precision, rest)
    | cs => (none, cs)
  let cs := match cs with
    | c :: rest => if c == 'h' || c == 'l' || c == 'L' then rest else cs
    | [] => []
  match cs with
  | conversion :: rest =>
    some (⟨flags.contains '-', flags.contains '+', flags.contains ' ', flags.contains '#',
      flags.contains '0', width, precision, conversion⟩, rest)
  | [] => none

/-- A name up to its closing parenthesis, where parentheses may be nested, and the rest. -/
def name? : Nat → List Char → Option (List Char × List Char)
  | _, [] => none
  | 0, ')' :: rest => some ([], rest)
  | depth, c :: rest =>
    let depth := if c == '(' then depth + 1 else if c == ')' then depth - 1 else depth
    (name? depth rest).map fun (name, rest) => (c :: name, rest)

/-- The parts of a format; none if it breaks off in a field, or has a field without a name. -/
def parts? : Nat → List Char → Option (List Part)
  | 0, _ | _, [] => some []
  | effort + 1, '%' :: '(' :: rest => do
    let (name, rest) ← name? 0 rest
    let (spec, rest) ← spec? rest
    return .field (String.ofList name) spec :: (← parts? effort rest)
  | effort + 1, '%' :: '%' :: rest => do
    return .text ['%'] :: (← parts? effort rest)
  | _ + 1, '%' :: _ => none
  | effort + 1, c :: rest => do
    return .text [c] :: (← parts? effort rest)

/-- A message in a format. -/
def render? (field? : String → Option Field) (format : String) : Option String := do
  let parts ← parts? (format.length + 1) format.toList
  let chars ← parts.mapM fun
    | .text chars => some chars
    | .field name spec => do convert? spec (← field? name)
  return String.ofList chars.flatten

/-- Whether a field with a plain name starts after a percent sign. -/
def startsField (cs : List Char) : Bool :=
  match cs with
  | '(' :: rest =>
    let isNameChar (c : Char) : Bool := c.isAlphanum || c == '_' || 0x80 ≤ c.toNat
    let name := rest.takeWhile isNameChar
    match name, rest.drop name.length with
    | _ :: _, ')' :: rest =>
      let number? (cs : List Char) : Option (List Char) :=
        match cs with
        | '*' :: rest => some rest
        | cs =>
          let rest := cs.dropWhile Char.isDigit
          if rest.length < cs.length then some rest else none
      let rest := rest.dropWhile "#0+ -".toList.contains
      let rest := (number? rest).getD rest
      let rest := match rest with
        | '.' :: more => (number? more).getD rest
        | rest => rest
      rest.head?.any fun c => "diouxefgcrsa%".toList.contains c.toLower
    | _, _ => false
  | _ => false

/-- Whether a format has a field with a plain name. -/
def hasField : List Char → Bool
  | '%' :: rest => startsField rest || hasField rest
  | _ :: rest => hasField rest
  | [] => false

end TreeScript.Log.Percent
