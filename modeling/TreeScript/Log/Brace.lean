import TreeScript.Log.Digits
import TreeScript.Log.Field

/-! # Formats with braces

A field stands in braces: a name, which may go on to an item, an optional conversion after an
exclamation mark, and an optional specification after a colon. A specification may itself hold
fields, one level deep. Doubled braces stand for single ones.
-/

namespace TreeScript.Log.Brace

/-- How a field is written. -/
structure Spec where
  fill : Option Char
  align : Option Char
  sign : Option Char
  isAlternate : Bool
  padsZeros : Bool
  width : Nat
  grouping : Option Char
  precision : Option Nat
  type : Option Char

/-- A field as written in a format. -/
structure Field where
  name : List Char
  conversion : Option Char
  spec : List Char

inductive Part where
  | text (c : Char)
  | field (field : Field)

/-! ## Reading formats -/

/-- A name up to the mark that ends it, the mark, and the rest; brackets hide marks. -/
def name? : Bool → List Char → Option (List Char × Char × List Char)
  | _, [] => none
  | true, ']' :: rest => (name? false rest).map fun (name, more) => (']' :: name, more)
  | true, c :: rest => (name? true rest).map fun (name, more) => (c :: name, more)
  | false, c :: rest =>
    if c == '\x7b' then none
    else if c == '\x7d' || c == ':' || c == '!' then some ([], c, rest)
    else (name? (c == '[') rest).map fun (name, more) => (c :: name, more)

/-- A specification up to the brace that closes its field, and the rest. -/
def spec? : Nat → List Char → Option (List Char × List Char)
  | _, [] => none
  | depth, c :: rest =>
    if c == '\x7d' then
      match depth with
      | 0 => some ([], rest)
      | depth + 1 => (spec? depth rest).map fun (spec, rest) => (c :: spec, rest)
    else
      let depth := if c == '\x7b' then depth + 1 else depth
      (spec? depth rest).map fun (spec, rest) => (c :: spec, rest)

/-- A field after its opening brace, and the rest. -/
def field? (cs : List Char) : Option (Field × List Char) := do
  let (name, mark, rest) ← name? false cs
  let specified (conversion : Option Char) (rest : List Char) : Option (Field × List Char) := do
    let (spec, rest) ← spec? 0 rest
    return (⟨name, conversion, spec⟩, rest)
  if mark == '\x7d' then return (⟨name, none, []⟩, rest)
  else if mark == ':' then specified none rest
  else match rest with
    | conversion :: '\x7d' :: rest => some (⟨name, some conversion, []⟩, rest)
    | conversion :: ':' :: rest => specified (some conversion) rest
    | _ => none

/-- The parts of a format, if its braces are in order. -/
def parts? : Nat → List Char → Option (List Part)
  | 0, _ | _, [] => some []
  | effort + 1, c :: rest =>
    if c == '\x7b' || c == '\x7d' then
      match rest with
      | [] => none
      | next :: more =>
        if next == c then do
          return .text c :: (← parts? effort more)
        else if c == '\x7d' then none
        else do
          let (field, rest) ← field? rest
          return .field field :: (← parts? effort rest)
    else do
      return .text c :: (← parts? effort rest)

/-- A number at the start of a text, if there is one, and the rest. -/
def spanNumber? (cs : List Char) : Option Nat × List Char :=
  let digits := cs.takeWhile Char.isDigit
  if digits.isEmpty then (none, cs)
  else (some (digits.foldl (fun n c => n * 10 + (c.toNat - '0'.toNat)) 0), cs.drop digits.length)

def isAlign (c : Char) : Bool := c == '<' || c == '>' || c == '=' || c == '^'

/-- An optional character at the start of a text, and the rest. -/
def option (holds : Char → Bool) : List Char → Option Char × List Char
  | c :: rest => if holds c then (some c, rest) else (none, c :: rest)
  | [] => (none, [])

/-- The meaning of a specification. -/
def readSpec? (cs : List Char) : Option Spec := do
  let (fill, align, cs) := match cs with
    | a :: b :: rest =>
      if isAlign b then (some a, some b, rest)
      else if isAlign a then (none, some a, b :: rest)
      else (none, none, cs)
    | [a] => if isAlign a then (none, some a, []) else (none, none, cs)
    | [] => (none, none, [])
  let (sign, cs) := option (fun c => c == '+' || c == '-' || c == ' ') cs
  let (alternate, cs) := option (· == '#') cs
  let (zero, cs) := if fill.isSome then (none, cs) else option (· == '0') cs
  let (width, cs) := spanNumber? cs
  let (grouping, cs) := option (fun c => c == ',' || c == '_') cs
  let (precision, cs) ← match cs with
    | '.' :: rest =>
      match spanNumber? rest with
      | (some n, rest) => some (some n, rest)
      | (none, _) => none
    | cs => some (none, cs)
  let type ← match cs with
    | [] => some none
    | [c] => some (some c)
    | _ => none
  return ⟨fill, align, sign, alternate.isSome, zero.isSome, width.getD 0, grouping, precision, type⟩

/-! ## Writing fields -/

/-- Characters aligned within a width. -/
def aligned (align fill : Char) (width : Nat) (chars : List Char) : List Char :=
  let missing := width - chars.length
  let before := match align with
    | '>' => missing
    | '^' => missing / 2
    | _ => 0
  List.replicate before fill ++ chars ++ List.replicate (missing - before) fill

/-- A text as a specification asks; a text has no sign and no groups. -/
def textWith? (spec : Spec) (text : String) : Option (List Char) :=
  let align := spec.align.getD '<'
  let isText := spec.type.all (· == 's')
  if !isText || spec.sign.isSome || spec.isAlternate || spec.grouping.isSome || align == '=' then
    none
  else
    let chars := match spec.precision with
      | some limit => text.toList.take limit
      | none => text.toList
    let fill := spec.fill.getD (if spec.padsZeros then '0' else ' ')
    some (aligned align fill spec.width chars)

/-- Digits in groups, counted from the end. -/
def grouped (size : Nat) (mark : Char) (digits : List Char) : List Char :=
  let count := digits.length
  (digits.zipIdx.map fun (c, i) =>
    if i ≠ 0 ∧ (count - i) % size = 0 then [mark, c] else [c]).flatten

/-- The least number of leading zeros with which grouped digits reach a width. -/
def groupedTo (size : Nat) (mark : Char) (width : Nat) : Nat → List Char → List Char
  | 0, digits => grouped size mark digits
  | effort + 1, digits =>
    let written := grouped size mark digits
    if width ≤ written.length then written else groupedTo size mark width effort ('0' :: digits)

/-- A number as a specification asks, with its digits in groups of the given size. -/
def numberWith (spec : Spec) (groupSize : Nat) (ending : List Char) (digits : Digits) : List Char :=
  let positive := match spec.sign with
    | some '+' => ['+']
    | some ' ' => [' ']
    | _ => []
  let start := digits.sign positive ++ digits.mark
  let isDigit (c : Char) : Bool := c.isDigit || (groupSize == 4 && c.isAlphanum)
  let whole := digits.body.takeWhile isDigit
  let rest := digits.body.drop whole.length ++ ending
  let align := spec.align.getD (if spec.padsZeros then '=' else '>')
  let fill := spec.fill.getD (if spec.padsZeros then '0' else ' ')
  let room := spec.width - (start.length + rest.length)
  let whole := match spec.grouping with
    | some mark =>
      if fill == '0' && align == '=' then groupedTo groupSize mark room room whole
      else grouped groupSize mark whole
    | none => whole
  if align == '=' then start ++ aligned '>' fill room whole ++ rest
  else aligned align fill spec.width (start ++ whole ++ rest)

/-- A double as a specification asks. -/
def doubleWith? (spec : Spec) (d : Binary64) : Option (List Char) :=
  let precision := spec.precision.getD 6
  match spec.type with
  | some '%' =>
    let digits := Digits.ofDouble 'f' spec.isAlternate precision (d * Binary64.ofInt 100)
    some (numberWith spec 3 ['%'] digits)
  | some 'n' => some (numberWith spec 3 [] (Digits.ofDouble 'g' spec.isAlternate precision d))
  | some letter =>
    if "eEfFgG".toList.contains letter then
      some (numberWith spec 3 [] (Digits.ofDouble letter spec.isAlternate precision d))
    else none
  | none =>
    match spec.precision with
    | some precision =>
      some (numberWith spec 3 [] (Digits.ofDouble 'g' spec.isAlternate precision d))
    | none =>
      let text := (d.abs.text messageNames).toList
      some (numberWith spec 3 [] ⟨d.isNegative, [], text⟩)

/-- An integer as a specification asks. -/
def integerWith? (spec : Spec) (n : Int) : Option (List Char) :=
  let inBase (base groupSize : Nat) (mark : String) : Option (List Char) :=
    if spec.precision.isSome || spec.grouping.any fun c => c == ',' && groupSize == 4 then none
    else
      let mark := if spec.isAlternate then mark.toList else []
      some (numberWith spec groupSize [] (Digits.ofInt base (spec.type == some 'X') mark n))
  match spec.type with
  | none | some 'd' => inBase 10 3 ""
  | some 'n' => if spec.grouping.isSome then none else inBase 10 3 ""
  | some 'b' => inBase 2 4 "0b"
  | some 'o' => inBase 8 4 "0o"
  | some 'x' => inBase 16 4 "0x"
  | some 'X' => inBase 16 4 "0X"
  | some 'c' =>
    let isPlain := spec.sign.isNone && !spec.isAlternate && spec.grouping.isNone
    if isPlain && spec.precision.isNone && 0 ≤ n && n < 0x110000 then
      some (numberWith spec 3 [] ⟨false, [], [Char.ofNat n.toNat]⟩)
    else none
  | some _ =>
    match Binary64.ofInt? n with
    | some d => doubleWith? spec d
    | none => none

/-- A field as a specification asks. -/
def write? (spec : List Char) (field : Log.Field) : Option (List Char) :=
  match field with
  | .text value => do textWith? (← readSpec? spec) value
  | .whole n => do integerWith? (← readSpec? spec) n
  | .real d => do doubleWith? (← readSpec? spec) d
  | other => if spec.isEmpty then some other.plain.toList else none

/-- An item of a field, by its number. -/
def item? (field : Log.Field) (index : Nat) : Option Log.Field :=
  match field with
  | .text value => value.toList[index]?.map fun c => .text (String.ofList [c])
  | .list items => items[index]?
  | _ => none

/-- The field that a name leads to: through the items in brackets after it. -/
def followName? (field? : String → Option Log.Field) (name : List Char) : Option Log.Field := do
  let isEnd (c : Char) : Bool := c == '[' || c == '.'
  let base ← field? (String.ofList (name.takeWhile fun c => !isEnd c))
  let rec follow : Nat → List Char → Log.Field → Option Log.Field
    | 0, _, _ => none
    | _, [], field => some field
    | effort + 1, '[' :: rest, field => do
      let index := rest.takeWhile (· != ']')
      match spanNumber? index, rest.drop index.length with
      | (some n, []), ']' :: rest => do follow effort rest (← item? field n)
      | _, _ => none
    | _, _, _ => none
  follow (name.length + 1) (name.dropWhile fun c => !isEnd c) base

/-- A field after its conversion. -/
def converted? (conversion : Option Char) (field : Log.Field) : Option Log.Field :=
  match conversion with
  | none => some field
  | some 'r' => some (.text field.display)
  | some 's' => some (.text field.plain)
  | some 'a' => some (.text field.ascii)
  | some _ => none

/-- A field written out; `expand` fills in the fields of its specification. -/
def renderField? (field? : String → Option Log.Field) (expand : List Char → Option (List Char))
    (field : Field) : Option (List Char) := do
  let value ← converted? field.conversion (← followName? field? field.name)
  write? (← expand field.spec) value

/-- A format written out, at most the given number of levels deep. -/
def renderChars? (field? : String → Option Log.Field) : Nat → List Char → Option (List Char)
  | 0, _ => none
  | depth + 1, format => do
    let parts ← parts? (format.length + 1) format
    let chars ← parts.mapM fun
      | .text c => some [c]
      | .field field =>
        let expand (spec : List Char) : Option (List Char) :=
          if spec.contains '\x7b' then renderChars? field? depth spec else some spec
        renderField? field? expand field
    return chars.flatten

/-- A message in a format. -/
def render? (field? : String → Option Log.Field) (format : String) : Option String :=
  (renderChars? field? 2 format.toList).map String.ofList

/-! ## Formats that can be used -/

def isWordChar (c : Char) : Bool := c.isAlphanum || c == '_' || 0x80 ≤ c.toNat

/-- Whether a name is a word, followed by attributes and items. -/
def isFieldName (name : List Char) : Bool :=
  let rec isTail : Nat → List Char → Bool
    | 0, _ => false
    | _, [] => true
    | effort + 1, '.' :: rest =>
      let word := rest.takeWhile isWordChar
      !word.isEmpty && isTail effort (rest.drop word.length)
    | effort + 1, '[' :: rest =>
      let item := rest.takeWhile (· != ']')
      match rest.drop item.length with
      | ']' :: rest => !item.isEmpty && isTail effort rest
      | _ => false
    | _, _ => false
  let word := name.takeWhile isWordChar
  !word.isEmpty && isTail (name.length + 1) (name.drop word.length)

/-- A number or a simple field in braces at the start of a text, and the rest. -/
def numberOrField (cs : List Char) : Option (List Char) :=
  match cs with
  | '\x7b' :: rest =>
    let word := rest.takeWhile isWordChar
    match word, rest.drop word.length with
    | _ :: _, '\x7d' :: rest => some rest
    | _, _ => none
  | cs =>
    match spanNumber? cs with
    | (some _, rest) => some rest
    | (none, _) => none

/-- Whether a specification has the form that formats allow. -/
def isSpec (cs : List Char) : Bool :=
  let tailFits (cs : List Char) : Bool :=
    let cs := (option (fun c => c == '+' || c == '-' || c == ' ') cs).2
    let cs := (option (· == '#') cs).2
    let cs := (option (· == '0') cs).2
    let cs := (numberOrField cs).getD cs
    let cs := (option (fun c => c == ',' || c == '_') cs).2
    let cs := match cs with
      | '.' :: rest => (numberOrField rest).getD cs
      | cs => cs
    let cs := (option (fun c => "bcdefgnosx%".toList.contains c.toLower) cs).2
    cs.isEmpty
  let withFill := match cs with
    | _ :: b :: rest => isAlign b && tailFits rest
    | _ => false
  let withAlign := match cs with
    | a :: rest => isAlign a && tailFits rest
    | [] => false
  withFill || withAlign || tailFits cs

/-- Whether a format can be used: its fields are well formed, and at least one has a name. -/
def isValid (format : String) : Bool :=
  match parts? (format.length + 1) format.toList with
  | none => false
  | some parts =>
    let fields := parts.filterMap fun
      | .field field => some field
      | .text _ => none
    let isRight (field : Field) : Bool :=
      (field.name.isEmpty || isFieldName field.name)
        && field.conversion.all (fun c => c == 'r' || c == 's' || c == 'a')
        && (field.spec.isEmpty || isSpec field.spec)
    fields.all isRight && fields.any fun field => !field.name.isEmpty

end TreeScript.Log.Brace
