import Mathlib.Data.List.Sort
import TreeScript.Proofs.Numeric.Numerals
import TreeScript.Proofs.Text.Quotation
import TreeScript.Store.Picture

/-! # Keys can be read

The key of a picture determines the picture up to the order of the members of its objects, and ends
where it ends when a comma or a closing bracket follows. The marks of the kinds that would look alike
keep an object whose only member is named like a mark from being taken for the marked kind.
-/

namespace TreeScript.Picture

open Numeral AsciiText

/-! ## Lists of texts -/

/-- What may follow the key of a picture: nothing, a comma, or a closing bracket or brace. -/
def Delimited (cs : List Char) : Prop := ∀ c ∈ cs.head?, c ∈ [',', ']', '\x7d']

theorem delimited_cons {c : Char} (delimiter : c ∈ [',', ']', '\x7d']) (cs : List Char) :
    Delimited (c :: cs) := by
  rintro _ ⟨⟩
  exact delimiter

/-- Texts without delimiters end where a delimiter follows. -/
theorem append_inj_of_delimited {left right leftRest rightRest : List Char}
    (leftFree : ∀ c ∈ left, c ∉ [',', ']', '\x7d']) (rightFree : ∀ c ∈ right, c ∉ [',', ']', '\x7d'])
    (leftEnds : Delimited leftRest) (rightEnds : Delimited rightRest)
    (same : left ++ leftRest = right ++ rightRest) : left = right ∧ leftRest = rightRest := by
  induction left generalizing right with
  | nil =>
    cases right with
    | nil => exact ⟨rfl, same⟩
    | cons d right =>
      subst same
      exact absurd (leftEnds d rfl) (rightFree d List.mem_cons_self)
  | cons c left ih =>
    cases right with
    | nil =>
      cases same
      exact absurd (rightEnds c rfl) (leftFree c List.mem_cons_self)
    | cons d right =>
      obtain ⟨rfl, later⟩ := List.cons.inj same
      obtain ⟨rfl, rests⟩ := ih (fun e member => leftFree e (List.mem_cons_of_mem c member))
        (fun e member => rightFree e (List.mem_cons_of_mem c member)) later
      exact ⟨rfl, rests⟩

/-- What follows the first text of a list: the other texts and the closing bracket. -/
def continued (close : Char) (texts : List (List Char)) (rest : List Char) : List Char :=
  match texts with
  | [] => close :: rest
  | text :: texts => ',' :: ' ' :: (listed (text :: texts) ++ close :: rest)

theorem listed_cons_append (close : Char) (text : List Char) (texts : List (List Char))
    (rest : List Char) :
    listed (text :: texts) ++ close :: rest = text ++ continued close texts rest := by
  cases texts with
  | nil => rfl
  | cons next texts => simp only [listed, continued, List.append_assoc, List.cons_append]

theorem delimited_continued {close : Char} (closing : close ∈ [']', '\x7d'])
    (texts : List (List Char)) (rest : List Char) : Delimited (continued close texts rest) := by
  cases texts with
  | nil => exact delimited_cons (List.mem_cons_of_mem ',' closing) rest
  | cons text texts => exact delimited_cons List.mem_cons_self _

/-- A list of texts is read item by item up to the mark that closes it, if each item is read up to what
follows it there. -/
theorem listed_append_inj {α β : Type} {text : α → List Char} {meaning : α → β} {close : Char}
    {mayFollow : List Char → Prop} (comma : ',' ≠ close)
    (follows : ∀ texts rest, mayFollow (continued close texts rest)) {left right : List α}
    (opens : ∀ item ∈ left ++ right, ∀ rest tail, text item ++ rest ≠ close :: tail)
    (reads : ∀ item ∈ left, ∀ other ∈ right, ∀ leftRest rightRest, mayFollow leftRest → mayFollow rightRest →
      text item ++ leftRest = text other ++ rightRest →
      meaning item = meaning other ∧ leftRest = rightRest)
    {leftRest rightRest : List Char}
    (same : listed (left.map text) ++ close :: leftRest = listed (right.map text) ++ close :: rightRest) :
    left.map meaning = right.map meaning ∧ leftRest = rightRest := by
  induction left generalizing right with
  | nil =>
    cases right with
    | nil => exact ⟨rfl, (List.cons.inj same).2⟩
    | cons other right =>
      rw [List.map_cons, listed_cons_append] at same
      exact absurd same.symm (opens other (by simp) _ _)
  | cons item left ih =>
    rw [List.map_cons, listed_cons_append] at same
    cases right with
    | nil => exact absurd same (opens item (by simp) _ _)
    | cons other right =>
      rw [List.map_cons, listed_cons_append] at same
      obtain ⟨first, rests⟩ := reads item List.mem_cons_self other List.mem_cons_self _ _ (follows _ _)
        (follows _ _) same
      cases left with
      | nil =>
        cases right with
        | nil => exact ⟨congrArg (fun value => [value]) first, (List.cons.inj rests).2⟩
        | cons next right => exact absurd (List.cons.inj rests).1.symm comma
      | cons next left =>
        cases right with
        | nil => exact absurd (List.cons.inj rests).1 comma
        | cons last right =>
          have inner : listed ((next :: left).map text) ++ close :: leftRest =
              listed ((last :: right).map text) ++ close :: rightRest :=
            (List.cons.inj (List.cons.inj rests).2).2
          obtain ⟨others, ends⟩ := ih (fun item member => opens item (by grind))
            (fun item member other otherMember =>
              reads item (List.mem_cons_of_mem _ member) other (List.mem_cons_of_mem _ otherMember)) inner
          exact ⟨congrArg₂ List.cons first others, ends⟩

/-! ## Numbers and references -/

/-- The text of an integer is made of digits and a sign. -/
theorem mem_numberKey_int {n : Int} {c : Char} (member : c ∈ numberKey (.int n)) :
    c = '-' ∨ c.isDigit = true := by
  rw [numberKey, Number.toList_integerText, mem_signedText] at member
  rcases member with ⟨-, sign⟩ | digit
  · exact .inl sign
  · exact .inr (areDigits_toDigits _ c digit)

theorem mem_numberKey_finite {negative : Bool} {units : Nat} {representable : Representable units}
    {c : Char} (member : c ∈ numberKey (.float (.finite negative units representable))) :
    isNumeralChar c = true := by
  rw [numberKey, Binary64.toList_text_finite, mem_signedText] at member
  rcases member with ⟨-, rfl⟩ | inside
  · rfl
  · exact (isMarked_notate _).isNumeralChar c inside

/-- The text of a double has a character that no text of an integer has. -/
theorem exists_mem_numberKey_float (value : Binary64) :
    ∃ c ∈ numberKey (.float value), c ≠ '-' ∧ c.isDigit = false := by
  cases value with
  | nan => exact ⟨'N', by decide, by decide, by decide⟩
  | infinite negative => exact ⟨'I', by cases negative <;> decide, by decide, by decide⟩
  | finite negative units representable =>
    obtain ⟨whole, mark, tail, shape, -, -, marks, -⟩ := isMarked_notate (Decimal.written units)
    refine ⟨mark, ?_, ?_, ?_⟩
    · rw [numberKey, Binary64.toList_text_finite, mem_signedText, shape]
      simp
    · rcases marks with rfl | rfl <;> decide
    · rcases marks with rfl | rfl <;> rfl

theorem numberKey_free (value : Number) : ∀ c ∈ numberKey value, c ∉ [',', ']', '\x7d'] := by
  have numeral {c : Char} (numeral : isNumeralChar c = true) : c ∉ [',', ']', '\x7d'] := by
    intro delimiter
    revert numeral
    simp only [List.mem_cons, List.not_mem_nil, or_false] at delimiter
    rcases delimiter with rfl | rfl | rfl <;> decide
  intro c member
  have letter {text : List Char} (free : text.all (fun c => decide (c ∉ [',', ']', '\x7d'])) = true)
      (member : c ∈ text) : c ∉ [',', ']', '\x7d'] :=
    of_decide_eq_true (List.all_eq_true.mp free c member)
  match value with
  | .int n =>
    rcases mem_numberKey_int member with rfl | digit
    · decide
    · exact numeral (by simp [isNumeralChar, digit])
  | .float .nan => exact letter (by decide) member
  | .float (.infinite negative) => exact letter (by cases negative <;> decide) member
  | .float (.finite negative units representable) => exact numeral (mem_numberKey_finite member)

theorem numberKey_int_ne_float (n : Int) (value : Binary64) :
    numberKey (.int n) ≠ numberKey (.float value) := by
  intro same
  obtain ⟨c, member, unsigned, nondigit⟩ := exists_mem_numberKey_float value
  rcases mem_numberKey_int (same ▸ member) with sign | digit
  · exact unsigned sign
  · exact absurd digit (nondigit ▸ Bool.false_ne_true)

/-- The names of NaN and of the infinities are no numerals. -/
theorem numberKey_special_ne_finite {special : Binary64} {c : Char}
    (member : c ∈ numberKey (.float special)) (letter : isNumeralChar c = false)
    {negative : Bool} {units : Nat} {representable : Representable units} :
    numberKey (.float special) ≠ numberKey (.float (.finite negative units representable)) := by
  intro same
  rw [same] at member
  exact absurd (mem_numberKey_finite member) (letter ▸ Bool.false_ne_true)

/-- The text of a double determines the double. -/
theorem numberKey_float_inj {left right : Binary64}
    (same : numberKey (.float left) = numberKey (.float right)) : left = right := by
  have nan : 'N' ∈ numberKey (.float .nan) := by decide
  have infinite (negative : Bool) : 'I' ∈ numberKey (.float (.infinite negative)) := by
    cases negative <;> decide
  cases left with
  | nan =>
    cases right with
    | nan => rfl
    | infinite negative =>
      revert same
      cases negative <;> decide
    | finite => exact absurd same (numberKey_special_ne_finite nan rfl)
  | infinite negative =>
    cases right with
    | nan =>
      revert same
      cases negative <;> decide
    | infinite other =>
      revert same
      cases negative <;> cases other <;> decide
    | finite => exact absurd same (numberKey_special_ne_finite (infinite negative) rfl)
  | finite negative units representable =>
    cases right with
    | nan => exact absurd same.symm (numberKey_special_ne_finite nan rfl)
    | infinite other => exact absurd same.symm (numberKey_special_ne_finite (infinite other) rfl)
    | finite otherNegative otherUnits otherRepresentable =>
      obtain ⟨rfl, rfl⟩ := Binary64.text_finite_inj same
      rfl

/-- The text of a number determines the number, its form included. -/
theorem numberKey_inj {left right : Number} (same : numberKey left = numberKey right) :
    left = right := by
  cases left with
  | int n =>
    cases right with
    | int m => exact congrArg Number.int (Number.integerText_inj same)
    | float value => exact absurd same (numberKey_int_ne_float n value)
  | float value =>
    cases right with
    | int m => exact absurd same.symm (numberKey_int_ne_float m value)
    | float other => exact congrArg Number.float (numberKey_float_inj same)

/-- The text of a reference determines its sort and its identity. -/
theorem referenceText_inj {sort otherSort : ReferenceSort} {id otherId : Nat}
    (same : sort.name.toList ++ '@' :: Nat.toDigits 16 id =
      otherSort.name.toList ++ '@' :: Nat.toDigits 16 otherId) : sort = otherSort ∧ id = otherId := by
  have parts : sort = otherSort ∧ Nat.toDigits 16 id = Nat.toDigits 16 otherId := by
    cases sort <;> cases otherSort <;> simp [ReferenceSort.name] at same ⊢ <;> exact same
  exact ⟨parts.1, toDigits_sixteen_inj parts.2⟩

/-! ## Kinds -/

/-- The kinds of pictures. -/
inductive Kind where
  | undefined | null | bool | number | bigint | string | array | object | reference
  deriving DecidableEq

def kind : Picture → Kind
  | undefined => .undefined
  | null => .null
  | bool _ => .bool
  | number _ => .number
  | bigint _ => .bigint
  | string _ => .string
  | array _ => .array
  | object _ => .object
  | reference _ _ => .reference

/-- The mark of a kind that would look like another. -/
def Kind.mark? : Kind → Option String
  | undefined => some "$undefined"
  | bigint => some "$bigint"
  | object => some "$object"
  | reference => some "$ref"
  | _ => none

/-- The kind of a key without a mark, by the character it starts with. -/
def Kind.ofStart? (c : Char) : Option Kind :=
  if c = '\x7b' ∨ c = ']' ∨ c = '\x7d' then none
  else if c = '[' then some array
  else if c = '"' then some string
  else if c = 'n' then some null
  else if c = 't' ∨ c = 'f' then some bool
  else some number

theorem Kind.eq_of_mark? {left right : Kind} {mark : String} (leftMarked : left.mark? = some mark)
    (rightMarked : right.mark? = some mark) : left = right := by
  rw [← rightMarked] at leftMarked
  revert leftMarked rightMarked
  cases left <;> cases right <;> simp [Kind.mark?]

theorem Kind.ofStart?_digit {c : Char} (digit : c.isDigit = true) : ofStart? c = some number := by
  have other (d : Char) (nondigit : d.isDigit = false) : c ≠ d := by
    rintro rfl
    exact absurd digit (nondigit ▸ Bool.false_ne_true)
  simp only [ofStart?, other '\x7b' rfl, other ']' rfl, other '\x7d' rfl, other '[' rfl, other '"' rfl,
    other 'n' rfl, other 't' rfl, other 'f' rfl, if_false, or_self]

theorem numberKey_start (value : Number) :
    ∃ c rest, numberKey value = c :: rest ∧ Kind.ofStart? c = some .number := by
  have signed {negative : Bool} {body : List Char} (starts : StartsWithDigit body) :
      ∃ c rest, signedText negative body = c :: rest ∧ Kind.ofStart? c = some .number := by
    cases negative
    · obtain ⟨c, head, digit⟩ := starts
      obtain ⟨rest, rfl⟩ := List.head?_eq_some_iff.mp head
      exact ⟨c, rest, rfl, Kind.ofStart?_digit digit⟩
    · exact ⟨'-', body, rfl, rfl⟩
  match value with
  | .int n =>
    rw [numberKey, Number.toList_integerText]
    exact signed (startsWithDigit_toDigits _)
  | .float .nan => exact ⟨'N', ['a', 'N'], by decide, rfl⟩
  | .float (.infinite false) => exact ⟨'I', "nfinity".toList, by decide, rfl⟩
  | .float (.infinite true) => exact ⟨'-', "Infinity".toList, by decide, rfl⟩
  | .float (.finite negative units representable) =>
    rw [numberKey, Binary64.toList_text_finite]
    exact signed (isMarked_notate _).starts

theorem keyChars_marked {picture : Picture} {mark : String} (marked : picture.kind.mark? = some mark) :
    ∃ body, picture.keyChars = inBraces [member mark body] := by
  cases picture with
  | undefined | bigint | object | reference =>
    cases marked
    exact ⟨_, by rw [keyChars]⟩
  | null | bool | number | string | array => cases marked

theorem keyChars_unmarked {picture : Picture} (unmarked : picture.kind.mark? = none) :
    ∃ c rest, picture.keyChars = c :: rest ∧ Kind.ofStart? c = some picture.kind := by
  cases picture with
  | undefined | bigint | object | reference => cases unmarked
  | null => exact ⟨'n', ['u', 'l', 'l'], by rw [keyChars]; rfl, rfl⟩
  | bool value =>
    cases value
    · exact ⟨'f', ['a', 'l', 's', 'e'], by rw [keyChars]; rfl, rfl⟩
    · exact ⟨'t', ['r', 'u', 'e'], by rw [keyChars]; rfl, rfl⟩
  | number value =>
    rw [keyChars]
    exact numberKey_start value
  | string value => exact ⟨'"', _, by rw [keyChars]; rfl, rfl⟩
  | array elements => exact ⟨'[', _, by rw [keyChars]; rfl, rfl⟩

/-- A key in braces with a mark, as it is read: the mark, and the text after it up to the brace. -/
theorem marked_append (mark : String) (body rest : List Char) :
    inBraces [member mark body] ++ rest =
      '\x7b' :: (quoteChars mark.toList ++ ':' :: ' ' :: (body ++ '\x7d' :: rest)) := by
  simp [inBraces, listed, member]

/-- Keys in braces are read by their marks first. -/
theorem marked_append_inj {mark otherMark : String} {body otherBody rest otherRest : List Char}
    (same : inBraces [member mark body] ++ rest = inBraces [member otherMark otherBody] ++ otherRest) :
    mark = otherMark ∧ body ++ '\x7d' :: rest = otherBody ++ '\x7d' :: otherRest := by
  rw [marked_append, marked_append] at same
  obtain ⟨names, bodies⟩ := quoteChars_append_inj (List.cons.inj same).2
  exact ⟨String.toList_inj.mp names, (List.cons.inj (List.cons.inj bodies).2).2⟩

/-- Pictures whose keys start alike are of one kind. -/
theorem kind_eq_of_append {picture other : Picture} {rest otherRest : List Char}
    (same : picture.keyChars ++ rest = other.keyChars ++ otherRest) : picture.kind = other.kind := by
  cases marked : picture.kind.mark? with
  | some mark =>
    obtain ⟨body, text⟩ := keyChars_marked marked
    rw [text] at same
    cases otherMarked : other.kind.mark? with
    | some otherMark =>
      obtain ⟨otherBody, otherText⟩ := keyChars_marked otherMarked
      rw [otherText] at same
      obtain ⟨rfl, -⟩ := marked_append_inj same
      exact Kind.eq_of_mark? marked otherMarked
    | none =>
      obtain ⟨c, tail, otherText, start⟩ := keyChars_unmarked otherMarked
      rw [otherText, marked_append] at same
      obtain ⟨rfl, -⟩ := List.cons.inj same
      cases start
  | none =>
    obtain ⟨c, tail, text, start⟩ := keyChars_unmarked marked
    rw [text] at same
    cases otherMarked : other.kind.mark? with
    | some otherMark =>
      obtain ⟨otherBody, otherText⟩ := keyChars_marked otherMarked
      rw [otherText, marked_append] at same
      obtain ⟨rfl, -⟩ := List.cons.inj same
      cases start
    | none =>
      obtain ⟨d, otherTail, otherText, otherStart⟩ := keyChars_unmarked otherMarked
      rw [otherText] at same
      obtain ⟨rfl, -⟩ := List.cons.inj same
      exact Option.some.inj (start.symm.trans otherStart)

/-! ## Canonical pictures -/

/-- The order in which the members of an object are written. -/
def NamesInOrder (left right : String × Picture) : Prop := left.1 ≤ right.1

instance : DecidableRel NamesInOrder := fun left right => inferInstanceAs (Decidable (left.1 ≤ right.1))

instance : Std.Total NamesInOrder := ⟨fun left right => String.le_total left.1 right.1⟩

instance : IsTrans (String × Picture) NamesInOrder := ⟨fun _ _ _ => String.le_trans⟩

mutual

/-- The same picture with the members of its objects in order. -/
def canonical : Picture → Picture
  | array elements => array (canonicalAll elements)
  | object entries => object ((canonicalEntries entries).insertionSort NamesInOrder)
  | picture => picture

def canonicalAll : List Picture → List Picture
  | [] => []
  | picture :: rest => picture.canonical :: canonicalAll rest

def canonicalEntries : List (String × Picture) → List (String × Picture)
  | [] => []
  | (name, picture) :: rest => (name, picture.canonical) :: canonicalEntries rest

end

theorem canonicalAll_eq_map (pictures : List Picture) :
    canonicalAll pictures = pictures.map canonical := by
  induction pictures with
  | nil => rfl
  | cons picture rest ih => rw [canonicalAll, ih, List.map_cons]

variable (entries : List (String × Picture))

theorem canonicalEntries_eq_map :
    canonicalEntries entries = entries.map fun entry => (entry.1, entry.2.canonical) := by
  induction entries with
  | nil => rfl
  | cons entry rest ih => rw [canonicalEntries, ih, List.map_cons]

theorem keyCharsOfAll_eq_map (pictures : List Picture) :
    keyCharsOfAll pictures = pictures.map keyChars := by
  induction pictures with
  | nil => rfl
  | cons picture rest ih => rw [keyCharsOfAll, ih, List.map_cons]

theorem insertMember_map (entry : String × Picture) (entries : List (String × Picture)) :
    insertMember entry.1 entry.2.keyChars (entries.map fun entry => (entry.1, entry.2.keyChars)) =
      (entries.orderedInsert NamesInOrder entry).map fun entry => (entry.1, entry.2.keyChars) := by
  induction entries with
  | nil => rfl
  | cons other rest ih =>
    by_cases before : entry.1 ≤ other.1
    · have inOrder : NamesInOrder entry other := before
      rw [List.map_cons, insertMember, if_pos before, List.orderedInsert_cons_of_le _ _ inOrder]
      rfl
    · have outOfOrder : ¬NamesInOrder entry other := before
      rw [List.map_cons, insertMember, if_neg before, List.orderedInsert_of_not_le _ _ outOfOrder, ih]
      rfl

/-- The members of an object are written in the order of their names. -/
theorem membersOf_eq_map :
    membersOf entries =
      (entries.insertionSort NamesInOrder).map fun entry => (entry.1, entry.2.keyChars) := by
  induction entries with
  | nil => rfl
  | cons entry rest ih => rw [membersOf, ih, List.insertionSort_cons, insertMember_map entry]

theorem canonical_object :
    canonical (.object entries) = .object
      ((entries.insertionSort NamesInOrder).map fun entry => (entry.1, entry.2.canonical)) := by
  rw [canonical, canonicalEntries_eq_map]
  exact congrArg object (List.map_insertionSort NamesInOrder NamesInOrder
    (fun entry => (entry.1, entry.2.canonical)) entries fun _ _ _ _ => Iff.rfl).symm

/-- Pictures are taken apart through their elements and members. -/
theorem inductOn {motive : Picture → Prop} (undefined : motive undefined) (null : motive null)
    (bool : ∀ value, motive (bool value)) (number : ∀ value, motive (number value))
    (bigint : ∀ value, motive (bigint value)) (string : ∀ value, motive (string value))
    (array : ∀ elements, (∀ element ∈ elements, motive element) → motive (array elements))
    (object : ∀ entries, (∀ entry ∈ entries, motive (Prod.snd entry)) → motive (object entries))
    (reference : ∀ sort id, motive (reference sort id)) (picture : Picture) : motive picture :=
  @Picture.rec motive (fun elements => ∀ element ∈ elements, motive element)
    (fun entries => ∀ entry ∈ entries, motive (Prod.snd entry)) (fun entry => motive entry.2)
    undefined null bool number bigint string array object reference
    (fun _ member => absurd member List.not_mem_nil)
    (fun _ _ first later => List.forall_mem_cons.mpr ⟨first, later⟩)
    (fun _ member => absurd member List.not_mem_nil)
    (fun _ _ first later => List.forall_mem_cons.mpr ⟨first, later⟩)
    (fun _ _ held => held) picture

/-! ## Reading keys -/

/-- A picture whose key is read up to the delimiter after it: any other picture with that key agrees
with it up to the order of members. -/
def IsRead (picture : Picture) : Prop :=
  ∀ (other : Picture) (rest otherRest : List Char), Delimited rest → Delimited otherRest →
    picture.keyChars ++ rest = other.keyChars ++ otherRest →
    picture.canonical = other.canonical ∧ rest = otherRest

theorem keyChars_append_ne_close {close : Char} (closing : close ∈ [']', '\x7d']) (picture : Picture)
    (rest tail : List Char) : picture.keyChars ++ rest ≠ close :: tail := by
  have brace : '\x7b' ≠ close := by
    rintro rfl
    revert closing
    decide
  have closed : Kind.ofStart? close = none := by
    revert closing
    simp only [List.mem_cons, List.not_mem_nil, or_false]
    rintro (rfl | rfl) <;> rfl
  intro same
  cases marked : picture.kind.mark? with
  | some mark =>
    obtain ⟨body, text⟩ := keyChars_marked marked
    rw [text, marked_append] at same
    exact brace (List.cons.inj same).1
  | none =>
    obtain ⟨c, others, text, start⟩ := keyChars_unmarked marked
    rw [text] at same
    rw [(List.cons.inj same).1, closed] at start
    cases start

theorem isRead_number (value : Number) : (number value).IsRead := by
  intro other rest otherRest ends otherEnds same
  have kinds := kind_eq_of_append same
  cases other with
  | number other =>
    rw [keyChars, keyChars] at same
    obtain ⟨texts, rests⟩ :=
      append_inj_of_delimited (numberKey_free value) (numberKey_free other) ends otherEnds same
    exact ⟨congrArg (canonical ∘ number) (numberKey_inj texts), rests⟩
  | _ => cases kinds

theorem isRead_bigint (value : Int) : (bigint value).IsRead := by
  intro other rest otherRest _ _ same
  have kinds := kind_eq_of_append same
  cases other with
  | bigint other =>
    rw [keyChars, keyChars] at same
    obtain ⟨-, bodies⟩ := marked_append_inj same
    obtain ⟨texts, rests⟩ := quoteChars_append_inj bodies
    exact ⟨congrArg (canonical ∘ bigint) (Number.integerText_inj texts), (List.cons.inj rests).2⟩
  | _ => cases kinds

theorem isRead_string (value : String) : (string value).IsRead := by
  intro other rest otherRest _ _ same
  have kinds := kind_eq_of_append same
  cases other with
  | string other =>
    rw [keyChars, keyChars] at same
    obtain ⟨texts, rests⟩ := quoteChars_append_inj same
    exact ⟨congrArg (canonical ∘ string) (String.toList_inj.mp texts), rests⟩
  | _ => cases kinds

theorem isRead_reference (sort : ReferenceSort) (id : Nat) : (reference sort id).IsRead := by
  intro other rest otherRest _ _ same
  have kinds := kind_eq_of_append same
  cases other with
  | reference otherSort otherId =>
    rw [keyChars, keyChars] at same
    obtain ⟨-, bodies⟩ := marked_append_inj same
    obtain ⟨texts, rests⟩ := quoteChars_append_inj bodies
    obtain ⟨rfl, rfl⟩ := referenceText_inj texts
    exact ⟨rfl, (List.cons.inj rests).2⟩
  | _ => cases kinds

theorem keyChars_array_append (elements : List Picture) (rest : List Char) :
    (array elements).keyChars ++ rest = '[' :: (listed (elements.map keyChars) ++ ']' :: rest) := by
  simp [keyChars, inBrackets, keyCharsOfAll_eq_map]

/-- An array is read element by element. -/
theorem isRead_array {elements : List Picture} (read : ∀ element ∈ elements, element.IsRead) :
    (array elements).IsRead := by
  intro other rest otherRest _ _ same
  have kinds := kind_eq_of_append same
  cases other with
  | array others =>
    rw [keyChars_array_append, keyChars_array_append] at same
    obtain ⟨meanings, rests⟩ := listed_append_inj (by decide) (delimited_continued (by decide))
      (fun element _ => keyChars_append_ne_close (by decide) element)
      (fun element member other _ => read element member other) (List.cons.inj same).2
    refine ⟨?_, rests⟩
    rw [canonical, canonical, canonicalAll_eq_map, canonicalAll_eq_map, meanings]
  | _ => cases kinds

/-- The text of one member of an object. -/
def memberKey (entry : String × Picture) : List Char := member entry.1 entry.2.keyChars

theorem keyChars_object :
    (object entries).keyChars = inBraces [member "$object"
      (inBraces ((entries.insertionSort NamesInOrder).map memberKey))] := by
  rw [keyChars, membersOf_eq_map, List.map_map]
  rfl

/-- A member is read by its name and the key of its value. -/
theorem memberKey_append_inj {entry other : String × Picture} (read : entry.2.IsRead)
    {rest otherRest : List Char} (ends : Delimited rest) (otherEnds : Delimited otherRest)
    (same : memberKey entry ++ rest = memberKey other ++ otherRest) :
    (entry.1, entry.2.canonical) = (other.1, other.2.canonical) ∧ rest = otherRest := by
  simp only [memberKey, member, List.append_assoc, List.cons_append] at same
  obtain ⟨names, texts⟩ := quoteChars_append_inj same
  obtain ⟨meanings, rests⟩ :=
    read other.2 rest otherRest ends otherEnds (List.cons.inj (List.cons.inj texts).2).2
  exact ⟨Prod.ext (String.toList_inj.mp names) meanings, rests⟩

/-- An object is read member by member, in the order in which they are written. -/
theorem isRead_object {entries : List (String × Picture)}
    (read : ∀ entry ∈ entries, entry.2.IsRead) : (object entries).IsRead := by
  intro other rest otherRest _ _ same
  have kinds := kind_eq_of_append same
  cases other with
  | object others =>
    have opens (entry : String × Picture) (rest tail : List Char) :
        memberKey entry ++ rest ≠ '\x7d' :: tail := fun same =>
      absurd (List.cons.inj same).1 (by decide)
    rw [keyChars_object, keyChars_object] at same
    obtain ⟨-, bodies⟩ := marked_append_inj same
    simp only [inBraces, List.cons_append, List.append_assoc, List.nil_append, List.cons.injEq,
      true_and] at bodies
    obtain ⟨meanings, rests⟩ := listed_append_inj (by decide) (delimited_continued (by decide))
      (fun entry _ => opens entry) (fun entry member other _ rest otherRest ends otherEnds =>
        memberKey_append_inj (read entry ((List.mem_insertionSort NamesInOrder).mp member)) ends otherEnds)
      bodies
    refine ⟨?_, (List.cons.inj rests).2⟩
    rw [canonical_object, canonical_object, meanings]
  | _ => cases kinds

/-- Every key is read up to the delimiter after it. -/
theorem isRead (picture : Picture) : picture.IsRead := by
  induction picture using inductOn with
  | undefined =>
    intro other rest otherRest _ _ same
    have kinds := kind_eq_of_append same
    cases other with
    | undefined => exact ⟨rfl, List.append_cancel_left same⟩
    | _ => cases kinds
  | null =>
    intro other rest otherRest _ _ same
    have kinds := kind_eq_of_append same
    cases other with
    | null => exact ⟨rfl, List.append_cancel_left same⟩
    | _ => cases kinds
  | bool value =>
    intro other rest otherRest _ _ same
    have kinds := kind_eq_of_append same
    cases other with
    | bool other =>
      rw [keyChars, keyChars] at same
      cases value <;> cases other <;> simp at same
      · exact ⟨rfl, same⟩
      · exact ⟨rfl, same⟩
    | _ => cases kinds
  | number value => exact isRead_number value
  | bigint value => exact isRead_bigint value
  | string value => exact isRead_string value
  | array elements read => exact isRead_array read
  | object entries read => exact isRead_object read
  | reference sort id => exact isRead_reference sort id

/-- The order of members does not show in a key. -/
theorem keyChars_canonical (picture : Picture) : picture.canonical.keyChars = picture.keyChars := by
  induction picture using inductOn with
  | undefined | null | bool | number | bigint | string | reference => rw [canonical] <;> nofun
  | array elements same =>
    rw [canonical, keyChars, keyChars, keyCharsOfAll_eq_map, keyCharsOfAll_eq_map, canonicalAll_eq_map,
      List.map_map]
    exact congrArg inBrackets (List.map_congr_left same)
  | object entries same =>
    have inOrder : ((entries.insertionSort NamesInOrder).map fun entry =>
        (entry.1, entry.2.canonical)).Pairwise NamesInOrder :=
      List.pairwise_map.mpr (List.pairwise_insertionSort NamesInOrder entries)
    have members : ∀ entry ∈ entries.insertionSort NamesInOrder,
        memberKey (entry.1, entry.2.canonical) = memberKey entry := fun entry inside =>
      congrArg (member entry.1) (same entry ((List.mem_insertionSort NamesInOrder).mp inside))
    rw [canonical_object, keyChars_object, keyChars_object, inOrder.insertionSort_eq, List.map_map]
    exact congrArg (fun texts => inBraces [member "$object" (inBraces texts)])
      (List.map_congr_left members)

/-- Two pictures have one key exactly if they are the same up to the order of members. -/
theorem keyChars_eq_iff {left right : Picture} :
    left.keyChars = right.keyChars ↔ left.canonical = right.canonical := by
  constructor
  · intro same
    have empty : Delimited [] := by rintro _ ⟨⟩
    exact (left.isRead right [] [] empty empty (by rw [same])).1
  · intro same
    rw [← left.keyChars_canonical, same, right.keyChars_canonical]

end TreeScript.Picture
