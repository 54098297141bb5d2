import TreeScript.Numeric.Numeral
import TreeScript.Proofs.Numeric.Rounding

/-! # Written numbers are read back

The notation of a decimal, positional or scientific, is scanned as a whole to a decimal of the same
value. So the text of a double determines the double, sign included, and no double is written like
an integer.
-/

namespace TreeScript

namespace Numeral

/-- A text of ASCII digits. -/
def AreDigits (cs : List Char) : Prop := ∀ c ∈ cs, c.isDigit = true

/-- A text that does not go on with a decimal digit. -/
def Stops (cs : List Char) : Prop := ∀ c ∈ cs.head?, decimalValue? c = none

theorem areDigits_append {front back : List Char} :
    AreDigits (front ++ back) ↔ AreDigits front ∧ AreDigits back :=
  List.forall_mem_append

theorem areDigits_replicate_zero (count : Nat) : AreDigits (List.replicate count '0') := by
  intro c member
  rw [List.eq_of_mem_replicate member]
  rfl

theorem areDigits_toDigits (n : Nat) : AreDigits (Nat.toDigits 10 n) := fun _ member =>
  Nat.isDigit_of_mem_toDigits (by decide) (by decide) member

theorem decimalValue?_of_isDigit {c : Char} (digit : c.isDigit = true) :
    decimalValue? c = some (c.toNat - '0'.toNat) := by
  have within : (decide (0x30 ≤ c.toNat) && decide (c.toNat < 0x30 + 10)) = true := by
    simp only [Char.isDigit, ge_iff_le, Bool.and_eq_true, decide_eq_true_eq] at digit
    simp only [Bool.and_eq_true, decide_eq_true_eq]
    exact ⟨digit.1, Nat.lt_succ_of_le digit.2⟩
  have first : decimalZeros.find? (fun start => start ≤ c.toNat && c.toNat < start + 10) = some 0x30 :=
    List.find?_cons_of_pos within
  rw [decimalValue?, first]
  rfl

/-- The values of a text of digits. -/
def digitValues (cs : List Char) : List Nat := cs.map fun c => c.toNat - '0'.toNat

theorem digitValues_append (front back : List Char) :
    digitValues (front ++ back) = digitValues front ++ digitValues back := List.map_append

@[simp] theorem length_digitValues (cs : List Char) : (digitValues cs).length = cs.length :=
  List.length_map _

@[simp] theorem digitValues_eq_nil {cs : List Char} : digitValues cs = [] ↔ cs = [] :=
  List.map_eq_nil_iff

@[simp] theorem ofDigits_digitValues (cs : List Char) :
    ofDigits 10 (digitValues cs) = Nat.ofDigitChars 10 cs 0 := by
  simp only [ofDigits, digitValues, List.foldl_map, Nat.ofDigitChars_eq_foldl, Nat.mul_comm]

/-- The scan for digits takes a text of digits as a whole, up to where it stops. -/
theorem spanDecimals_append {cs rest : List Char} (digits : AreDigits cs) (stops : Stops rest) :
    spanDecimals (cs ++ rest) = (digitValues cs, rest) := by
  induction cs with
  | nil =>
    cases rest with
    | nil => rfl
    | cons c rest =>
      have refused : decimalValue? c = none := stops c rfl
      simp only [List.nil_append, spanDecimals, refused, digitValues, List.map_nil]
  | cons c cs ih =>
    have value := decimalValue?_of_isDigit (digits c List.mem_cons_self)
    have later := ih fun d member => digits d (List.mem_cons_of_mem c member)
    simp only [List.cons_append, spanDecimals, value, later, digitValues, List.map_cons]

/-- A numeral with a point: digits, the point, digits, and perhaps an exponent. -/
theorem scanDecimal?_point {whole fraction tail : List Char} (wholeDigits : AreDigits whole)
    (fractionDigits : AreDigits fraction) (nonempty : whole ≠ []) (stops : Stops tail) :
    scanDecimal? (whole ++ '.' :: (fraction ++ tail)) =
      some (⟨Nat.ofDigitChars 10 (whole ++ fraction) 0, (scanExponent tail).1 - fraction.length⟩,
        (scanExponent tail).2) := by
  have point : Stops ('.' :: (fraction ++ tail)) := by
    rintro _ ⟨⟩
    decide
  simp [scanDecimal?, spanDecimals_append wholeDigits point, spanDecimals_append fractionDigits stops,
    nonempty, ← digitValues_append]

/-- A numeral without a point: digits and an exponent. -/
theorem scanDecimal?_exponent {whole : List Char} (wholeDigits : AreDigits whole)
    (nonempty : whole ≠ []) (tail : List Char) :
    scanDecimal? (whole ++ 'e' :: tail) =
      some (⟨Nat.ofDigitChars 10 whole 0, (scanExponent ('e' :: tail)).1⟩,
        (scanExponent ('e' :: tail)).2) := by
  have mark : Stops ('e' :: tail) := by
    rintro _ ⟨⟩
    decide
  simp [scanDecimal?, spanDecimals_append wholeDigits mark, nonempty]

variable {digits : List Char}

/-- An exponent mark, a sign and digits are an exponent. -/
theorem scanExponent_signed {exponent : Int} (areDigits : AreDigits digits) (nonempty : digits ≠ [])
    (magnitude : Nat.ofDigitChars 10 digits 0 = exponent.natAbs) :
    scanExponent ('e' :: (if exponent < 0 then '-' else '+') :: digits) = (exponent, []) := by
  have sign : splitSign ((if exponent < 0 then '-' else '+') :: digits) =
      (decide (exponent < 0), digits) := by
    by_cases negative : exponent < 0
    · simp [splitSign, negative]
    · simp [splitSign, negative]
  have span : spanDecimals digits = (digitValues digits, []) := by
    have ends : Stops [] := by rintro _ ⟨⟩
    simpa only [List.append_nil] using spanDecimals_append areDigits ends
  have value : signed (decide (exponent < 0)) exponent.natAbs = exponent := by
    simp only [signed, decide_eq_true_eq]
    split
    · omega
    · omega
  obtain ⟨first, others, given⟩ := List.exists_cons_of_ne_nil (mt digitValues_eq_nil.mp nonempty)
  simp only [scanExponent, true_or, if_true, sign, span, given]
  rw [← given, ofDigits_digitValues, magnitude, value]

/-- A text is scanned as a whole, to the number that a decimal denotes. -/
def Reads (text : List Char) (decimal : Decimal) : Prop :=
  ∃ read : Decimal, scanDecimal? text = some (read, []) ∧ read.value = decimal.value

theorem reads_point {whole fraction : List Char} (wholeDigits : AreDigits whole)
    (fractionDigits : AreDigits fraction) (nonempty : whole ≠ []) :
    Reads (whole ++ '.' :: fraction)
      ⟨Nat.ofDigitChars 10 (whole ++ fraction) 0, -(fraction.length : Int)⟩ := by
  have ends : Stops [] := by rintro _ ⟨⟩
  have scanned := scanDecimal?_point wholeDigits fractionDigits nonempty ends
  rw [List.append_nil] at scanned
  exact ⟨_, scanned, by simp only [scanExponent, Int.zero_sub]⟩

/-- Positional notation is digits with a point among them that denote the same number. -/
private theorem positional_split (areDigits : AreDigits digits) (nonempty : digits ≠ []) (point : Int) :
    ∃ whole fraction, Decimal.positional digits point = whole ++ '.' :: fraction ∧
      AreDigits whole ∧ AreDigits fraction ∧ whole ≠ [] ∧
      Decimal.value ⟨Nat.ofDigitChars 10 (whole ++ fraction) 0, -(fraction.length : Int)⟩ =
        Decimal.value ⟨Nat.ofDigitChars 10 digits 0, point - digits.length⟩ := by
  unfold Decimal.positional
  split
  · next n =>
    have fraction : AreDigits (List.replicate (n + 1) '0' ++ digits) :=
      areDigits_append.mpr ⟨areDigits_replicate_zero _, areDigits⟩
    refine ⟨List.replicate 1 '0', _, rfl, areDigits_replicate_zero 1, fraction, by decide, ?_⟩
    simp only [Nat.ofDigitChars_append, Nat.ofDigitChars_replicate_zero, Nat.mul_zero,
      List.length_append, List.length_replicate]
    congr 2
    omega
  · refine ⟨List.replicate 1 '0', _, rfl, areDigits_replicate_zero 1, areDigits, by decide, ?_⟩
    simp only [Nat.ofDigitChars_append, Nat.ofDigitChars_replicate_zero, Nat.mul_zero]
    congr 2
    simp
  · next n positive =>
    split
    · next fits =>
      have whole : AreDigits (digits ++ List.replicate (n - digits.length) '0') :=
        areDigits_append.mpr ⟨areDigits, areDigits_replicate_zero _⟩
      refine ⟨_, List.replicate 1 '0', rfl, whole, areDigits_replicate_zero 1, by simp [nonempty], ?_⟩
      simp only [Nat.ofDigitChars_append, Nat.ofDigitChars_replicate_zero, Decimal.value_scale,
        List.length_replicate, Int.ofNat_eq_natCast]
      congr 2
      omega
    · next longer =>
      have whole : AreDigits (digits.take n) := fun c member => areDigits c (List.mem_of_mem_take member)
      have fraction : AreDigits (digits.drop n) := fun c member =>
        areDigits c (List.mem_of_mem_drop member)
      have started : digits.take n ≠ [] := by
        simp only [ne_eq, List.take_eq_nil_iff, not_or]
        exact ⟨positive, nonempty⟩
      refine ⟨_, _, rfl, whole, fraction, started, ?_⟩
      rw [List.take_append_drop, List.length_drop, Int.ofNat_eq_natCast]
      congr 2
      omega

/-- Positional notation denotes its digits, with the point where it stands. -/
theorem reads_positional (areDigits : AreDigits digits) (nonempty : digits ≠ []) (point : Int) :
    Reads (Decimal.positional digits point)
      ⟨Nat.ofDigitChars 10 digits 0, point - digits.length⟩ := by
  obtain ⟨whole, fraction, shape, wholeDigits, fractionDigits, started, same⟩ :=
    positional_split areDigits nonempty point
  obtain ⟨read, scanned, value⟩ := reads_point wholeDigits fractionDigits started
  exact ⟨read, shape ▸ scanned, value.trans same⟩

/-- An exponent that is padded to two digits keeps its magnitude. -/
private theorem padded_magnitude (n : Nat) {padded : List Char}
    (padding : padded = if (Nat.toDigits 10 n).length < 2 then '0' :: Nat.toDigits 10 n
      else Nat.toDigits 10 n) :
    AreDigits padded ∧ padded ≠ [] ∧ Nat.ofDigitChars 10 padded 0 = n := by
  split at padding
  · subst padding
    refine ⟨?_, List.cons_ne_nil _ _, ?_⟩
    · exact areDigits_append.mpr ⟨areDigits_replicate_zero 1, areDigits_toDigits n⟩
    · rw [Nat.ofDigitChars_cons]
      exact Nat.ofDigitChars_ten_toDigits
  · subst padding
    exact ⟨areDigits_toDigits n, Nat.toDigits_ne_nil, Nat.ofDigitChars_ten_toDigits⟩

/-- Scientific notation denotes its digits, with the point after the first and then moved. -/
theorem reads_scientific (areDigits : AreDigits digits) (nonempty : digits ≠ []) (exponent : Int) :
    Reads (Decimal.scientific digits exponent)
      ⟨Nat.ofDigitChars 10 digits 0, exponent + 1 - digits.length⟩ := by
  unfold Decimal.scientific
  dsimp only
  generalize padding : (if (Nat.toDigits 10 exponent.natAbs).length < 2 then
    '0' :: Nat.toDigits 10 exponent.natAbs else Nat.toDigits 10 exponent.natAbs) = padded
  obtain ⟨paddedDigits, paddedNonempty, magnitude⟩ := padded_magnitude _ padding.symm
  have tail := scanExponent_signed paddedDigits paddedNonempty magnitude
  match digits, areDigits, nonempty with
  | [first], areDigits, nonempty =>
    have scanned := scanDecimal?_exponent areDigits nonempty
      ((if exponent < 0 then '-' else '+') :: padded)
    rw [tail] at scanned
    refine ⟨_, scanned, ?_⟩
    simp
  | first :: second :: others, areDigits, nonempty =>
    have apart : AreDigits ([first] ++ second :: others) := areDigits
    obtain ⟨whole, fraction⟩ := areDigits_append.mp apart
    have mark : Stops ('e' :: (if exponent < 0 then '-' else '+') :: padded) := by
      rintro _ ⟨⟩
      decide
    have scanned := scanDecimal?_point whole fraction (List.cons_ne_nil _ _) mark
    rw [tail] at scanned
    refine ⟨_, scanned, ?_⟩
    congr 2
    simp only [List.length_cons]
    omega

/-- The notation of a decimal is scanned as a whole to a decimal of the same value. -/
theorem reads_notate (decimal : Decimal) : Reads decimal.notate decimal := by
  have areDigits := areDigits_toDigits decimal.coefficient
  have nonempty : Nat.toDigits 10 decimal.coefficient ≠ [] := Nat.toDigits_ne_nil
  unfold Decimal.notate
  dsimp only
  split
  · obtain ⟨read, scanned, value⟩ := reads_positional areDigits nonempty
      ((Nat.toDigits 10 decimal.coefficient).length + decimal.exponent - 1 + 1)
    refine ⟨read, scanned, value.trans ?_⟩
    rw [Nat.ofDigitChars_ten_toDigits]
    congr 2
    omega
  · obtain ⟨read, scanned, value⟩ := reads_scientific areDigits nonempty
      ((Nat.toDigits 10 decimal.coefficient).length + decimal.exponent - 1)
    refine ⟨read, scanned, value.trans ?_⟩
    rw [Nat.ofDigitChars_ten_toDigits]
    congr 2
    omega

/-- The characters of numerals. -/
def isNumeralChar (c : Char) : Bool :=
  c.isDigit || c == '.' || c == 'e' || c == '+' || c == '-'

theorem AreDigits.isNumeralChar {cs : List Char} (digits : AreDigits cs) :
    ∀ c ∈ cs, isNumeralChar c = true := by
  intro c member
  simp [Numeral.isNumeralChar, digits c member]

/-- A text of digits that goes on with a point or an exponent mark, and then with characters of
numerals only. -/
def IsMarked (text : List Char) : Prop :=
  ∃ whole mark tail, text = whole ++ mark :: tail ∧ AreDigits whole ∧ whole ≠ [] ∧
    (mark = '.' ∨ mark = 'e') ∧ ∀ c ∈ tail, isNumeralChar c = true

theorem isMarked_positional (areDigits : AreDigits digits) (nonempty : digits ≠ []) (point : Int) :
    IsMarked (Decimal.positional digits point) := by
  obtain ⟨whole, fraction, shape, wholeDigits, fractionDigits, started, -⟩ :=
    positional_split areDigits nonempty point
  exact ⟨whole, '.', fraction, shape, wholeDigits, started, .inl rfl, fractionDigits.isNumeralChar⟩

theorem isMarked_scientific (areDigits : AreDigits digits) (nonempty : digits ≠ []) (exponent : Int) :
    IsMarked (Decimal.scientific digits exponent) := by
  unfold Decimal.scientific
  dsimp only
  generalize padding : (if (Nat.toDigits 10 exponent.natAbs).length < 2 then
    '0' :: Nat.toDigits 10 exponent.natAbs else Nat.toDigits 10 exponent.natAbs) = padded
  obtain ⟨paddedDigits, -, -⟩ := padded_magnitude _ padding.symm
  have tail : ∀ c ∈ (if exponent < 0 then '-' else '+') :: padded, isNumeralChar c = true := by
    refine List.forall_mem_cons.mpr ⟨?_, paddedDigits.isNumeralChar⟩
    split
    · rfl
    · rfl
  match digits, areDigits, nonempty with
  | [first], areDigits, nonempty => exact ⟨_, 'e', _, rfl, areDigits, nonempty, .inr rfl, tail⟩
  | first :: second :: others, areDigits, nonempty =>
    have apart : AreDigits ([first] ++ second :: others) := areDigits
    obtain ⟨whole, fraction⟩ := areDigits_append.mp apart
    refine ⟨[first], '.', _, rfl, whole, List.cons_ne_nil _ _, .inl rfl, ?_⟩
    exact List.forall_mem_append.mpr
      ⟨fraction.isNumeralChar, List.forall_mem_cons.mpr ⟨rfl, tail⟩⟩

/-- The notation of a decimal has a point or an exponent after its first digits. -/
theorem isMarked_notate (decimal : Decimal) : IsMarked decimal.notate := by
  have areDigits := areDigits_toDigits decimal.coefficient
  have nonempty : Nat.toDigits 10 decimal.coefficient ≠ [] := Nat.toDigits_ne_nil
  unfold Decimal.notate
  dsimp only
  split
  · exact isMarked_positional areDigits nonempty _
  · exact isMarked_scientific areDigits nonempty _

/-- A text that starts with a digit. -/
def StartsWithDigit (cs : List Char) : Prop := ∃ c ∈ cs.head?, c.isDigit = true

theorem AreDigits.starts {cs : List Char} (digits : AreDigits cs) (nonempty : cs ≠ [])
    (tail : List Char) : StartsWithDigit (cs ++ tail) := by
  obtain ⟨first, others, rfl⟩ := List.exists_cons_of_ne_nil nonempty
  exact ⟨first, rfl, digits first List.mem_cons_self⟩

theorem IsMarked.starts {text : List Char} (marked : IsMarked text) : StartsWithDigit text := by
  obtain ⟨whole, mark, tail, rfl, digits, nonempty, -, -⟩ := marked
  exact digits.starts nonempty _

theorem IsMarked.isNumeralChar {text : List Char} (marked : IsMarked text) :
    ∀ c ∈ text, isNumeralChar c = true := by
  obtain ⟨whole, mark, tail, rfl, digits, -, marks, later⟩ := marked
  refine List.forall_mem_append.mpr ⟨digits.isNumeralChar, List.forall_mem_cons.mpr ⟨?_, later⟩⟩
  rcases marks with rfl | rfl
  · rfl
  · rfl

theorem startsWithDigit_toDigits (n : Nat) : StartsWithDigit (Nat.toDigits 10 n) := by
  simpa only [List.append_nil] using (areDigits_toDigits n).starts Nat.toDigits_ne_nil []

/-- Text after an optional minus sign. -/
def signedText (negative : Bool) (body : List Char) : List Char :=
  if negative then '-' :: body else body

theorem mem_signedText {negative : Bool} {body : List Char} {c : Char} :
    c ∈ signedText negative body ↔ negative = true ∧ c = '-' ∨ c ∈ body := by
  cases negative
  · simp [signedText]
  · simp [signedText]

/-- A sign can be told apart from a text that starts with a digit. -/
theorem signedText_inj {leftNegative rightNegative : Bool} {left right : List Char}
    (leftStarts : StartsWithDigit left) (rightStarts : StartsWithDigit right)
    (same : signedText leftNegative left = signedText rightNegative right) :
    leftNegative = rightNegative ∧ left = right := by
  have unsigned {body rest : List Char} (starts : StartsWithDigit body) : body ≠ '-' :: rest := by
    rintro rfl
    obtain ⟨_, ⟨⟩, digit⟩ := starts
    revert digit
    decide
  cases leftNegative <;> cases rightNegative
  · exact ⟨rfl, same⟩
  · exact absurd same (unsigned leftStarts)
  · exact absurd same.symm (unsigned rightStarts)
  · exact ⟨rfl, (List.cons.inj same).2⟩

end Numeral

open Numeral

theorem Number.toList_integerText (n : Int) :
    (integerText n).toList = signedText (decide (n < 0)) (Nat.toDigits 10 n.natAbs) := by
  cases n with
  | ofNat n => simp [integerText, signedText]
  | negSucc n => simp [integerText, signedText, Int.negSucc_lt_zero]

/-- The text of an integer determines the integer. -/
theorem Number.integerText_inj {left right : Int}
    (same : (integerText left).toList = (integerText right).toList) : left = right := by
  rw [toList_integerText, toList_integerText] at same
  obtain ⟨signs, digits⟩ :=
    signedText_inj (startsWithDigit_toDigits _) (startsWithDigit_toDigits _) same
  have magnitudes : left.natAbs = right.natAbs := by
    rw [← Nat.ofDigitChars_ten_toDigits (n := left.natAbs), digits, Nat.ofDigitChars_ten_toDigits]
  rw [decide_eq_decide] at signs
  omega

/-- The decimal that is written for a count of units. -/
def Decimal.written (units : Nat) : Decimal :=
  if units = 0 then ⟨0, 0⟩ else trimZeros 20 (shortest units)

namespace Binary64

theorem toList_text_finite (names : SpecialNames) (negative : Bool) {units : Nat}
    (representable : Representable units) :
    ((finite negative units representable).text names).toList =
      signedText negative (Decimal.written units).notate :=
  String.toList_ofList

/-- The decimal that is written for a double reads back as that double. -/
theorem ofDecimal_written {units : Nat} (representable : Representable units) :
    ofDecimal false (Decimal.written units) = .finite false units representable := by
  unfold Decimal.written
  split
  · next vanishes =>
    subst vanishes
    rfl
  · rw [ofDecimal_congr false (Decimal.value_trimZeros 20 _)]
    exact Decimal.ofDecimal_shortest representable

/-- The text of a finite double determines its sign and its magnitude. -/
theorem text_finite_inj {names : SpecialNames} {leftNegative rightNegative : Bool} {left right : Nat}
    {leftRepresentable : Representable left} {rightRepresentable : Representable right}
    (same : ((finite leftNegative left leftRepresentable).text names).toList =
      ((finite rightNegative right rightRepresentable).text names).toList) :
    leftNegative = rightNegative ∧ left = right := by
  rw [toList_text_finite, toList_text_finite] at same
  obtain ⟨signs, notations⟩ :=
    signedText_inj (isMarked_notate _).starts (isMarked_notate _).starts same
  obtain ⟨leftRead, leftScanned, leftValue⟩ := reads_notate (Decimal.written left)
  obtain ⟨rightRead, rightScanned, rightValue⟩ := reads_notate (Decimal.written right)
  rw [notations, rightScanned] at leftScanned
  obtain ⟨rfl, -⟩ := Prod.mk.inj (Option.some.inj leftScanned)
  have doubles : finite false left leftRepresentable = finite false right rightRepresentable := by
    rw [← ofDecimal_written leftRepresentable, ← ofDecimal_written rightRepresentable]
    exact ofDecimal_congr false (leftValue.symm.trans rightValue)
  exact ⟨signs, (finite.inj doubles).2⟩

end Binary64

end TreeScript
