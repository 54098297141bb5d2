import TreeScript.Method.Apply
import TreeScript.Proofs.Numeric.Comparison
import TreeScript.Proofs.Numeric.Numerals
import TreeScript.Proofs.Runs.Misreading

/-! # Numbers are read back from their texts

The scan for a number at the start of a text passes over blanks and a sign, and takes the longest numeral
that it finds. What is shown of an integer is taken as a whole and nothing after it, unless a digit follows,
or a zero turns out to be the start of a hexadecimal numeral. What is shown of a double, be it digits, a
decimal with a point or an exponent, or a name, is read as the same double; only the sign of a zero is lost.
-/

namespace TreeScript

namespace Numeral

variable {blanks digits rest body : List Char} {negative : Bool} {text : String}

/-! ## Blanks and signs -/

/-- A text that begins with neither a blank nor a sign. -/
def StartsPlainly (cs : List Char) : Prop := ∀ c ∈ cs.head?, isBlank c = false ∧ c ≠ '-' ∧ c ≠ '+'

theorem StartsWithDigit.startsPlainly (starts : StartsWithDigit body) : StartsPlainly body := by
  obtain ⟨first, found, digit⟩ := starts
  intro c head
  obtain rfl : first = c := Option.some.inj (found.symm.trans head)
  have decimal : isDecimal first = true := by
    rw [isDecimal, decimalValue?_of_isDigit digit]
    rfl
  refine ⟨isBlank_eq_false_of_isDecimal decimal, ?_, ?_⟩
  · rintro rfl
    cases digit
  · rintro rfl
    cases digit

theorem splitSign_signedText (plain : StartsPlainly body) : splitSign (signedText negative body) = (negative, body) := by
  cases negative with
  | true => rfl
  | false =>
    cases body with
    | nil => rfl
    | cons c rest =>
      obtain ⟨-, notMinus, notPlus⟩ := plain c rfl
      unfold splitSign signedText
      split
      · next found => exact absurd (List.cons.inj found).1 notMinus
      · next found => exact absurd (List.cons.inj found).1 notPlus
      · rfl

theorem dropWhile_isBlank_signedText (plain : StartsPlainly body) :
    (signedText negative body).dropWhile isBlank = signedText negative body := by
  cases negative with
  | true => exact List.dropWhile_cons_of_neg (by decide)
  | false =>
    cases body with
    | nil => rfl
    | cons c rest => exact List.dropWhile_cons_of_neg (by simp [(plain c rfl).1])

/-- The scan for a number finds the sign and what comes after it, whatever blanks stand before. -/
theorem splitSign_afterBlanks (negative : Bool) (areBlank : ∀ c ∈ blanks, isBlank c = true) (plain : StartsPlainly body) :
    splitSign ((blanks ++ signedText negative body).dropWhile isBlank) = (negative, body) := by
  rw [List.dropWhile_append_of_pos areBlank, dropWhile_isBlank_signedText plain, splitSign_signedText plain]

/-! ## Integers -/

/-- The hexadecimal digits. -/
def isHexadecimal (c : Char) : Bool := c.isDigit || ('a' ≤ c && c ≤ 'f') || ('A' ≤ c && c ≤ 'F')

/-- A text that makes a hexadecimal numeral of a zero before it. -/
def MarksHexadecimal (cs : List Char) : Prop :=
  ∃ mark digit tail, cs = mark :: digit :: tail ∧ (mark = 'x' ∨ mark = 'X') ∧ isHexadecimal digit = true

theorem spanHexadecimals_eq_nil {cs : List Char} (none : ∀ c ∈ cs.head?, isHexadecimal c = false) :
    spanHexadecimals cs = [] := by
  cases cs with
  | nil => rfl
  | cons c rest =>
    have stops : isHexadecimal c = false := none c rfl
    unfold spanHexadecimals
    dsimp only
    rw [List.takeWhile_cons_of_neg (by simpa [isHexadecimal] using stops)]
    rfl

/-- A mark after a zero does not stand among decimal digits. -/
theorem eq_zero_of_marked {mark : Char} {tail : List Char} (areDigits : AreDigits digits) (nonempty : digits ≠ [])
    (isMark : mark = 'x' ∨ mark = 'X') (same : digits ++ rest = '0' :: mark :: tail) :
    digits = ['0'] ∧ rest = mark :: tail := by
  obtain ⟨first, others, rfl⟩ := List.exists_cons_of_ne_nil nonempty
  cases others with
  | nil =>
    obtain ⟨rfl, rfl⟩ := List.cons.inj same
    exact ⟨rfl, rfl⟩
  | cons second others =>
    obtain ⟨rfl, -⟩ := List.cons.inj (List.cons.inj same).2
    have digit := areDigits second (by simp)
    rcases isMark with rfl | rfl <;> cases digit

/-- Decimal digits are not taken for hexadecimal ones. -/
theorem markedHexadecimals_digits (areDigits : AreDigits digits) (nonempty : digits ≠ [])
    (decimal : digits = ['0'] → ¬MarksHexadecimal rest) : markedHexadecimals (digits ++ rest) = [] := by
  unfold markedHexadecimals
  split
  · next mark tail same =>
    split
    · next isMark =>
      obtain ⟨zero, rfl⟩ := eq_zero_of_marked areDigits nonempty isMark same
      refine spanHexadecimals_eq_nil fun c head => ?_
      cases tail with
      | nil => cases head
      | cons digit tail =>
        cases head
        exact Bool.eq_false_iff.mpr fun marked => decimal zero ⟨mark, c, tail, rfl, isMark, marked⟩
    · rfl
  · rfl

/-- Decimal digits are read as an integer, up to where they stop. -/
theorem leadingInteger_digits (areBlank : ∀ c ∈ blanks, isBlank c = true) (areDigits : AreDigits digits)
    (nonempty : digits ≠ []) (stops : Stops rest) (decimal : digits = ['0'] → ¬MarksHexadecimal rest)
    (spelled : text.toList = blanks ++ signedText negative (digits ++ rest)) :
    leadingInteger text = .int (signed negative (Nat.ofDigitChars 10 digits 0)) ∧
      leadingDecimals text = digits.length := by
  have split := splitSign_afterBlanks negative areBlank (areDigits.starts nonempty rest).startsPlainly
  have someDigits : digitValues digits ≠ [] := mt digitValues_eq_nil.mp nonempty
  unfold leadingInteger leadingDecimals
  rw [spelled, split]
  dsimp only
  rw [spanDecimals_append areDigits stops, markedHexadecimals_digits areDigits nonempty decimal]
  refine ⟨?_, length_digitValues digits⟩
  split
  · next none => exact absurd (Prod.mk.inj none).1 someDigits
  · next read =>
    obtain ⟨rfl, -⟩ := Prod.mk.inj read
    rw [ofDigits_digitValues]
  · next hexadecimal => exact absurd rfl fun none => hexadecimal _ _ none rfl

/-! ## Doubles -/

theorem reads_digits (areDigits : AreDigits digits) (nonempty : digits ≠ []) :
    Reads digits ⟨Nat.ofDigitChars 10 digits 0, 0⟩ := by
  have ends : Stops [] := by rintro _ ⟨⟩
  have span : spanDecimals digits = (digitValues digits, []) := by
    simpa only [List.append_nil] using spanDecimals_append areDigits ends
  refine ⟨⟨Nat.ofDigitChars 10 digits 0, 0⟩, ?_, rfl⟩
  simp [scanDecimal?, span, nonempty, scanExponent]

/-- A text that is scanned as a whole is read as the double nearest to what it denotes. -/
theorem leadingDouble_of_reads {decimal : Decimal} (areBlank : ∀ c ∈ blanks, isBlank c = true)
    (starts : StartsWithDigit body) (reads : Reads body decimal)
    (spelled : text.toList = blanks ++ signedText negative body) :
    leadingDouble text = .ofDecimal negative decimal := by
  have split := splitSign_afterBlanks negative areBlank starts.startsPlainly
  obtain ⟨read, scanned, same⟩ := reads
  have unnamed : ¬"Infinity".toList.isPrefixOf body = true := by
    obtain ⟨first, found, digit⟩ := starts
    cases body with
    | nil => cases found
    | cons c rest =>
      cases found
      intro named
      have initial : 'I' = first := by
        simp only [List.isPrefixOf_iff_prefix] at named
        exact (List.cons_prefix_cons.mp named).1
      subst initial
      cases digit
  unfold leadingDouble
  rw [spelled, split]
  dsimp only
  rw [if_neg unnamed, scanned]
  exact Binary64.ofDecimal_congr negative same

theorem leadingDouble_infinity (areBlank : ∀ c ∈ blanks, isBlank c = true)
    (spelled : text.toList = blanks ++ signedText negative "Infinity".toList) :
    leadingDouble text = .infinite negative := by
  have plain : StartsPlainly "Infinity".toList := by
    rintro _ ⟨⟩
    decide
  unfold leadingDouble
  rw [spelled, splitSign_afterBlanks _ areBlank plain]
  rfl

theorem leadingDouble_nan (areBlank : ∀ c ∈ blanks, isBlank c = true)
    (spelled : text.toList = blanks ++ "NaN".toList) : leadingDouble text = .nan := by
  have plain : StartsPlainly "NaN".toList := by
    rintro _ ⟨⟩
    decide
  unfold leadingDouble
  rw [spelled, show "NaN".toList = signedText false "NaN".toList from rfl, splitSign_afterBlanks _ areBlank plain]
  rfl

end Numeral

namespace Binary64

variable {negative : Bool} {units : Nat} {representable : Representable units}

/-- Reading a decimal rounds its magnitude, whatever its sign. -/
theorem ofDecimal_signed {decimal : Decimal} (read : ofDecimal false decimal = .finite false units representable)
    (negative : Bool) : ofDecimal negative decimal = .finite negative units representable := by
  by_cases vanishes : decimal.coefficient = 0
  · rw [ofDecimal, if_pos vanishes, zero] at read ⊢
    obtain ⟨-, rfl⟩ := finite.inj read
    rfl
  · rw [ofDecimal_eq_ofQuotient _ vanishes, ofQuotient] at read ⊢
    split at read
    · next held =>
      obtain ⟨-, same⟩ := finite.inj read
      subst same
      exact dif_pos held
    · cases read

/-- A whole number is read exactly. -/
theorem ofDecimal_whole {n : Nat} (whole : units = n * unitsPerOne) (negative : Bool) :
    ofDecimal negative ⟨n, 0⟩ = .finite negative units representable := by
  by_cases vanishes : n = 0
  · subst vanishes
    obtain rfl : units = 0 := whole.trans (Nat.zero_mul _)
    rfl
  · have exact := ofQuotient_of_representable negative representable Nat.one_pos
    rw [Nat.mul_one] at exact
    rw [ofDecimal_eq_ofQuotient negative vanishes, ← exact]
    change ofQuotient negative (n * 10 ^ 0 * unitsPerOne) 1 = _
    rw [Nat.pow_zero, Nat.mul_one, whole]

end Binary64

open Numeral

variable {blanks : List Char} {text : String}

/-- What is shown of an integer is read as that integer, with all of its digits. -/
theorem leadingInteger_integerText {n : Int} {rest : List Char} (areBlank : ∀ c ∈ blanks, isBlank c = true)
    (stops : Stops rest) (decimal : n = 0 → ¬MarksHexadecimal rest)
    (spelled : text.toList = blanks ++ (Number.integerText n).toList ++ rest) :
    leadingInteger text = .int n ∧ leadingDecimals text = (Nat.toDigits 10 n.natAbs).length := by
  have zero (only : Nat.toDigits 10 n.natAbs = ['0']) : n = 0 := by
    have vanishes : n.natAbs = 0 := by
      rw [← Nat.ofDigitChars_ten_toDigits (n := n.natAbs), only]
      rfl
    exact Int.natAbs_eq_zero.mp vanishes
  have spelled' : text.toList =
      blanks ++ signedText (decide (n < 0)) (Nat.toDigits 10 n.natAbs ++ rest) := by
    rw [spelled, Number.toList_integerText, List.append_assoc]
    cases decide (n < 0) <;> rfl
  obtain ⟨read, counted⟩ :=
    leadingInteger_digits areBlank (areDigits_toDigits _) Nat.toDigits_ne_nil stops (decimal ∘ zero) spelled'
  refine ⟨?_, counted⟩
  rw [read, Nat.ofDigitChars_ten_toDigits]
  exact congrArg Number.int (Binary64.signedUnits_natAbs n)

/-- A host reads the integers that it writes. -/
theorem Host.reads_length_toDigits (host : Host) (n : Int) :
    host.reads (Nat.toDigits 10 n.natAbs).length = host.writes n := by
  unfold reads writes
  by_cases unlimited : host.digitLimit = 0
  · simp [unlimited]
  · simp only [Nat.length_toDigits_le_iff (by decide : 1 < 10) (Nat.pos_of_ne_zero unlimited)]

/-- An integer is shown if the host writes it. -/
theorem Exec.textOf_integer (host : Host) (store : Store) {n : Int} {value : Value}
    (integer : value ∈ [Value.int n, .bigint n]) :
    textOf value host store =
      if host.writes n then .done (Number.integerText n) store else .stopped (.fault (host.tooLong none)) store := by
  have shown : store.text? value = some (Number.integerText n) ∧ store.integers false value = [n] := by
    rcases List.mem_cons.mp integer with rfl | member
    · exact ⟨rfl, rfl⟩
    · rw [List.mem_singleton.mp member]
      exact ⟨rfl, rfl⟩
  simp only [textOf, spell, shown.1, shown.2, List.all_cons, List.all_nil, Bool.and_true]

/-- What is shown of an integer is read back if the host writes it. -/
theorem TextMethod.parseInt_integerText (host : Host) (store : Store) (args : List Value) {n : Int} {rest : List Char}
    (areBlank : ∀ c ∈ blanks, isBlank c = true) (stops : Stops rest) (decimal : n = 0 → ¬MarksHexadecimal rest)
    (spelled : text.toList = blanks ++ (Number.integerText n).toList ++ rest) :
    TextMethod.parseInt.apply text args host store =
      if host.writes n then .done (.int n) store
      else .stopped (.fault (host.tooLong (some (Nat.toDigits 10 n.natAbs).length))) store := by
  obtain ⟨read, counted⟩ := leadingInteger_integerText areBlank stops decimal spelled
  change Exec.andThen (Exec.ensureReadable _) _ host store = _
  simp only [Exec.andThen, Exec.ensureReadable, counted, read, host.reads_length_toDigits]
  cases host.writes n <;> rfl

/-- What is shown of a finite double is read as a double with the same place on the number line. -/
theorem leadingDouble_text_finite {negative : Bool} {units : Nat} {representable : Representable units}
    (areBlank : ∀ c ∈ blanks, isBlank c = true)
    (spelled : text.toList = blanks ++ (Number.float (.finite negative units representable)).text.toList) :
    ∃ sign, leadingDouble text = .finite sign units representable ∧
      Binary64.signedUnits sign units = Binary64.signedUnits negative units := by
  unfold Number.text at spelled
  dsimp only at spelled
  split at spelled
  · next whole =>
    have isWhole : units = units / unitsPerOne * unitsPerOne := by
      rw [Bool.and_eq_true, Binary64.isInteger, beq_iff_eq] at whole
      exact (Nat.div_mul_cancel (Nat.dvd_of_mod_eq_zero whole.1)).symm
    rw [Number.toList_integerText, Binary64.natAbs_signedUnits] at spelled
    have reads : Reads (Nat.toDigits 10 (units / unitsPerOne)) ⟨units / unitsPerOne, 0⟩ := by
      have reads := reads_digits (areDigits_toDigits (units / unitsPerOne)) Nat.toDigits_ne_nil
      rwa [Nat.ofDigitChars_ten_toDigits] at reads
    refine ⟨decide (Binary64.signedUnits negative (units / unitsPerOne) < 0), ?_, ?_⟩
    · rw [leadingDouble_of_reads areBlank (startsWithDigit_toDigits _) reads spelled]
      exact Binary64.ofDecimal_whole isWhole _
    · have sign := Binary64.signedUnits_natAbs (Binary64.signedUnits negative (units / unitsPerOne))
      rw [Binary64.natAbs_signedUnits] at sign
      generalize units / unitsPerOne = n at isWhole sign
      rw [isWhole, Binary64.signedUnits_mul, Binary64.signedUnits_mul, sign]
  · rw [Binary64.toList_text_finite] at spelled
    refine ⟨negative, ?_, rfl⟩
    rw [leadingDouble_of_reads areBlank (isMarked_notate _).starts (reads_notate _) spelled]
    exact Binary64.ofDecimal_signed (Binary64.ofDecimal_written representable) negative

/-- What is shown of a double is read as a double that is equal to it, unless there is none. -/
theorem compare?_leadingDouble_text {double : Binary64} (proper : double ≠ .nan)
    (areBlank : ∀ c ∈ blanks, isBlank c = true)
    (spelled : text.toList = blanks ++ (Number.float double).text.toList) :
    (Number.float (leadingDouble text)).compare? (.float double) = some .eq := by
  cases double with
  | nan => exact absurd rfl proper
  | infinite negative =>
    have named : (Number.float (.infinite negative)).text.toList = signedText negative "Infinity".toList := by
      cases negative <;> rfl
    rw [named] at spelled
    rw [leadingDouble_infinity areBlank spelled]
    exact Number.compare?_self nofun
  | finite negative units representable =>
    obtain ⟨sign, read, same⟩ := leadingDouble_text_finite areBlank spelled
    rw [read]
    refine Number.compare?_eq_some_iff.mpr ⟨.point _, .point _, rfl, rfl, ?_⟩
    rw [Position.compare_point_eq_iff, same]

/-- Reading undoes showing. An integer that the host writes is read as that integer, after any blanks and
before any text that does not go on with a digit or make a hexadecimal numeral of a zero; one that it does not
write is too long to be read as well. What is shown of a double is read as NaN if it is NaN, and otherwise as
a double that is strictly equal to it. -/
theorem numbers_are_read_back (host : Host) (store : Store) (args : List Value) (blanks : String)
    (areBlank : ∀ c ∈ blanks.toList, isBlank c = true) :
    (∀ (n : Int) (rest : String), Stops rest.toList → (n = 0 → ¬MarksHexadecimal rest.toList) →
      ∀ value ∈ [Value.int n, .bigint n],
        (host.writes n = true → ∃ text, Exec.textOf value host store = .done text store ∧
          TextMethod.parseInt.apply (blanks ++ text ++ rest) args host store = .done (.int n) store) ∧
        (host.writes n = false → Exec.textOf value host store = .stopped (.fault (host.tooLong none)) store ∧
          ∃ counted, TextMethod.parseInt.apply (blanks ++ Number.integerText n ++ rest) args host store =
            .stopped (.fault (host.tooLong counted)) store)) ∧
    (∀ double : Binary64, ∃ text, Exec.textOf (.number (.float double)) host store = .done text store ∧
      ∃ read, TextMethod.parseFloat.apply (blanks ++ text) args host store = .done (.number (.float read)) store ∧
        if double.isNaN then read = .nan
        else (Value.number (.float read)).strictEquals (.number (.float double)) = true) := by
  constructor
  · intro n rest stops decimal value integer
    have shown := Exec.textOf_integer host store integer
    have spelled : (blanks ++ Number.integerText n ++ rest).toList =
        blanks.toList ++ (Number.integerText n).toList ++ rest.toList := by
      rw [String.toList_append, String.toList_append]
    have read := TextMethod.parseInt_integerText host store args areBlank stops decimal spelled
    refine ⟨fun written => ?_, fun unwritten => ?_⟩
    · rw [written] at shown read
      exact ⟨_, shown, read⟩
    · rw [unwritten] at shown read
      exact ⟨shown, _, read⟩
  · intro double
    refine ⟨_, rfl, _, rfl, ?_⟩
    have spelled := String.toList_append (s := blanks) (t := (Number.float double).text)
    split
    · next isNaN =>
      cases double with
      | nan => exact leadingDouble_nan areBlank spelled
      | infinite | finite => cases isNaN
    · next proper =>
      refine beq_iff_eq.mpr (compare?_leadingDouble_text ?_ areBlank spelled)
      rintro rfl
      exact proper rfl

/-- A zero is read although a mark follows, since no hexadecimal digit comes after it; and the zero that is
read for a negative zero is strictly equal to it. -/
theorem zeros_are_read_back :
    (∀ c ∈ "\t ".toList, isBlank c = true) ∧ Stops "xyz".toList ∧ ¬MarksHexadecimal "xyz".toList ∧
      (∃ text, Exec.textOf (.int 0) default .initial = .done text .initial ∧
        TextMethod.parseInt.apply ("\t " ++ text ++ "xyz") [] default .initial = .done (.int 0) .initial) ∧
      ∃ text, Exec.textOf (.number (.float (.zero true))) default .initial = .done text .initial ∧
        ∃ read, TextMethod.parseFloat.apply ("\t " ++ text) [] default .initial =
            .done (.number (.float read)) .initial ∧
          (Value.number (.float read)).strictEquals (.number (.float (.zero true))) = true := by
  have areBlank : ∀ c ∈ "\t ".toList, isBlank c = true := List.all_eq_true.mp (by decide)
  have stops : Stops "xyz".toList := by
    rintro _ ⟨⟩
    decide
  have decimal : ¬MarksHexadecimal "xyz".toList := by
    rintro ⟨mark, digit, tail, same, -, hexadecimal⟩
    cases same
    revert hexadecimal
    decide
  have written (host : Host) : host.writes 0 = true := by simp [Host.writes]
  obtain ⟨integers, doubles⟩ := numbers_are_read_back default .initial [] "\t " areBlank
  have zero := (integers 0 "xyz" stops (fun _ => decimal) (.int 0) List.mem_cons_self).1
  exact ⟨areBlank, stops, decimal, zero (written default), doubles (.zero true)⟩

/-- Some integers have more digits than the host allows, and are neither shown nor read. -/
theorem long_integers_are_not_read_back :
    let host : Host := default
    ∃ n : Int, n = (10 : Int) ^ host.digitLimit ∧
      Exec.textOf (.int n) host .initial = .stopped (.fault (host.tooLong none)) .initial ∧
      ∃ counted, TextMethod.parseInt.apply (Number.integerText n) [] host .initial =
        .stopped (.fault (host.tooLong counted)) .initial := by
  intro host
  obtain ⟨n, power, unwritten⟩ : ∃ n : Int, n = (10 : Int) ^ host.digitLimit ∧ host.writes n = false := by
    refine ⟨_, rfl, ?_⟩
    simp only [Host.writes, Int.natAbs_pow, Bool.or_eq_false_iff, beq_eq_false_iff_ne, decide_eq_false_iff_not]
    exact ⟨Nat.succ_ne_zero _, Nat.lt_irrefl _⟩
  have shown := Exec.textOf_integer host .initial (List.mem_cons_self (a := Value.int n) (l := [.bigint n]))
  have spelled : (Number.integerText n).toList = [] ++ (Number.integerText n).toList ++ [] := by simp
  have read := TextMethod.parseInt_integerText host .initial [] (by simp) (by rintro _ ⟨⟩)
    (by rintro - ⟨_, _, _, none, -⟩; cases none) spelled
  rw [unwritten] at shown read
  exact ⟨n, power, shown, _, read⟩

end TreeScript
