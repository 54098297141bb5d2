import TreeScript.Proofs.Runs.Interruption

/-! # Keys that look like positions

A text of digits is a position in an array or a text. Digits are more than the decimal digits, though: a
superscript is a digit, and no number can be made of it. A property that is read by such a key is the one
place where a text that was taken for a number turns out to be none.
-/

namespace TreeScript

/-! ## Texts of decimal digits -/

theorem exists_start_of_isDecimal {c : Char} (decimal : isDecimal c = true) :
    ∃ start ∈ decimalZeros, start ≤ c.toNat ∧ c.toNat < start + 10 ∧ decimalValue? c = some (c.toNat - start) := by
  obtain ⟨value, found⟩ := Option.isSome_iff_exists.mp decimal
  obtain ⟨start, first, rfl⟩ := Option.map_eq_some_iff.mp found
  have inside := List.find?_some first
  simp only [Bool.and_eq_true, decide_eq_true_eq] at inside
  exact ⟨start, List.mem_of_find?_eq_some first, inside.1, inside.2, found⟩

theorem isBlank_eq_false_of_isDecimal {c : Char} (decimal : isDecimal c = true) : isBlank c = false := by
  have apart : ∀ start ∈ decimalZeros, ∀ range ∈ blankTable, range.2 < start ∨ start + 10 ≤ range.1 := by decide
  obtain ⟨start, member, low, high, -⟩ := exists_start_of_isDecimal decimal
  refine List.any_eq_false.mpr fun range known inside => ?_
  simp only [Bool.and_eq_true, decide_eq_true_eq] at inside
  have := apart start member range known
  omega

namespace Numeral

theorem isSome_digitIn?_of_isDecimal {c : Char} (decimal : isDecimal c = true) :
    (digitIn? 10 c).isSome = true := by
  obtain ⟨start, -, low, high, value⟩ := exists_start_of_isDecimal decimal
  have small : c.toNat - start < 10 := by omega
  simp [digitIn?, digitValue?, value, Option.filter, small]

variable {cs : List Char}

theorem isSome_digits?_of_decimals (some : cs ≠ []) (decimals : cs.all isDecimal = true) :
    (digits? 10 cs).isSome = true := by
  induction cs using digits?.induct with
  | case1 => exact absurd rfl some
  | case2 c =>
    rw [digits?, Option.isSome_map]
    exact isSome_digitIn?_of_isDecimal (by simpa using decimals)
  | case3 c rest _ => simp [show isDecimal '_' = false by decide] at decimals
  | case4 c rest more plain ih =>
    simp only [List.all_cons, Bool.and_eq_true] at decimals
    obtain ⟨digit, first⟩ := Option.isSome_iff_exists.mp (isSome_digitIn?_of_isDecimal decimals.1)
    obtain ⟨digits, others⟩ := Option.isSome_iff_exists.mp (ih more decimals.2)
    rw [digits?.eq_4 10 c rest more plain, first, others]
    rfl

theorem dropWhile_isMargin (decimals : cs.all isDecimal = true) : cs.dropWhile isMargin = cs := by
  cases cs with
  | nil => rfl
  | cons c rest =>
    simp only [List.all_cons, Bool.and_eq_true] at decimals
    have blank := isBlank_eq_false_of_isDecimal decimals.1
    exact List.dropWhile_cons_of_neg (by simp [isMargin, blank])

theorem splitSign_of_decimals (decimals : cs.all isDecimal = true) : splitSign cs = (false, cs) := by
  unfold splitSign
  split
  · simp [show isDecimal '-' = false by decide] at decimals
  · simp [show isDecimal '+' = false by decide] at decimals
  · rfl

/-- A text of decimal digits is read as these digits, without a sign. -/
theorem integer?_of_decimals (decimals : cs.all isDecimal = true) :
    integer? cs = (digits? 10 cs).map fun digits => ((ofDigits 10 digits : Nat) : Int) := by
  have untrimmed : trimMargin cs = cs := by
    rw [trimMargin, dropWhile_isMargin decimals, dropWhile_isMargin (by rwa [List.all_reverse]),
      List.reverse_reverse]
  rw [integer?, untrimmed, splitSign_of_decimals decimals]
  exact (Option.map_eq_bind ..).symm

/-- Decimal digits always make a number. -/
theorem isSome_integer?_of_decimals (some : cs ≠ []) (decimals : cs.all isDecimal = true) :
    (integer? cs).isSome = true := by
  rw [integer?_of_decimals decimals, Option.isSome_map]
  exact isSome_digits?_of_decimals some decimals

end Numeral

/-- Some of the digits are not decimal. -/
theorem Value.IsOddNumeral.not_decimals {key : Value} {text : String} (numeral : key.IsOddNumeral text) :
    text.toList.all isDecimal = false := by
  have digits := numeral.digits
  simp only [isDigits, Bool.and_eq_true, Bool.not_eq_true'] at digits
  have some : text.toList ≠ [] := by simpa using digits.1
  by_contra decimals
  have integer := Numeral.isSome_integer?_of_decimals some (Bool.eq_true_of_not_eq_false decimals)
  rw [numeral.odd] at integer
  cases integer

/-! ## Reading by such a text -/

/-- Faults that are read off the store leave it as it is. -/
def Conduct.reading (store : Store) (faults : Fault → Prop) : Conduct where
  holds := (· = store)
  writable _ := True
  makes _ := True
  allows
    | .fault cause => faults cause
    | _ => True

/-- Why reading a property can crash. -/
theorem readProperty_eq_fault {target key : Value} {host : Host} {store after : Store} {cause : Fault}
    (crashed : readProperty target key host store = .stopped (.fault cause) after) :
    after = store ∧ (cause.isExcess = true ∨
      ∃ text, cause = .invalidInteger (.notDecimal text) ∧ target.isSequence = true ∧ key.IsOddNumeral text) := by
  have follows : (readProperty target key).Follows (.reading store fun cause => cause.isExcess = true ∨
      ∃ text, cause = .invalidInteger (.notDecimal text) ∧ target.isSequence = true ∧ key.IsOddNumeral text) :=
    follows_readProperty_of (fun _ => .inl rfl) (.inl rfl) fun text sequence numeral => .inr ⟨text, rfl, sequence, numeral⟩
  have ends := follows.meets host store rfl
  rw [crashed] at ends
  exact ends.symm

/-- A node reads a property of a value by a key: the value is found first, then the key. -/
inductive Node.Reads (ev : Evaluator) (host : Host) (frame : FrameRef) (store : Store) :
    Node → Value → Value → Store → Prop
  | property {target : Node} {receiver : Value} {after : Store} (name : String)
      (found : ev.exec target frame host store = .done receiver after) :
      Reads ev host frame store (.property target name) receiver (.string name) after
  | element {target key : Node} {receiver keyValue : Value} {middle after : Store}
      (found : ev.exec target frame host store = .done receiver middle)
      (keyed : ev.exec key frame host middle = .done keyValue after) :
      Reads ev host frame store (.element target key) receiver keyValue after

/-- At this moment a property of an array or a text is read by a text of digits that are not all decimal;
the store is as given when the text is found to be no number. -/
structure RunMoment.Misreads (host : Host) (effort : Nat) (text : String) (after : Store) (moment : RunMoment) :
    Prop where
  reads : ∃ receiver : Value, receiver.isSequence = true ∧
    moment.node.Reads (evaluator effort) host moment.frame moment.store receiver (.string text) after
  digits : isDigits text = true
  odd : text.toList.all isDecimal = false

end TreeScript
