import TreeScript.Proofs.Control.Escape
import TreeScript.Proofs.Numeric.Reading
import TreeScript.Proofs.Runs.History

/-! # Writing and reading elements

What is written at a position of an array is read at that position again, whether the position is given as
an integer, as a double or as its decimal text, if that is not too long to be read. A write beyond the end
pads the array with undefined up to the position, and nothing else in the store changes. A write that is
refused changes nothing at all.
-/

namespace TreeScript

open Exec

/-! ## Numbers that are positions -/

namespace Number

variable {number : Number} {position : Nat}

/-- A double that is equal to a natural number is whole, and truncated it is that number. -/
theorem truncated_eq_iff {negative : Bool} {units : Nat} :
    units % unitsPerOne = 0 ∧ Binary64.signedUnits negative (units / unitsPerOne) = position ↔
      Binary64.signedUnits negative units = position * (unitsPerOne : Int) := by
  constructor
  · rintro ⟨whole, same⟩
    rw [← same, ← Binary64.signedUnits_mul, Nat.div_mul_cancel (Nat.dvd_of_mod_eq_zero whole)]
  · intro same
    have count := Binary64.eq_of_signedUnits_eq same
    rw [count, Binary64.signedUnits_mul] at same
    rw [count, Nat.mul_mod_left, Nat.mul_div_cancel _ unitsPerOne_pos]
    exact ⟨rfl, Int.eq_of_mul_eq_mul_right unitsPerOne_ne_zero same⟩

theorem toIndex?_float (double : Binary64) :
    (Number.float double).toIndex? = .ok (if double.isInteger then double.truncate?.bind Int.toNat? else none) := by
  change Except.ok _ = Except.ok _
  congr 1
  cases double.isInteger with
  | false => rfl
  | true =>
    cases double.truncate? with
    | none => rfl
    | some n => cases n <;> rfl

/-- The index that a number denotes is the natural number to which it is equal. -/
theorem toIndex?_eq_some_iff :
    number.toIndex? = .ok (some position) ↔ number.IsNarrow ∧ number.compare? (.int position) = some .eq := by
  rw [compare?_int_eq_iff]
  cases number with
  | int m =>
    change _ ↔ _ ∧ some (Position.point (m * unitsPerOne)) = _
    rw [Option.some.injEq, Position.point.injEq, Int.mul_eq_mul_right_iff unitsPerOne_ne_zero]
    unfold IsNarrow toIndex?
    cases found : (Number.int m).toBinary64 with
    | error fault => simp
    | ok double =>
      cases m with
      | ofNat | negSucc => simp
  | float double =>
    have narrow : (Number.float double).IsNarrow := ⟨double, rfl⟩
    rw [toIndex?_float, and_iff_right narrow]
    cases double with
    | nan => constructor <;> intro same <;> cases same
    | infinite negative => cases negative <;> constructor <;> intro same <;> cases same
    | finite negative units _ =>
      change Except.ok (if (units % unitsPerOne == 0) = true then
        (Binary64.signedUnits negative (units / unitsPerOne)).toNat? else none) = _ ↔
        some (Position.point (Binary64.signedUnits negative units)) = _
      rw [Option.some.injEq, Position.point.injEq, ← truncated_eq_iff, ← Int.mem_toNat?]
      by_cases whole : units % unitsPerOne = 0
      · simp [whole]
      · simp [whole]

theorem compare?_ne_of_toIndex?_none (found : number.toIndex? = .ok none) (position : Nat) :
    number.compare? (.int position) ≠ some .eq := by
  intro equal
  cases stands : number.toBinary64 with
  | error fault =>
    rw [toIndex?, stands] at found
    cases found
  | ok double =>
    rw [toIndex?_eq_some_iff.mpr ⟨⟨double, stands⟩, equal⟩] at found
    cases found

/-- Only an integer beyond the doubles is refused. -/
theorem toIndex?_eq_error {fault : ArithmeticFault} (refused : number.toIndex? = .error fault) :
    ∃ n, number = .int n ∧ Binary64.ofInt? n = none := by
  cases number with
  | float double =>
    rw [toIndex?_float] at refused
    cases refused
  | int n =>
    refine ⟨n, rfl, ?_⟩
    by_contra fits
    obtain ⟨double, found⟩ := isNarrow_int_iff.mpr (Option.isSome_iff_ne_none.mpr fits)
    rw [toIndex?, found] at refused
    cases refused

end Number

/-! ## Texts that are positions -/

namespace Numeral

theorem digitIn?_of_isDigit {c : Char} (digit : c.isDigit = true) : digitIn? 10 c = some (c.toNat - '0'.toNat) := by
  have small : c.toNat - '0'.toNat < 10 := by
    simp only [Char.isDigit, ge_iff_le, Bool.and_eq_true, decide_eq_true_eq] at digit
    have high : c.toNat ≤ 57 := digit.2
    have zero : '0'.toNat = 48 := rfl
    omega
  rw [digitIn?, digitValue?, decimalValue?_of_isDigit digit]
  simp only [Option.filter_some, small, decide_true, if_true]

theorem digits?_of_areDigits {cs : List Char} (nonempty : cs ≠ []) (digits : AreDigits cs) :
    digits? 10 cs = some (digitValues cs) := by
  induction cs using digits?.induct with
  | case1 => exact absurd rfl nonempty
  | case2 c =>
    rw [digits?, digitIn?_of_isDigit (digits c (by simp))]
    rfl
  | case3 c rest _ =>
    have underscore := digits '_' (by simp)
    cases underscore
  | case4 c rest more plain ih =>
    have first := digitIn?_of_isDigit (digits c (by simp))
    have others := ih more fun other member => digits other (List.mem_cons_of_mem c member)
    rw [digits?.eq_4 10 c rest more plain, first, others]
    rfl

theorem AreDigits.all_isDecimal {cs : List Char} (digits : AreDigits cs) : cs.all isDecimal = true := by
  rw [List.all_eq_true]
  intro c member
  rw [isDecimal, decimalValue?_of_isDigit (digits c member)]
  rfl

/-- The decimal text of a natural number is read as that number. -/
theorem integer?_toDigits (n : Nat) : integer? (Nat.toDigits 10 n) = some (n : Int) := by
  have digits := areDigits_toDigits n
  rw [integer?_of_decimals digits.all_isDecimal, digits?_of_areDigits Nat.toDigits_ne_nil digits]
  simp

theorem length_spanDecimals_toDigits (n : Nat) :
    (spanDecimals (Nat.toDigits 10 n)).1.length = (Nat.toDigits 10 n).length := by
  have ends : Stops [] := by rintro _ ⟨⟩
  have span := spanDecimals_append (areDigits_toDigits n) ends
  rw [List.append_nil] at span
  rw [span]
  exact length_digitValues _

end Numeral

/-! ## Keys -/

/-- The keys by which a host finds a position: the numbers that are equal to it, and its decimal text unless
that is too long. -/
def Value.Denotes (key : Value) (host : Host) (position : Nat) : Prop :=
  key.strictEquals (.int position) = true ∨ key = .string (toString position) ∧ host.writes position = true

variable {host : Host} {store : Store} {key : Value} {position : Nat}

theorem strictEquals_int_iff :
    key.strictEquals (.int position) = true ↔
      ∃ number, key = .number number ∧ number.compare? (.int position) = some .eq := by
  constructor
  · intro equal
    cases key with
    | number number => exact ⟨number, rfl, eq_of_beq equal⟩
    | _ => cases equal
  · rintro ⟨number, rfl, equal⟩
    exact beq_iff_eq.mpr equal

theorem toList_toString (n : Nat) : (toString n).toList = Nat.toDigits 10 n := String.toList_ofList

theorem isDigits_toString (n : Nat) : isDigits (toString n) = true := by
  have digits : (Nat.toDigits 10 n).all isAnyDigit = true := by
    rw [List.all_eq_true]
    intro c member
    have decimal := List.all_eq_true.mp (Numeral.areDigits_toDigits n).all_isDecimal c member
    rw [isAnyDigit, decimal, Bool.true_or]
  have nonempty : (toString n).isEmpty = false := by
    rw [← Bool.not_eq_true, String.isEmpty_iff, ← String.toList_eq_nil_iff, toList_toString]
    exact Nat.toDigits_ne_nil
  rw [isDigits, toList_toString, digits, nonempty]
  rfl

/-- Every key of a position is found to denote it, if there is a double for it. -/
theorem positionOf?_of_denotes (narrow : (Number.int position).IsNarrow) (denotes : key.Denotes host position) :
    positionOf? key host store = .done (some position) store := by
  rcases denotes with equal | ⟨rfl, written⟩
  · obtain ⟨number, rfl, same⟩ := strictEquals_int_iff.mp equal
    have index := Number.toIndex?_eq_some_iff.mpr ⟨(Number.isNarrow_iff_of_equal same).mpr narrow, same⟩
    change ofArithmetic number.toIndex? host store = _
    rw [index]
    rfl
  · have index : (Number.int position).toIndex? = .ok (some position) :=
      Number.toIndex?_eq_some_iff.mpr ⟨narrow, Number.compare?_int_eq_iff.mpr rfl⟩
    have readable : ensureReadable (Numeral.spanDecimals (Nat.toDigits 10 position)).1.length host store =
        .done () store := by
      rw [Numeral.length_spanDecimals_toDigits, ensureReadable, if_pos]
      exact (host.reads_length_toDigits position).trans written
    simp only [positionOf?, isDigits_toString, if_true, toList_toString, Numeral.integer?_toDigits, index]
    rw [bind_of_done readable]
    rfl

theorem Value.Denotes.ne_length (denotes : key.Denotes host position) : key ≠ .string "length" := by
  rintro rfl
  rcases denotes with equal | same
  · cases equal
  · have digits : isDigits "length" = true := by
      rw [Value.string.inj same.1]
      exact isDigits_toString position
    revert digits
    decide

/-- By a key of a position, the element at the position is read. -/
theorem readProperty_of_denotes {ref : ArrayRef} (narrow : (Number.int position).IsNarrow)
    (denotes : key.Denotes host position) :
    readProperty (.array ref) key host store = .done ((store.elements ref).getD position .undefined) store := by
  change readItem (store.elements ref).size ((store.elements ref).getD · .undefined) key host store = _
  rw [readItem, if_neg denotes.ne_length, bind_of_done (positionOf?_of_denotes narrow denotes)]
  by_cases inside : position < (store.elements ref).size
  · simp only [inside, if_true]
    rfl
  · simp only [inside, if_false]
    rw [Array.getD_eq_getD_getElem?, Array.getElem?_eq_none (Nat.not_lt.mp inside)]
    rfl

/-! ## Writing -/

/-- A value is written at a position of an array: the array is as long as it has to be, the elements at its
other positions are the ones that were there before, the gap up to the position is filled with undefined,
and nothing else is changed. -/
structure Store.WritesAt (store : Store) (ref : ArrayRef) (position : Nat) (value : Value) (later : Store) :
    Prop where
  size : (later.elements ref).size = max (store.elements ref).size (position + 1)
  here : (later.elements ref)[position]? = some value
  kept : ∀ other < (store.elements ref).size, other ≠ position →
    (later.elements ref)[other]? = (store.elements ref)[other]?
  gap : ∀ other < position, (store.elements ref).size ≤ other → (later.elements ref)[other]? = some .undefined
  others : ∀ other ≠ ref, later.elements other = store.elements other
  rest : later = { store with arrays := later.arrays }

/-- The reasons for which a host writes nothing at an index of a target. -/
inductive Store.RefusesWrite (store : Store) (host : Host) : Value → Value → Stop → Prop
  | target {target index : Value} {cause : Failure} (other : ∀ ref, target ≠ .array ref)
      (code : cause.code = "E302") : RefusesWrite store host target index (.failure cause)
  | index {ref : ArrayRef} {index : Value} {cause : Failure}
      (other : ∀ position : Nat, index.strictEquals (.int position) = false) (code : cause.code = "E311") :
      RefusesWrite store host (.array ref) index (.failure cause)
  | wide {ref : ArrayRef} {n : Int} {cause : Fault} (beyond : Binary64.ofInt? n = none)
      (overflow : cause.isOverflow = true) : RefusesWrite store host (.array ref) (.int n) (.fault cause)
  | far {ref : ArrayRef} {index : Value} {position : Nat} {cause : Fault}
      (equal : index.strictEquals (.int position) = true)
      (gap : maximalGap < position + 1 - (store.elements ref).size) (overflow : cause.isOverflow = true) :
      RefusesWrite store host (.array ref) index (.fault cause)
  | full {ref : ArrayRef} {index : Value} {position : Nat}
      (equal : index.strictEquals (.int position) = true)
      (gap : host.room < position + 1 - (store.elements ref).size)
      (near : position + 1 - (store.elements ref).size ≤ maximalGap) :
      RefusesWrite store host (.array ref) index (.fault .outOfMemory)

variable {ref : ArrayRef} {number : Number} {index value : Value}

theorem size_writeAt (elements : Array Value) :
    (writeAt position value elements).size = max elements.size (position + 1) := by
  simp only [writeAt, Array.size_setIfInBounds, Array.size_append, Array.size_replicate]
  omega

theorem getElem?_writeAt_self (elements : Array Value) : (writeAt position value elements)[position]? = some value := by
  rw [writeAt, Array.getElem?_setIfInBounds_self_of_lt]
  simp only [Array.size_append, Array.size_replicate]
  omega

theorem getElem?_writeAt_of_ne {elements : Array Value} {other : Nat} (differs : other ≠ position) :
    (writeAt position value elements)[other]? =
      (elements ++ Array.replicate (position + 1 - elements.size) Value.undefined)[other]? :=
  Array.getElem?_setIfInBounds_ne differs.symm

theorem Store.elements_updateArray (store : Store) (inside : ref < store.arrays.size)
    (change : Array Value → Array Value) :
    (store.updateArray ref change).elements ref = change (store.elements ref) := by
  simp only [Store.elements, Store.updateArray, Array.getD_eq_getD_getElem?, Array.getElem?_modify]
  simp [inside]

theorem Store.elements_updateArray_of_ne (store : Store) {other : ArrayRef} (differs : other ≠ ref)
    (change : Array Value → Array Value) : (store.updateArray ref change).elements other = store.elements other := by
  simp [Store.elements, Store.updateArray, Array.getElem?_modify, differs.symm]

theorem Store.writesAt_updateArray (inside : ref < store.arrays.size) :
    store.WritesAt ref position value (store.updateArray ref (writeAt position value)) where
  size := by rw [elements_updateArray _ inside, size_writeAt]
  here := by rw [elements_updateArray _ inside, getElem?_writeAt_self]
  kept other old differs := by
    rw [elements_updateArray _ inside, getElem?_writeAt_of_ne differs, Array.getElem?_append_left old]
  gap other before new := by
    rw [elements_updateArray _ inside, getElem?_writeAt_of_ne before.ne, Array.getElem?_append_right new,
      Array.getElem?_replicate, if_pos (by omega)]
  others other differs := elements_updateArray_of_ne _ differs _
  rest := rfl

/-- Every key of the position reads what has been written there. -/
theorem Store.WritesAt.readProperty_of_denotes {later : Store} (writes : store.WritesAt ref position value later)
    (narrow : (Number.int position).IsNarrow) (denotes : key.Denotes host position) :
    readProperty (.array ref) key host later = .done value later := by
  rw [TreeScript.readProperty_of_denotes narrow denotes, Array.getD_eq_getD_getElem?, writes.here]
  rfl

theorem Store.WritesAt.readProperty_length {later : Store} (writes : store.WritesAt ref position value later) :
    readProperty (.array ref) (.string "length") host later =
      .done (.int (max (store.elements ref).size (position + 1) : Nat)) later := by
  rw [← writes.size]
  rfl

/-- A write either fails, and then leaves everything as it is, or puts the value at the position to which
the index is equal; then every key of that position reads the value, and the length is the new one. It
fails only for a target that is no array, for an index that is equal to no natural number, for an integer
that is too large for doubles, and for a position too far beyond the end of the array, or further than the
host has room. -/
theorem writeElement_writes_or_leaves (target index value : Value) (host : Host) (store : Store)
    (has : store.Has target) :
    (∃ reason, writeElement target index value host store = .stopped reason store ∧
      store.RefusesWrite host target index reason) ∨
    ∃ ref, ∃ position : Nat, ∃ final, target = .array ref ∧ index.strictEquals (.int position) = true ∧
      writeElement target index value host store = .done value final ∧
      store.WritesAt ref position value final ∧
      (∀ key, key.strictEquals (.int position) = true ∨
          key = .string (toString position) ∧ host.writes position = true →
        readProperty (.array ref) key host final = .done value final) ∧
      readProperty (.array ref) (.string "length") host final =
        .done (.int (max (store.elements ref).size (position + 1) : Nat)) final := by
  cases target with
  | array ref =>
    cases index with
    | number number =>
      cases found : number.toIndex? with
      | error fault =>
        obtain ⟨n, rfl, beyond⟩ := Number.toIndex?_eq_error found
        exact .inl ⟨_, writeElement_of_toIndex?_error found, .wide beyond rfl⟩
      | ok position? =>
        cases position? with
        | none =>
          have differs (position : Nat) : (Value.number number).strictEquals (.int position) = false :=
            beq_eq_false_iff_ne.mpr (Number.compare?_ne_of_toIndex?_none found position)
          exact .inl ⟨_, writeElement_of_toIndex?_none found, .index differs rfl⟩
        | some position =>
          obtain ⟨narrow, same⟩ := Number.toIndex?_eq_some_iff.mp found
          have equal := strictEquals_int_iff.mpr ⟨number, rfl, same⟩
          rw [writeElement_of_toIndex? found]
          split
          · next far => exact .inl ⟨_, rfl, .far equal far rfl⟩
          · next near =>
            split
            · next full => exact .inl ⟨_, rfl, .full equal full (Nat.not_lt.mp near)⟩
            · next fits =>
              have writes : store.WritesAt ref position value (store.updateArray ref (writeAt position value)) :=
                Store.writesAt_updateArray has
              have fitting := (Number.isNarrow_iff_of_equal same).mp narrow
              exact .inr ⟨ref, position, _, rfl, equal, rfl, writes,
                fun key denotes => writes.readProperty_of_denotes fitting denotes, writes.readProperty_length⟩
    | _ => exact .inl ⟨_, rfl, .index (fun _ => rfl) rfl⟩
  | _ => exact .inl ⟨_, rfl, .target (fun _ => by simp) rfl⟩

/-- A double writes beyond the end of an array, and its text reads what it wrote. -/
theorem writeElement_beyond_end :
    let store : Store := ⟨#[], #[#[.bool true]], #[], #[], #[], 0⟩
    let index : Value := .number (.float (.ofInt 2))
    store.Has (.array 0) ∧ ∃ final, writeElement (.array 0) index .null default store = .done .null final ∧
      store.WritesAt 0 2 .null final ∧ readProperty (.array 0) (.string "2") default final = .done .null final := by
  intro store index
  have found : (Number.float (.ofInt 2)).toIndex? = .ok (some 2) := by decide +kernel
  have has : store.Has (.array 0) := Nat.one_pos
  refine ⟨has, ?_⟩
  obtain ⟨reason, stops, -⟩ | ⟨ref, position, final, same, equal, done, writes, reads, -⟩ :=
    writeElement_writes_or_leaves (.array 0) index .null default store has
  · rw [writeElement_of_toIndex? found, if_neg (by decide +kernel), if_neg (by decide +kernel)] at stops
    cases stops
  · cases same
    have two := Number.toIndex?_eq_some_iff.mpr ⟨⟨_, rfl⟩, eq_of_beq equal⟩
    rw [found] at two
    cases two
    exact ⟨final, done, writes, reads _ (.inr ⟨rfl, by decide +kernel⟩)⟩

/-- A gap for which there is no memory is not one that is too large to be counted. -/
theorem writeElement_out_of_memory :
    let store : Store := ⟨#[], #[#[.int 1]], #[], #[], #[], 0⟩
    store.Has (.array 0) ∧ Fault.outOfMemory.isOverflow = false ∧
      writeElement (.array 0) (.int (2 ^ 62)) (.int 0) default store = .stopped (.fault .outOfMemory) store := by
  intro store
  have found : (Number.int (2 ^ 62)).toIndex? = .ok (some (2 ^ 62)) := by decide +kernel
  refine ⟨Nat.one_pos, rfl, ?_⟩
  change writeElement (.array 0) (.number (.int (2 ^ 62))) (.int 0) default store = _
  rw [writeElement_of_toIndex? found, if_neg (by decide +kernel), if_pos (by decide +kernel)]

end TreeScript
