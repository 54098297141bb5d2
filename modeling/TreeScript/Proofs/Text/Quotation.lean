import Mathlib.Tactic.SplitIfs
import TreeScript.Numeric.Numeral

/-! # Quoted text can be read

Each escape of ASCII notation is read back to its character without looking at what follows, pairs
of UTF-16 units included. So a quoted text ends where it ends, whatever follows it, and determines
the text that was quoted.
-/

namespace TreeScript

theorem hexadecimal_one {n : Nat} (small : n < 0x10) : hexadecimal 1 n = [Nat.digitChar n] := by
  simp only [hexadecimal, Nat.toDigits_of_lt_base small, List.length_singleton, Nat.sub_self,
    List.replicate_zero, List.nil_append]

/-- The last digit of a padded number is its remainder. -/
theorem hexadecimal_succ {width : Nat} (positive : 0 < width) (n : Nat) :
    hexadecimal (width + 1) n = hexadecimal width (n / 0x10) ++ [Nat.digitChar (n % 0x10)] := by
  by_cases small : n < 0x10
  · have zeros : hexadecimal width 0 = List.replicate width '0' := by
      obtain ⟨count, rfl⟩ := Nat.exists_eq_succ_of_ne_zero (Nat.ne_of_gt positive)
      simp only [hexadecimal, Nat.toDigits_zero, List.length_singleton, Nat.succ_sub_one]
      exact List.replicate_succ'.symm
    simp only [Nat.div_eq_of_lt small, Nat.mod_eq_of_lt small, zeros]
    simp only [hexadecimal, Nat.toDigits_of_lt_base small, List.length_singleton, Nat.add_sub_cancel]
  · have digits := Nat.toDigits_of_base_le (by decide : 1 < 0x10) (Nat.le_of_not_lt small)
    simp only [hexadecimal, digits, List.length_append, List.length_singleton,
      Nat.add_sub_add_right, List.append_assoc]

namespace AsciiText

/-- The number that four hexadecimal digits spell, and what follows them. -/
def readUnit? : List Char → Option (Nat × List Char)
  | a :: b :: c :: d :: rest => do
    let digits ← [a, b, c, d].mapM Numeral.digitValue?
    return (Numeral.ofDigits 16 digits, rest)
  | _ => none

/-- The character that a letter after a backslash stands for. -/
def ofLetter (letter : Char) : Char :=
  if letter = 'n' then '\n'
  else if letter = 'r' then '\r'
  else if letter = 't' then '\t'
  else if letter = 'f' then '\x0c'
  else if letter = 'b' then '\x08'
  else letter

/-- The character that an escape stands for, and what follows the escape. -/
def readChar? : List Char → Option (Char × List Char)
  | '\\' :: 'u' :: rest => do
    let (unit, rest) ← readUnit? rest
    if 0xd800 ≤ unit ∧ unit < 0xdc00 then
      let (low, rest) ← readUnit? (rest.drop 2)
      return (Char.ofNat (0x10000 + (unit - 0xd800) * 0x400 + (low - 0xdc00)), rest)
    else return (Char.ofNat unit, rest)
  | '\\' :: letter :: rest => some (ofLetter letter, rest)
  | c :: rest => some (c, rest)
  | [] => none

theorem digitValue?_digitChar : ∀ digit < 16, Numeral.digitValue? (Nat.digitChar digit) = some digit := by
  decide

theorem digitChar_inj {left right : Nat} (leftSmall : left < 16) (rightSmall : right < 16)
    (same : Nat.digitChar left = Nat.digitChar right) : left = right := by
  have value := digitValue?_digitChar left leftSmall
  rw [same, digitValue?_digitChar right rightSmall] at value
  exact (Option.some.inj value).symm

/-- Hexadecimal digits determine the number. -/
theorem toDigits_sixteen_inj {left right : Nat} (same : Nat.toDigits 16 left = Nat.toDigits 16 right) :
    left = right := by
  induction left using Nat.strongRecOn generalizing right with
  | ind left ih =>
    by_cases leftSmall : left < 16
    · rw [Nat.toDigits_of_lt_base leftSmall] at same
      by_cases rightSmall : right < 16
      · rw [Nat.toDigits_of_lt_base rightSmall] at same
        exact digitChar_inj leftSmall rightSmall (List.cons.inj same).1
      · rw [Nat.toDigits_of_base_le (by decide) (Nat.le_of_not_lt rightSmall)] at same
        have lengths := congrArg List.length same
        have positive := Nat.length_toDigits_pos (b := 16) (n := right / 16)
        simp only [List.length_append, List.length_singleton] at lengths
        omega
    · rw [Nat.toDigits_of_base_le (by decide) (Nat.le_of_not_lt leftSmall)] at same
      by_cases rightSmall : right < 16
      · rw [Nat.toDigits_of_lt_base rightSmall] at same
        have lengths := congrArg List.length same
        have positive := Nat.length_toDigits_pos (b := 16) (n := left / 16)
        simp only [List.length_append, List.length_singleton] at lengths
        omega
      · rw [Nat.toDigits_of_base_le (by decide) (Nat.le_of_not_lt rightSmall)] at same
        obtain ⟨leading, last⟩ := List.append_inj' same rfl
        have quotients := ih (left / 16) (by omega) leading
        have remainders := digitChar_inj (Nat.mod_lt left (by decide)) (Nat.mod_lt right (by decide))
          (List.cons.inj last).1
        omega

theorem readUnit?_hexadecimal {unit : Nat} (small : unit < 0x10000) (rest : List Char) :
    readUnit? (hexadecimal 4 unit ++ rest) = some (unit, rest) := by
  have leading : unit / 0x10 / 0x10 / 0x10 < 0x10 := by omega
  rw [hexadecimal_succ (by decide), hexadecimal_succ (by decide), hexadecimal_succ (by decide),
    hexadecimal_one leading]
  simp only [List.cons_append, List.nil_append, readUnit?, List.mapM_cons, List.mapM_nil]
  rw [digitValue?_digitChar _ (by omega), digitValue?_digitChar _ (by omega),
    digitValue?_digitChar _ (by omega), digitValue?_digitChar _ (by omega)]
  simp [Numeral.ofDigits]
  omega

theorem readChar?_plain {c : Char} (plain : c ≠ '\\') (rest : List Char) :
    readChar? (c :: rest) = some (c, rest) := by
  simp [readChar?, plain]

theorem readChar?_unit {unit : Nat} (small : unit < 0x10000)
    (single : ¬(0xd800 ≤ unit ∧ unit < 0xdc00)) (rest : List Char) :
    readChar? (escapeUnit unit ++ rest) = some (Char.ofNat unit, rest) := by
  simp [escapeUnit, readChar?, readUnit?_hexadecimal small, single]

theorem readChar?_pair {offset : Nat} (small : offset < 0x100000) (rest : List Char) :
    readChar? (escapeUnit (0xd800 + offset / 0x400) ++ escapeUnit (0xdc00 + offset % 0x400) ++ rest) =
      some (Char.ofNat (0x10000 + offset), rest) := by
  have highSmall : 0xd800 + offset / 0x400 < 0xdc00 := by omega
  have lowSmall : 0xdc00 + offset % 0x400 < 0x10000 := by omega
  have together : 0x10000 + offset / 0x400 * 0x400 + offset % 0x400 = 0x10000 + offset := by omega
  have high := readUnit?_hexadecimal (Nat.lt_trans highSmall (by decide))
    ('\\' :: 'u' :: (hexadecimal 4 (0xdc00 + offset % 0x400) ++ rest))
  simp [escapeUnit, readChar?, high, readUnit?_hexadecimal lowSmall, highSmall, together]

/-- Every character is below or above the surrogates. -/
theorem toNat_valid (c : Char) : c.toNat < 0xd800 ∨ 0xdfff < c.toNat ∧ c.toNat < 0x110000 := c.valid

/-- An escape is read back, whatever follows it. -/
theorem readChar?_escape (c : Char) (rest : List Char) :
    readChar? (escape c ++ rest) = some (c, rest) := by
  have valid := toNat_valid c
  unfold escape
  split_ifs with special newline carriage tab feed backspace shown single
  · rcases special with rfl | rfl
    · rfl
    · rfl
  · subst newline; rfl
  · subst carriage; rfl
  · subst tab; rfl
  · subst feed; rfl
  · subst backspace; rfl
  · exact readChar?_plain (fun backslash => special (.inr backslash)) rest
  · rw [readChar?_unit single (by omega), Char.ofNat_toNat]
  · have above : 0x10000 + (c.toNat - 0x10000) = c.toNat := by omega
    rw [readChar?_pair (by omega), above, Char.ofNat_toNat]

/-- Escapes are told apart, whatever follows them. -/
theorem escape_append_inj {left right : Char} {leftRest rightRest : List Char}
    (same : escape left ++ leftRest = escape right ++ rightRest) :
    left = right ∧ leftRest = rightRest := by
  have read := readChar?_escape left leftRest
  rw [same, readChar?_escape] at read
  obtain ⟨chars, rests⟩ := Prod.mk.inj (Option.some.inj read)
  exact ⟨chars.symm, rests.symm⟩

/-- An escape does not start with the quotation mark. -/
theorem escape_append_ne_quote (c : Char) (rest tail : List Char) :
    escape c ++ rest ≠ '"' :: tail := by
  intro same
  have read := readChar?_escape c rest
  rw [same, readChar?_plain (by decide)] at read
  obtain ⟨rfl, -⟩ := Prod.mk.inj (Option.some.inj read)
  exact absurd (List.cons.inj same).1 (by decide)

/-- A quoted text determines the text and what follows it. -/
theorem quoteChars_append_inj {left right leftRest rightRest : List Char}
    (same : quoteChars left ++ leftRest = quoteChars right ++ rightRest) :
    left = right ∧ leftRest = rightRest := by
  simp only [quoteChars, List.cons_append, List.cons.injEq, true_and, List.append_assoc,
    List.nil_append] at same
  induction left generalizing right with
  | nil =>
    cases right with
    | nil => exact ⟨rfl, by simpa using same⟩
    | cons d right =>
      simp only [List.flatMap_nil, List.nil_append, List.flatMap_cons, List.append_assoc] at same
      exact absurd same.symm (escape_append_ne_quote d _ _)
  | cons c left ih =>
    cases right with
    | nil =>
      simp only [List.flatMap_nil, List.nil_append, List.flatMap_cons, List.append_assoc] at same
      exact absurd same (escape_append_ne_quote c _ _)
    | cons d right =>
      simp only [List.flatMap_cons, List.append_assoc] at same
      obtain ⟨rfl, later⟩ := escape_append_inj same
      obtain ⟨rfl, rests⟩ := ih later
      exact ⟨rfl, rests⟩

end AsciiText

end TreeScript
