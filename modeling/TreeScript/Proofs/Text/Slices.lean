import Mathlib.Data.Rat.Floor
import TreeScript.Method.Apply
import TreeScript.Proofs.Conduct
import TreeScript.Proofs.Mirror.Views
import TreeScript.Proofs.Numeric.Comparison

/-! # Slices of texts

A bound of a slice is a position in the text whatever value it is given as, so a slice has the characters from
one bound up to the other. The slice up to a bound and the slice from that bound on are the whole text. A
slice is refused only if a bound is an array of one element with an integer that is too long to be written,
since such an array goes by the text of its element.
-/

namespace TreeScript

/-! ## Positions -/

namespace Slice

theorem clamp_le (length : Nat) (n : Int) : clamp length n ≤ length := by
  cases n with
  | ofNat n => exact Nat.min_le_right n length
  | negSucc n => exact Nat.sub_le length (n + 1)

theorem position_le (length : Nat) (number : Number) : position length number ≤ length := by
  unfold position
  split
  · exact clamp_le length _
  · exact Nat.zero_le length
  · split
    · exact Nat.zero_le length
    · exact Nat.le_refl length
  · exact clamp_le length _

theorem clamp_eq (length : Nat) (n : Int) :
    (clamp length n : Int) = if n < 0 then max (length + n) 0 else min n length := by
  cases n with
  | ofNat n =>
    change ((min n length : Nat) : Int) = if (n : Int) < 0 then _ else min (n : Int) length
    rw [if_neg (Int.natCast_nonneg n).not_gt, Nat.cast_min]
  | negSucc n =>
    change ((length - (n + 1) : Nat) : Int) = _
    rw [if_pos (Int.negSucc_lt_zero n)]
    omega

/-- A number cut toward zero. -/
def whole (x : ℚ) : Int := if x < 0 then ⌈x⌉ else ⌊x⌋

theorem signedUnits_div_eq_whole (negative : Bool) (units scale : Nat) :
    Binary64.signedUnits negative (units / scale) = whole (Binary64.signedUnits negative units / scale) := by
  have magnitude : ⌊(units / scale : ℚ)⌋ = (units / scale : Nat) := by
    rw [← Int.cast_natCast units, Rat.floor_intCast_div_natCast, Int.natCast_div]
  have nonnegative : (0 : ℚ) ≤ units / scale := by positivity
  cases negative with
  | false =>
    change _ = whole (((units : Nat) : Int) / scale)
    rw [Int.cast_natCast, whole, if_neg nonnegative.not_gt, magnitude]
    rfl
  | true =>
    change -((units / scale : Nat) : Int) = whole ((-(units : Int) : Int) / scale)
    rw [Int.cast_neg, Int.cast_natCast, neg_div, whole, ← magnitude]
    split
    · rw [Int.ceil_neg]
    · next none =>
      have zero : (units / scale : ℚ) = 0 := le_antisymm (by simpa using none) nonnegative
      rw [zero, neg_zero, Int.floor_zero, neg_zero]

/-- A bound that is a finite number counts its whole part from the start, or from the end if that is
negative, and stops at the ends. -/
theorem position_of_rational? {number : Number} {x : ℚ} (meant : number.rational? = some x) (length : Nat) :
    (position length number : Int) = if whole x < 0 then max (length + whole x) 0 else min (whole x) length := by
  rw [← clamp_eq]
  cases number with
  | int n =>
    cases meant
    have same : whole n = n := by rw [whole, Int.ceil_intCast, Int.floor_intCast, ite_self]
    rw [same]
    rfl
  | float double =>
    cases double with
    | nan | infinite => cases meant
    | finite negative units representable =>
      cases meant
      rw [← signedUnits_div_eq_whole]
      rfl

/-! ## Pieces -/

theorem getElem?_toList_cut (text : String) (start stop i : Nat) :
    (cut text start stop).toList[i]? = if start + i < stop then text.toList[start + i]? else none := by
  rw [cut, String.toList_ofList, List.getElem?_take, List.getElem?_drop]
  have inside : i < stop - start ↔ start + i < stop := by omega
  simp only [inside]

theorem cut_append_cut (text : String) (position : Nat) :
    cut text 0 position ++ cut text position text.length = text := by
  have rest : (text.toList.drop position).take (text.length - position) = text.toList.drop position := by
    rw [← String.length_toList, ← List.length_drop, List.take_length]
  rw [cut, cut, rest, List.drop_zero, Nat.sub_zero, ← String.ofList_append, List.take_append_drop,
    String.ofList_toList]

end Slice

/-! ## Values as bounds -/

namespace Store

variable {store : Store} {value : Value}

theorem IsAcyclic.exists_text (acyclic : store.IsAcyclic value) : ∃ text, store.text? value = some text := by
  obtain ⟨picture, drawn⟩ := acyclic.exists_picture
  refine Option.ne_none_iff_exists'.mp fun textless => ?_
  rw [picture?_eq_none_of_text? textless] at drawn
  cases drawn

/-- Every value without cycles counts as a quantity. -/
theorem IsAcyclic.exists_quantity (acyclic : store.IsAcyclic value) :
    ∃ quantity, store.quantity? value = some quantity := by
  cases value with
  | array ref =>
    rw [quantity?]
    cases held : (store.elements ref).toList with
    | nil => exact ⟨_, rfl⟩
    | cons element rest =>
      cases rest with
      | nil =>
        -- The one element is inside the array, so it is without cycles too.
        have inside : element ∈ store.contents (.array ref) := by
          rw [contents, held]
          exact List.mem_singleton_self element
        obtain ⟨text, written⟩ := IsAcyclic.exists_text (acyclic.inv inside)
        exact ⟨_, congrArg (Option.map _) written⟩
      | cons => exact ⟨_, rfl⟩
  | _ => exact ⟨_, rfl⟩

end Store

/-- The host writes all integers that have to be written to find the quantity that a value stands for. -/
def Host.counts (host : Host) (store : Store) (value : Value) : Bool :=
  (store.integersOfQuantity value).all host.writes

/-- Only arrays of one element are not counted. -/
theorem Host.counts_of_soleElement? {host : Host} {store : Store} {value : Value}
    (none : store.soleElement? value = none) : host.counts store value = true := by
  rw [counts, Store.integersOfQuantity, none]
  rfl

namespace TextMethod

variable {length ending : Nat} {value : Value} {host : Host} {store : Store}

theorem bound_undefined (length ending : Nat) : bound length ending .undefined host store = .done ending store := rfl

theorem bound_of_ne_undefined (proper : value ≠ .undefined) :
    bound length ending value = (do
      let quantity ← Exec.quantityOf value
      return Slice.position length quantity.toNumber) := by
  cases value with
  | undefined => exact absurd rfl proper
  | _ => rfl

theorem bound_of_quantity? {quantity : Quantity} (proper : value ≠ .undefined)
    (counted : store.quantity? value = some quantity) (counts : host.counts store value = true) :
    bound length ending value host store = .done (Slice.position length quantity.toNumber) store := by
  have read : Exec.quantityOf value host store = .done quantity store := by
    simp only [Exec.quantityOf, Exec.spell, counted]
    exact if_pos counts
  rw [bound_of_ne_undefined proper, Exec.bind_of_done read]
  rfl

theorem bound_of_not_counts {quantity : Quantity} (counted : store.quantity? value = some quantity)
    (long : host.counts store value = false) :
    bound length ending value host store = .stopped (.fault (host.tooLong none)) store := by
  have read : Exec.quantityOf value host store = .stopped (.fault (host.tooLong none)) store := by
    simp only [Exec.quantityOf, Exec.spell, counted]
    exact if_neg (Bool.eq_false_iff.mp long)
  have proper : value ≠ .undefined := by
    rintro rfl
    cases long
  rw [bound_of_ne_undefined proper, Exec.bind_of_stopped read]

theorem exists_bound (inside : ending ≤ length) (acyclic : store.IsAcyclic value)
    (counts : host.counts store value = true) :
    ∃ position ≤ length, bound length ending value host store = .done position store := by
  by_cases proper : value = .undefined
  · subst proper
    exact ⟨ending, inside, bound_undefined length ending⟩
  · obtain ⟨quantity, counted⟩ := acyclic.exists_quantity
    exact ⟨_, Slice.position_le length _, bound_of_quantity? proper counted counts⟩

/-- No bound lies outside. -/
theorem bound_le {position : Nat} {later : Store} (inside : ending ≤ length)
    (found : bound length ending value host store = .done position later) : position ≤ length := by
  by_cases proper : value = .undefined
  · subst proper
    cases found
    exact inside
  · rw [bound_of_ne_undefined proper, Exec.bind_eq_done_iff] at found
    obtain ⟨quantity, _, -, found⟩ := found
    cases found
    exact Slice.position_le length _

/-- A slice between two bounds, as the method gives it. -/
theorem slice_of_bounds {text : String} {args : List Value} {start stop : Nat}
    (first : bound text.length 0 (args.getD 0 .undefined) host store = .done start store)
    (second : bound text.length text.length (args.getD 1 .undefined) host store = .done stop store) (call : Caller) :
    applyMethod call (.string text) "slice" args host store = .done (.string (Slice.cut text start stop)) store := by
  change (bound _ _ _ >>= _) host store = _
  rw [Exec.bind_of_done first, Exec.bind_of_done second]
  rfl

/-- A slice is refused if an integer in one of its bounds is too long. -/
theorem slice_of_not_counts {args : List Value} (acyclic : ∀ place < 2, store.IsAcyclic (args.getD place .undefined))
    (long : ∃ place < 2, host.counts store (args.getD place .undefined) = false) (call : Caller) (text : String) :
    applyMethod call (.string text) "slice" args host store = .stopped (.fault (host.tooLong none)) store := by
  obtain ⟨_, firstCounted⟩ := (acyclic 0 Nat.two_pos).exists_quantity
  obtain ⟨_, secondCounted⟩ := (acyclic 1 Nat.one_lt_two).exists_quantity
  change (bound _ _ _ >>= _) host store = _
  cases counts : host.counts store (args.getD 0 .undefined) with
  | false => rw [Exec.bind_of_stopped (bound_of_not_counts firstCounted counts)]
  | true =>
    obtain ⟨start, -, first⟩ := exists_bound (Nat.zero_le text.length) (acyclic 0 Nat.two_pos) counts
    obtain ⟨_ | _ | _, inside, long⟩ := long
    · cases counts.symm.trans long
    · rw [Exec.bind_of_done first, Exec.bind_of_stopped (bound_of_not_counts secondCounted long)]
    · omega

/-- Cutting a text at a value without cycles, other than undefined, loses nothing. Any two such bounds, also
undefined ones, are positions in the text, and the slice has exactly the characters from the first one up to
the second. Where the bound counts as a finite number, its place is the one that the number means. All this is
so if the host can count the values. A slice fails over those that it cannot count and over no others, and no bound
lies outside. -/
theorem slice_splits_and_stays_inside (call : Caller) (text : String) (host : Host) (store : Store) :
    (∀ value, store.IsAcyclic value → value ≠ .undefined → host.counts store value = true → ∃ front back,
      applyMethod call (.string text) "slice" [.int 0, value] host store = .done (.string front) store ∧
      applyMethod call (.string text) "slice" [value] host store = .done (.string back) store ∧
      front ++ back = text) ∧
    (∀ args : List Value,
      (∀ place < 2, store.IsAcyclic (args.getD place .undefined) ∧
        host.counts store (args.getD place .undefined) = true) →
      ∃ start stop piece, start ≤ text.length ∧ stop ≤ text.length ∧
        bound text.length 0 (args.getD 0 .undefined) host store = .done start store ∧
        bound text.length text.length (args.getD 1 .undefined) host store = .done stop store ∧
        applyMethod call (.string text) "slice" args host store = .done (.string piece) store ∧
        ∀ i, piece.toList[i]? = if start + i < stop then text.toList[start + i]? else none) ∧
    (∀ value quantity x, value ≠ .undefined → store.quantity? value = some quantity →
      host.counts store value = true → quantity.toNumber.rational? = some x → ∃ position : Nat,
        (position : Int) = (if Slice.whole x < 0 then max (text.length + Slice.whole x) 0
          else min (Slice.whole x) text.length) ∧
        ∀ ending, bound text.length ending value host store = .done position store) ∧
    (∀ args : List Value, (∀ place < 2, store.IsAcyclic (args.getD place .undefined)) →
      (∃ place < 2, host.counts store (args.getD place .undefined) = false) →
      applyMethod call (.string text) "slice" args host store = .stopped (.fault (host.tooLong none)) store) ∧
    (∀ value, host.counts store value = false → (store.soleElement? value).isSome = true) ∧
    ∀ value ending position later, ending ≤ text.length →
      bound text.length ending value host store = .done position later → position ≤ text.length := by
  refine ⟨?_, ?_, ?_, fun _ acyclic long => slice_of_not_counts acyclic long call text, ?_,
    fun _ _ _ _ => bound_le⟩
  · intro value acyclic proper counts
    obtain ⟨quantity, counted⟩ := acyclic.exists_quantity
    have here {ending : Nat} : bound text.length ending value host store = .done _ store :=
      bound_of_quantity? proper counted counts
    have zero : Value.int 0 ≠ .undefined := nofun
    have start : bound text.length 0 (.int 0) host store = .done (min 0 text.length) store :=
      bound_of_quantity? zero rfl rfl
    rw [Nat.zero_min] at start
    have upTo : applyMethod call (.string text) "slice" [.int 0, value] host store = _ := slice_of_bounds start here call
    have onward : applyMethod call (.string text) "slice" [value] host store = _ :=
      slice_of_bounds here (bound_undefined _ _) call
    exact ⟨_, _, upTo, onward, Slice.cut_append_cut text _⟩
  · intro args good
    obtain ⟨firstAcyclic, firstCounts⟩ := good 0 Nat.two_pos
    obtain ⟨secondAcyclic, secondCounts⟩ := good 1 Nat.one_lt_two
    obtain ⟨start, startInside, first⟩ := exists_bound (Nat.zero_le text.length) firstAcyclic firstCounts
    obtain ⟨stop, stopInside, second⟩ := exists_bound (Nat.le_refl text.length) secondAcyclic secondCounts
    exact ⟨start, stop, _, startInside, stopInside, first, second, slice_of_bounds first second call,
      Slice.getElem?_toList_cut text start stop⟩
  · intro value quantity x proper counted counts meant
    exact ⟨_, Slice.position_of_rational? meant text.length, fun _ => bound_of_quantity? proper counted counts⟩
  · intro value long
    refine Option.isSome_iff_ne_none.mpr fun none => ?_
    rw [Host.counts_of_soleElement? none] at long
    cases long

/-- An array of one text counts as the number that the text spells, and a negative fraction counts from the
end by its whole part. -/
theorem slice_splits_at_numeral :
    let store := (Store.initial.addArray #[.string " -2.5 "]).2
    let call : Caller := fun _ _ => return .undefined
    store.IsAcyclic (.array 0) ∧ (∀ ending, bound 5 ending (.array 0) default store = .done 3 store) ∧
      ∃ front back,
        applyMethod call (.string "slice") "slice" [.int 0, .array 0] default store = .done (.string front) store ∧
        applyMethod call (.string "slice") "slice" [.array 0] default store = .done (.string back) store ∧
        front ++ back = "slice" := by
  intro store call
  have acyclic : store.IsAcyclic (.array 0) := by
    refine ⟨_, fun inner inside => ?_⟩
    obtain rfl : inner = .string " -2.5 " := List.mem_singleton.mp inside
    exact ⟨_, fun _ none => absurd none List.not_mem_nil⟩
  have proper : Value.array 0 ≠ .undefined := nofun
  obtain ⟨splits, _, places, _⟩ := slice_splits_and_stays_inside call "slice" default store
  obtain ⟨position, place, bounds⟩ :=
    places (.array 0) (.number (.ofText " -2.5 ")) (-5 / 2) proper rfl rfl (by decide +kernel)
  have whole : Slice.whole (-5 / 2) = -2 := by decide +kernel
  rw [whole] at place
  obtain rfl : position = 3 := Int.ofNat_inj.mp place
  exact ⟨acyclic, bounds, splits (.array 0) acyclic proper rfl⟩

/-- An array of one long integer is no bound of a slice, though the integer itself is one. -/
theorem slice_fails_on_long :
    let store := (Store.initial.addArray #[.int (10 ^ 5000)]).2
    let call : Caller := fun _ _ => return .undefined
    let slice (value : Value) := applyMethod call (.string "abc") "slice" [.int 0, value] default store
    (slice (.int (10 ^ 5000))).isDone (fun result _ => result == .string "abc") = true ∧
      (slice (.array 0)).stoppedTooLong 4300 = true := by
  decide +kernel

end TextMethod

end TreeScript
