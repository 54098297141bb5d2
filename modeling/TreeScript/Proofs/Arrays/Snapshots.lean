import TreeScript.Proofs.Runs.Traces

/-! # Mapping and filtering go over a snapshot

Mapping and filtering call a function on the elements that the array holds when they begin, once on each
and in their order. The function may do what it likes, also to the array itself. Between the calls nothing
happens, and after the last one a new array is put into the store.

What is said about the calls holds of every way to call functions, so also of one that keeps a record of
the calls: there are no calls but these.
-/

namespace TreeScript

open Exec

variable {α β : Type} {host : Host}

/-! ## Steps for the items of a list -/

/-- A step is performed for each item of a list, one after the other, and each time it ends with a
result. -/
inductive Exec.GoesThrough (step : α → Exec β) (host : Host) : Store → List α → List β → Store → Prop
  | nil (store : Store) : GoesThrough step host store [] [] store
  | cons {item : α} {items : List α} {result : β} {results : List β} {store middle after : Store}
      (first : step item host store = .done result middle)
      (others : GoesThrough step host middle items results after) :
      GoesThrough step host store (item :: items) (result :: results) after

theorem Exec.each_eq_done_iff {step : α → Exec β} {items : List α} {results : List β} {store after : Store} :
    each step items host store = .done results after ↔ GoesThrough step host store items results after := by
  induction items generalizing store results with
  | nil =>
    constructor
    · intro ends
      cases ends
      exact .nil _
    · intro goes
      cases goes
      rfl
  | cons item items ih =>
    rw [each, bind_eq_done_iff]
    constructor
    · rintro ⟨result, middle, first, ends⟩
      obtain ⟨others, last, rest, same⟩ := bind_eq_done_iff.mp ends
      cases same
      exact .cons first (ih.mp rest)
    · intro goes
      cases goes with
      | cons first others => exact ⟨_, _, first, bind_eq_done_iff.mpr ⟨_, _, ih.mpr others, rfl⟩⟩

/-! ## Calls for the elements of an array -/

/-- A function is called on each of some elements, with the element as its only argument. -/
abbrev CallsEach (call : Caller) (callback : FunctionRef) (host : Host) :
    Store → List Value → List Value → Store → Prop :=
  GoesThrough (fun element => call callback [element]) host

/-- Whether a verdict on an element is that it is kept. -/
def Value.holds (verdict : Value) : Bool :=
  match verdict.isTruthy with
  | .ok keep => keep
  | .error _ => false

/-- The elements on which the verdict is that they are kept. -/
def keptBy (elements verdicts : List Value) : List Value :=
  ((elements.zip verdicts).filter fun entry => entry.2.holds).map (·.1)

/-- An array of the given entries is made, and nothing else is changed. -/
def Store.MakesArray (store : Store) (entries : List Value) (value : Value) (later : Store) : Prop :=
  value = .array store.arrays.size ∧ later = (store.addArray entries.toArray).2

theorem Exec.newArray_eq_done_iff {entries : List Value} {store later : Store} {value : Value} :
    newArray entries.toArray host store = .done value later ↔ store.MakesArray entries value later := by
  change Outcome.done (.array store.arrays.size) (store.addArray entries.toArray).2 = .done value later ↔ _
  rw [Outcome.done.injEq]
  exact ⟨fun ⟨same, sameStore⟩ => ⟨same.symm, sameStore.symm⟩, fun ⟨same, sameStore⟩ => ⟨same.symm, sameStore.symm⟩⟩

namespace ArrayMethod

variable {call : Caller} {target : ArrayRef} {callback : FunctionRef} {args elements : List Value}
  {store after final : Store} {value : Value}

theorem callback_eq_done_iff {method : ArrayMethod} {later : Store} :
    method.callback args host store = .done callback later ↔
      later = store ∧ ∃ others, args = .function callback :: others := by
  constructor
  · intro ends
    cases args with
    | nil => cases ends
    | cons arg others =>
      cases arg with
      | function ref =>
        cases ends
        exact ⟨rfl, others, rfl⟩
      | _ => cases ends
  · rintro ⟨rfl, others, rfl⟩
    rfl

/-- Judge an element: call the function on it, and see whether the result is truthy. -/
def judge (call : Caller) (callback : FunctionRef) (element : Value) : Exec (List Value) := do
  let verdict ← call callback [element]
  let keep ← Exec.ofArithmetic verdict.isTruthy
  return if keep then [element] else []

theorem judge_eq_done_iff {element : Value} {kept : List Value} :
    judge call callback element host store = .done kept after ↔
      ∃ verdict, call callback [element] host store = .done verdict after ∧
        (∃ keep, verdict.isTruthy = .ok keep) ∧ kept = if verdict.holds then [element] else [] := by
  rw [judge, bind_eq_done_iff]
  constructor
  · rintro ⟨verdict, middle, called, ends⟩
    obtain ⟨keep, last, judged, same⟩ := bind_eq_done_iff.mp ends
    cases truthy : verdict.isTruthy with
    | error fault =>
      rw [truthy] at judged
      cases judged
    | ok keep =>
      rw [truthy] at judged
      cases judged
      cases same
      exact ⟨verdict, called, ⟨_, truthy⟩, by rw [Value.holds, truthy]⟩
  · rintro ⟨verdict, called, ⟨keep, truthy⟩, rfl⟩
    refine ⟨verdict, after, called, ?_⟩
    rw [Value.holds, truthy]
    rfl

/-- Judging all elements is calling the function on all of them. -/
theorem goesThrough_judge {kept : List (List Value)}
    (goes : GoesThrough (judge call callback) host store elements kept after) :
    ∃ verdicts, CallsEach call callback host store elements verdicts after ∧
      (∀ verdict ∈ verdicts, ∃ keep, verdict.isTruthy = .ok keep) ∧ kept.flatten = keptBy elements verdicts := by
  induction goes with
  | nil store => exact ⟨[], .nil store, by simp, rfl⟩
  | cons first _ ih =>
    obtain ⟨verdict, called, judged, rfl⟩ := judge_eq_done_iff.mp first
    obtain ⟨verdicts, calls, allJudged, same⟩ := ih
    refine ⟨verdict :: verdicts, .cons called calls, List.forall_mem_cons.mpr ⟨judged, allJudged⟩, ?_⟩
    cases holds : verdict.holds <;> simp [keptBy, holds, same]

theorem exists_goesThrough_judge {verdicts : List Value}
    (calls : CallsEach call callback host store elements verdicts after)
    (judged : ∀ verdict ∈ verdicts, ∃ keep, verdict.isTruthy = .ok keep) :
    ∃ kept, GoesThrough (judge call callback) host store elements kept after ∧
      kept.flatten = keptBy elements verdicts := by
  induction calls with
  | nil store => exact ⟨[], .nil store, rfl⟩
  | @cons _ _ verdict _ _ _ _ called _ ih =>
    obtain ⟨first, others⟩ := List.forall_mem_cons.mp judged
    obtain ⟨kept, goes, same⟩ := ih others
    refine ⟨_ :: kept, .cons (judge_eq_done_iff.mpr ⟨_, called, first, rfl⟩) goes, ?_⟩
    cases holds : verdict.holds <;> simp [keptBy, holds, same]

theorem apply_map_eq_done_iff :
    ArrayMethod.map.apply call target args host store = .done value final ↔
      ∃ callback others results after, args = .function callback :: others ∧
        CallsEach call callback host store (store.elements target).toList results after ∧
        after.MakesArray results value final := by
  rw [apply, bind_eq_done_iff]
  constructor
  · rintro ⟨callback, middle, called, ends⟩
    obtain ⟨rfl, others, rfl⟩ := callback_eq_done_iff.mp called
    change (each _ (middle.elements target).toList >>= _) host middle = _ at ends
    obtain ⟨results, after, goes, makes⟩ := bind_eq_done_iff.mp ends
    exact ⟨callback, others, results, after, rfl, each_eq_done_iff.mp goes, newArray_eq_done_iff.mp makes⟩
  · rintro ⟨callback, others, results, after, rfl, calls, makes⟩
    refine ⟨callback, store, rfl, ?_⟩
    change (each _ (store.elements target).toList >>= _) host store = _
    exact bind_eq_done_iff.mpr ⟨results, after, each_eq_done_iff.mpr calls, newArray_eq_done_iff.mpr makes⟩

theorem apply_filter_eq_done_iff :
    ArrayMethod.filter.apply call target args host store = .done value final ↔
      ∃ callback others verdicts after, args = .function callback :: others ∧
        CallsEach call callback host store (store.elements target).toList verdicts after ∧
        (∀ verdict ∈ verdicts, ∃ keep, verdict.isTruthy = .ok keep) ∧
        after.MakesArray (keptBy (store.elements target).toList verdicts) value final := by
  rw [apply, bind_eq_done_iff]
  constructor
  · rintro ⟨callback, middle, called, ends⟩
    obtain ⟨rfl, others, rfl⟩ := callback_eq_done_iff.mp called
    change (each (judge call callback) (middle.elements target).toList >>= _) host middle = _ at ends
    obtain ⟨kept, after, goes, makes⟩ := bind_eq_done_iff.mp ends
    obtain ⟨verdicts, calls, judged, same⟩ := goesThrough_judge (each_eq_done_iff.mp goes)
    rw [same] at makes
    exact ⟨callback, others, verdicts, after, rfl, calls, judged, newArray_eq_done_iff.mp makes⟩
  · rintro ⟨callback, others, verdicts, after, rfl, calls, judged, makes⟩
    obtain ⟨kept, goes, same⟩ := exists_goesThrough_judge calls judged
    refine ⟨callback, store, rfl, ?_⟩
    change (each (judge call callback) (store.elements target).toList >>= _) host store = _
    rw [← same] at makes
    exact bind_eq_done_iff.mpr ⟨kept, after, each_eq_done_iff.mpr goes, newArray_eq_done_iff.mpr makes⟩

end ArrayMethod

/-! ## Calls of the evaluator -/

theorem Store.LeadsTo.size_arrays_le {store later : Store} (leads : store.LeadsTo later) :
    store.arrays.size ≤ later.arrays.size := by
  induction leads with
  | refl => exact Nat.le_refl _
  | tail _ step ih => exact ih.trans step.sizes.1

/-- A call only ever adds arrays. -/
theorem size_le_of_callsEach {effort : Nat} {callback : FunctionRef} {elements results : List Value}
    {store after : Store} (calls : CallsEach (callWithin effort) callback host store elements results after) :
    store.arrays.size ≤ after.arrays.size := by
  induction calls with
  | nil store => exact Nat.le_refl _
  | @cons element _ _ _ store middle _ called _ ih =>
    have follows : (callWithin effort callback [element]).Follows (.tracing store fun _ => True) :=
      (evaluator_follows Conduct.tracing_unrestricted effort).call callback [element]
    have leads := follows.holds_store host (.refl store)
    rw [called] at leads
    exact leads.size_arrays_le.trans ih

/-- A new array is none of those that there were, and leaves them as they are. -/
theorem Store.MakesArray.other {store later : Store} {entries : List Value} {value : Value} {ref : ArrayRef}
    (makes : store.MakesArray entries value later) (old : ref < store.arrays.size) :
    value ≠ .array ref ∧ later.elements ref = store.elements ref := by
  obtain ⟨rfl, rfl⟩ := makes
  constructor
  · intro same
    cases same
    exact Nat.lt_irrefl _ old
  · simp [Store.elements, Store.addArray, Array.getElem?_push, Nat.ne_of_lt old]

/-- Mapping and filtering an array give a result exactly if the function that they are given can be called
on the elements that the array held at the beginning, one after the other, each as the only argument.
Mapping then makes an array of the results, and filtering, which has to find out of each result whether
it is truthy, one of those elements of the beginning whose results are. This is so whatever way to call
functions there is. Where they are called by the evaluator, the new array is none of those that there
were at the beginning, which are left as the calls left them. -/
theorem applyMethod_on_snapshot (call : Caller) (target : ArrayRef) (args : List Value) (host : Host)
    (store : Store) (value : Value) (final : Store) :
    (applyMethod call (.array target) "map" args host store = .done value final ↔
      ∃ callback others results after, args = .function callback :: others ∧
        CallsEach call callback host store (store.elements target).toList results after ∧
        after.MakesArray results value final) ∧
    (applyMethod call (.array target) "filter" args host store = .done value final ↔
      ∃ callback others verdicts after, args = .function callback :: others ∧
        CallsEach call callback host store (store.elements target).toList verdicts after ∧
        (∀ verdict ∈ verdicts, ∃ keep, verdict.isTruthy = .ok keep) ∧
        after.MakesArray (keptBy (store.elements target).toList verdicts) value final) ∧
    ∀ effort callback elements results after entries,
      CallsEach (callWithin effort) callback host store elements results after →
      after.MakesArray entries value final →
      ∀ ref < store.arrays.size, value ≠ .array ref ∧ final.elements ref = after.elements ref := by
  refine ⟨ArrayMethod.apply_map_eq_done_iff, ArrayMethod.apply_filter_eq_done_iff, ?_⟩
  intro effort callback elements results after entries calls makes ref old
  exact makes.other (old.trans_le (size_le_of_callsEach calls))

/-- The array grows while it is mapped: the function adds the element that it is called on at the end. It
is called on the two elements of the beginning only. -/
theorem applyMethod_on_growing_array :
    let grow : Node := .method (.reference "items") "push" [.reference "item"]
    let store : Store := ⟨#[⟨"global", [], [("items", .array 0)]⟩], #[#[.bool true, .null]], #[],
      #[.arrow ["item"] grow Store.root], #[], 0⟩
    ∃ after, CallsEach (callWithin 4) 0 default store [.bool true, .null] [.int 3, .int 4] after ∧
      applyMethod (callWithin 4) (.array 0) "map" [.function 0] default store =
        .done (.array 1) (after.addArray #[.int 3, .int 4]).2 ∧
      (after.addArray #[.int 3, .int 4]).2.elements 0 = #[.bool true, .null, .bool true, .null] := by
  intro grow store
  have calls : ∃ after, CallsEach (callWithin 4) 0 default store [.bool true, .null] [.int 3, .int 4] after ∧
      after.arrays = #[#[.bool true, .null, .bool true, .null]] := ⟨_, .cons rfl (.cons rfl (.nil _)), rfl⟩
  obtain ⟨after, calls, arrays⟩ := calls
  have size : after.arrays.size = 1 := by rw [arrays]; rfl
  have makes : after.MakesArray [.int 3, .int 4] (.array 1) (after.addArray #[.int 3, .int 4]).2 := ⟨by rw [size], rfl⟩
  have snapshot := applyMethod_on_snapshot (callWithin 4) 0 [.function 0] default store (.array 1)
    (after.addArray #[.int 3, .int 4]).2
  refine ⟨after, calls, snapshot.1.mpr ⟨0, [], _, after, rfl, calls, makes⟩, ?_⟩
  rw [(snapshot.2.2 4 0 _ _ after _ calls makes 0 Nat.one_pos).2, Store.elements, arrays]
  rfl

end TreeScript
