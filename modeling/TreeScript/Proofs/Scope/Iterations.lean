import TreeScript.Proofs.Arrays.Elements
import TreeScript.Proofs.Arrays.Snapshots
import TreeScript.Proofs.Control.Leaving
import TreeScript.Proofs.Scope.Lookup

/-! # Closures of a loop

Every round of a loop over an array has a frame of its own that binds the item, and every round of a
counting loop has one for its body. A closure that is made in a round therefore keeps what that round
bound, whatever the rounds after it bind, and although the counter itself changes in the frame around.

The loops considered here collect one closure in every round. What they have collected at any time is
described by `Store.Gathers`, which each round extends by one value.
-/

namespace TreeScript

open Exec

/-! ## Programs that collect closures -/

namespace Node

/-- Add an arrow to an array that gives the value of a name. -/
def collect (sink name : String) : Node := .method (.reference sink) "push" [.arrow [] (.reference name)]

/-- Collect an arrow for each item of an array. -/
def collectItems (source sink item : String) : Node :=
  .forEach item (.reference source) [collect sink item]

def isBelow (counter : String) (bound : Nat) : Node :=
  .binary "<" (.reference counter) (.literal (.number (.int bound)))

def countOn (counter : String) : Node :=
  .assign counter (.binary "+" (.reference counter) (.literal (.number (.int 1))))

/-- Give the count a name of the round's own, and collect an arrow for it. -/
def collectCount (sink counter seen : String) : List Node :=
  [.declare "number" seen (.reference counter), collect sink seen]

/-- Collect an arrow for each number below a bound. -/
def collectCounts (bound : Nat) (sink counter seen : String) : Node :=
  .forLoop (some (.declare "number" counter (.literal (.number (.int 0))))) (some (isBelow counter bound))
    (some (countOn counter)) (collectCount sink counter seen)

/-- Call all the functions of an array; the results make an array again. -/
def callAll (sink callee : String) : Node := .method (.reference sink) "map" [.arrow [callee] (.call callee [])]

end Node

variable {host : Host} {effort : Nat} {store later : Store} {frame outer : FrameRef} {bag ref : ArrayRef}
  {sink name : String} {value closure : Value} {values : List Value}

/-! ## What has been collected -/

namespace Store

/-- The closure is an arrow that gives the value of a name, made in a frame in which the name is bound to
the given value. The frame is younger than the one around the loop, in which a counter may change. -/
inductive Recalls (store : Store) (outer : FrameRef) (name : String) : Value → Value → Prop
  | arrow {made : FunctionRef} {scope : FrameRef} {value : Value}
      (found : store.functions[made]? = some (.arrow [] (.reference name) scope)) (younger : outer < scope)
      (bound : store.binding? scope name = some value) : Recalls store outer name (.function made) value

/-- Neither a frame younger than the one around the loop nor a function is changed. -/
structure KeepsYounger (outer : FrameRef) (store later : Store) : Prop where
  frames : ∀ ref < store.frames.size, outer < ref → later.frames[ref]? = store.frames[ref]?
  functions : ∀ ref < store.functions.size, later.functions[ref]? = store.functions[ref]?

theorem IsGrownTo.keepsYounger (grown : store.IsGrownTo later)
    (functions : ∀ ref < store.functions.size, later.functions[ref]? = store.functions[ref]?) :
    KeepsYounger outer store later := ⟨fun ref inside _ => grown ref inside, functions⟩

theorem Recalls.mono (recalls : store.Recalls outer name closure value) (keeps : KeepsYounger outer store later) :
    later.Recalls outer name closure value := by
  cases recalls with
  | @arrow made scope _ found younger bound =>
    obtain ⟨inner, there, binds⟩ := Option.bind_eq_some_iff.mp bound
    have inside := (Array.getElem?_eq_some_iff.mp there).1
    refine .arrow ?_ younger ?_
    · rw [keeps.functions made (Array.getElem?_eq_some_iff.mp found).1, found]
    · rw [binding?, keeps.frames scope inside younger, there]
      exact binds

/-- A loop inside a frame has collected closures for some values. -/
structure Gathers (store : Store) (frame : FrameRef) (sink name : String) (bag : ArrayRef) (values : List Value) :
    Prop where
  holds : store.Holds frame
  seen : store.lookup? frame sink = some (.array bag)
  inside : bag < store.arrays.size
  recalls : List.Forall₂ (store.Recalls frame name) (store.elements bag).toList values

/-- One round: a new frame binds the name, and an arrow that is made in it is added to the array. -/
def gather (store : Store) (frame : FrameRef) (label name : String) (value : Value) (bag : ArrayRef) : Store :=
  { store with
    frames := store.frames.push ⟨label, store.visible frame, [(name, value)]⟩
    functions := store.functions.push (.arrow [] (.reference name) store.frames.size)
    arrays := store.arrays.modify bag (· ++ #[.function store.functions.size]) }

variable (label : String)

theorem isGrownTo_gather : store.IsGrownTo (store.gather frame label name value bag) :=
  .of_push rfl

theorem keepsYounger_gather :
    KeepsYounger outer store (store.gather frame label name value bag) := by
  apply (isGrownTo_gather label).keepsYounger
  intro ref inside
  simp [gather, Array.getElem?_push, Nat.ne_of_lt inside]

theorem elements_gather (other : ArrayRef) :
    (store.gather frame label name value bag).elements other =
      (store.updateArray bag (· ++ #[.function store.functions.size])).elements other := rfl

theorem elements_gather_of_ne (differs : ref ≠ bag) :
    (store.gather frame label name value bag).elements ref = store.elements ref := by
  rw [elements_gather, elements_updateArray_of_ne _ differs]

/-- A round adds a closure for its value to those that have been collected. -/
theorem Gathers.gather (gathers : store.Gathers frame sink name bag values) (label : String) (value : Value) :
    (store.gather frame label name value bag).Gathers frame sink name bag (values ++ [value]) where
  holds := (isGrownTo_gather label).holds gathers.holds
  seen := by rw [(isGrownTo_gather label).lookup? gathers.holds, gathers.seen]
  inside := by simpa [Store.gather] using gathers.inside
  recalls := by
    have added : (store.gather frame label name value bag).elements bag =
        store.elements bag ++ #[.function store.functions.size] := by
      rw [elements_gather, elements_updateArray _ gathers.inside]
    have keeps : KeepsYounger frame store (store.gather frame label name value bag) := keepsYounger_gather label
    have old := gathers.recalls.imp fun _ _ recalls => recalls.mono keeps
    have new : (store.gather frame label name value bag).Recalls frame name (.function store.functions.size) value :=
      .arrow (by simp [Store.gather]) gathers.holds.inside (by simp [binding?, Store.gather, Table.get?])
    rw [added, Array.toList_append]
    exact List.rel_append old (.cons new .nil)

end Store

/-! ## One round -/

theorem exec_reference (bound : store.lookup? frame name = some value) :
    (evaluator (effort + 1)).exec (.reference name) frame host store = .done value store := by
  change Exec.lookup frame name host store = _
  rw [Exec.lookup, bound]

theorem exec_collect {scope : FrameRef} (seen : store.lookup? scope sink = some (.array bag)) :
    ∃ value, (evaluator (effort + 2)).exec (.collect sink name) scope host store =
      .done value ((store.addFunction (.arrow [] (.reference name) scope)).2.updateArray bag
        (· ++ #[.function store.functions.size])) := by
  have runs (next : Value → Exec Value) :
      ((evaluator (effort + 1)).exec (.reference sink) scope >>= next) host store = next (.array bag) host store :=
    bind_of_done (exec_reference seen)
  exact ⟨_, runs _⟩

/-- The body of a round is executed in a new frame that binds the name. -/
theorem run_collect_inside (gathers : store.Gathers frame sink name bag values) (differs : name ≠ sink)
    (label : String) (value : Value) :
    ∃ result, (evaluator (effort + 2)).run store.frames.size [.collect sink name] host
        ((store.addFrame frame label).2.define store.frames.size name value) =
      .done result (store.gather frame label name value bag) := by
  have pushed : (store.addFrame frame label).2.frames = store.frames.push ⟨label, store.visible frame, []⟩ := rfl
  let inner : Store := { store with frames := store.frames.push ⟨label, store.visible frame, [(name, value)]⟩ }
  have seen : inner.lookup? store.frames.size sink = some (.array bag) := by
    rw [Store.lookup?_push rfl gathers.holds, gathers.seen]
    simp [Table.get?, differs]
  obtain ⟨result, ends⟩ := exec_collect seen
  rw [Store.define_push pushed]
  exact ⟨result, bind_of_done ends⟩

theorem absorbJumps_of_done {body : Exec Value} {last : Value} {after : Store}
    (ends : body host store = .done value after) : absorbJumps last body host store = .done (.again value) after := by
  rw [absorbJumps, ends]

/-- A loop that ends after some rounds. -/
theorem Exec.Rounds.repeatRounds_finished {β : Type} {round : β → Exec (Round β)} {count : Nat}
    {state last result : β} {after final : Store} (rounds : Rounds round host count state store last after)
    (few : count < effort) (ends : round last host after = .done (.finished result) final) :
    repeatRounds round effort state host store = .done result final := by
  obtain ⟨rest, rfl⟩ : ∃ rest, effort = rest + 1 + count := ⟨effort - 1 - count, by omega⟩
  rw [rounds.repeatRounds_eq, repeatRounds]
  simp only [ends]

/-! ## Loops over arrays -/

theorem forEachRound_collect {index : Nat} {last element : Value}
    (gathers : store.Gathers frame sink name bag values) (differs : name ≠ sink)
    (found : (store.elements ref)[index]? = some element) :
    ∃ result, (evaluator (effort + 2)).forEachRound frame name ref [.collect sink name] (index, last) host store =
      .done (.again (index + 1, result)) (store.gather frame "for-each" name element bag) := by
  obtain ⟨result, ends⟩ := run_collect_inside gathers differs "for-each" element
  refine ⟨result, ?_⟩
  have read : Exec.read (·.elements ref) host store = .done (store.elements ref) store := rfl
  have body : (do
      let scope ← Exec.child frame "for-each"
      Exec.define scope name element
      (evaluator (effort + 2)).run scope [.collect sink name]) host store =
        .done result (store.gather frame "for-each" name element bag) := ends
  rw [Evaluator.forEachRound, bind_of_done read]
  simp only [found]
  rw [bind_of_done (absorbJumps_of_done body)]
  rfl

/-- The rounds for the items that are left. -/
theorem rounds_collectItems (host : Host) (effort : Nat) (last : Value) {index : Nat} {rest : List Value}
    (gathers : store.Gathers frame sink name bag values) (differs : name ≠ sink) (other : ref ≠ bag)
    (left : (store.elements ref).toList.drop index = rest) :
    ∃ result after,
      Rounds ((evaluator (effort + 2)).forEachRound frame name ref [.collect sink name]) host rest.length
        (index, last) store (index + rest.length, result) after ∧
      after.Gathers frame sink name bag (values ++ rest) ∧ after.elements ref = store.elements ref := by
  -- By induction on the items that are left: the array that grows is not the one that is gone through.
  induction rest generalizing store values index last with
  | nil =>
    rw [List.append_nil]
    exact ⟨last, store, .none _ _, gathers, rfl⟩
  | cons element rest ih =>
    have found : (store.elements ref)[index]? = some element := by
      rw [← Array.getElem?_toList, ← List.head?_drop, left]
      rfl
    have same : (store.gather frame "for-each" name element bag).elements ref = store.elements ref :=
      Store.elements_gather_of_ne "for-each" other
    have leftThen : ((store.gather frame "for-each" name element bag).elements ref).toList.drop (index + 1) = rest := by
      rw [same, ← List.tail_drop, left]
      rfl
    obtain ⟨result, round⟩ := forEachRound_collect gathers differs found
    obtain ⟨final, after, rounds, gathered, unchanged⟩ := ih result (gathers.gather "for-each" element) leftThen
    refine ⟨final, after, ?_, ?_, unchanged.trans same⟩
    · rw [List.length_cons, show index + (rest.length + 1) = index + 1 + rest.length by omega]
      exact .next round rounds
    · rwa [List.append_assoc] at gathered

/-- A round after the last item ends the loop. -/
theorem forEachRound_past_end {body : List Node} {index : Nat} {last : Value}
    (past : (store.elements ref).size ≤ index) :
    (evaluator effort).forEachRound frame name ref body (index, last) host store =
      .done (.finished (index, last)) store := by
  have read : Exec.read (·.elements ref) host store = .done (store.elements ref) store := rfl
  rw [Evaluator.forEachRound, bind_of_done read]
  simp only [Array.getElem?_eq_none past]
  rfl

theorem exec_collectItems {source : String} (gathers : store.Gathers frame sink name bag [])
    (differs : name ≠ sink) (other : ref ≠ bag) (bound : store.lookup? frame source = some (.array ref))
    (few : (store.elements ref).size < effort + 2) :
    ∃ result after, (evaluator (effort + 3)).exec (.collectItems source sink name) frame host store =
      .done result after ∧ after.Gathers frame sink name bag (store.elements ref).toList := by
  obtain ⟨result, after, rounds, gathered, unchanged⟩ :=
    rounds_collectItems host effort .undefined gathers differs other (List.drop_zero ..)
  have past : (after.elements ref).size ≤ 0 + (store.elements ref).toList.length := by
    rw [unchanged, Array.length_toList, Nat.zero_add]
  have loop := rounds.repeatRounds_finished (by rwa [Array.length_toList]) (forEachRound_past_end past)
  refine ⟨result, after, ?_, gathered⟩
  change ((evaluator (effort + 2)).exec (.reference source) frame >>= _) host store = _
  rw [bind_of_done (exec_reference bound)]
  exact bind_of_done loop

/-! ## Counting loops -/

theorem Number.compare?_int_int (left right : Int) :
    (Number.int left).compare? (.int right) = some (compare left right) := by
  have positive : (0 : Int) < unitsPerOne := Int.natCast_pos.mpr unitsPerOne_pos
  change some (compare (left * (unitsPerOne : Int)) (right * (unitsPerOne : Int))) = _
  rcases Int.lt_trichotomy left right with less | rfl | greater
  · rw [compare_lt_iff_lt.mpr less, compare_lt_iff_lt.mpr (Int.mul_lt_mul_of_pos_right less positive)]
  · rw [compare_eq_iff_eq.mpr rfl, compare_eq_iff_eq.mpr rfl]
  · rw [compare_gt_iff_gt.mpr greater, compare_gt_iff_gt.mpr (Int.mul_lt_mul_of_pos_right greater positive)]

theorem Operator.less_holds (ordering : Ordering) : Operator.less.holds (some ordering) = (ordering == .lt) := by
  cases ordering <;> rfl

variable {counter : String} {count bound : Nat}

theorem proceeds_counting (host : Host) (effort bound : Nat)
    (counts : store.lookup? frame counter = some (.int count)) :
    (evaluator (effort + 2)).proceeds frame (some (.isBelow counter bound)) host store =
      .done (decide (count < bound)) store := by
  have compared : (evaluator (effort + 2)).exec (.isBelow counter bound) frame host store =
      .done (.bool (Operator.less.holds ((Number.int count).compare? (.int bound)))) store := by
    change ((evaluator (effort + 1)).exec (.reference counter) frame >>= _) host store = _
    rw [bind_of_done (exec_reference counts)]
    rfl
  have verdict : Operator.less.holds ((Number.int count).compare? (.int bound)) = decide (count < bound) := by
    rw [Number.compare?_int_int, Operator.less_holds, Bool.eq_iff_iff]
    simp [compare_lt_iff_lt]
  rw [verdict] at compared
  exact bind_of_done compared

theorem perform_countOn (counts : store.lookup? frame counter = some (.int count)) :
    (evaluator (effort + 3)).perform frame (some (.countOn counter)) host store =
      .done () (store.define frame counter (.int (count + 1 : Nat))) := by
  have added : (evaluator (effort + 2)).exec (.binary "+" (.reference counter) (.literal (.number (.int 1))))
      frame host store = .done (.int (count + 1 : Nat)) store := by
    change ((evaluator (effort + 1)).exec (.reference counter) frame >>= _) host store = _
    rw [bind_of_done (exec_reference counts)]
    rfl
  have found : Exec.lookup frame counter host store = .done (.int count) store := by rw [Exec.lookup, counts]
  have assigned : (evaluator (effort + 3)).exec (.countOn counter) frame host store =
      .done (.int (count + 1 : Nat)) (store.define frame counter (.int (count + 1 : Nat))) := by
    change (Exec.lookup frame counter >>= _) host store = _
    rw [bind_of_done found, bind_of_done added]
    rfl
  exact bind_of_done assigned

theorem runInside_collectCount (gathers : store.Gathers frame sink name bag values) (differs : name ≠ sink)
    (counts : store.lookup? frame counter = some (.int count)) :
    ∃ result, (evaluator (effort + 2)).runInside frame "for body" (Node.collectCount sink counter name) host store =
      .done result (store.gather frame "for body" name (.int count) bag) := by
  obtain ⟨result, ends⟩ := run_collect_inside gathers differs "for body" (.int count)
  have entered : (store.addFrame frame "for body").2.lookup? store.frames.size counter = some (.int count) := by
    rw [Store.lookup?_push rfl gathers.holds, counts]
    rfl
  have declared : (evaluator (effort + 2)).exec (.declare "number" name (.reference counter)) store.frames.size host
      (store.addFrame frame "for body").2 = .done (.int count)
        ((store.addFrame frame "for body").2.define store.frames.size name (.int count)) := by
    change ((evaluator (effort + 1)).exec (.reference counter) store.frames.size >>= _) host _ = _
    rw [bind_of_done (exec_reference entered)]
    rfl
  refine ⟨result, ?_⟩
  change ((evaluator (effort + 2)).exec (.declare "number" name (.reference counter)) store.frames.size >>= _) host
    (store.addFrame frame "for body").2 = _
  rw [bind_of_done declared]
  exact ends

theorem forRound_collectCount {last : Value} (gathers : store.Gathers frame sink name bag values)
    (differs : name ≠ sink) (counts : store.lookup? frame counter = some (.int count)) (below : count < bound) :
    ∃ result, (evaluator (effort + 3)).forRound frame (some (.isBelow counter bound)) (some (.countOn counter))
        (Node.collectCount sink counter name) last host store =
      .done (.again result) ((store.gather frame "for body" name (.int count) bag).define frame counter
        (.int (count + 1 : Nat))) := by
  obtain ⟨result, ends⟩ := runInside_collectCount gathers differs counts
  refine ⟨result, ?_⟩
  have countsThen : (store.gather frame "for body" name (.int count) bag).lookup? frame counter =
      some (.int count) := by
    rw [(Store.isGrownTo_gather "for body").lookup? gathers.holds, counts]
  have proceeds := proceeds_counting host (effort + 1) bound counts
  rw [decide_eq_true below] at proceeds
  rw [Evaluator.forRound, bind_of_done proceeds, if_pos rfl, bind_of_done (absorbJumps_of_done ends)]
  exact bind_of_done (perform_countOn countsThen)

theorem forRound_past_bound {body : List Node} {update : Option Node} {last : Value}
    (counts : store.lookup? frame counter = some (.int bound)) :
    (evaluator (effort + 2)).forRound frame (some (.isBelow counter bound)) update body last host store =
      .done (.finished last) store := by
  have proceeds := proceeds_counting host effort bound counts
  rw [decide_eq_false (Nat.lt_irrefl bound)] at proceeds
  rw [Evaluator.forRound, bind_of_done proceeds]
  rfl

namespace Store

theorem keepsYounger_define (name : String) (value : Value) :
    KeepsYounger frame store (store.define frame name value) where
  frames ref _ younger := by simp [Store.define, Array.getElem?_modify, Nat.ne_of_lt younger]
  functions _ _ := rfl

/-- The counter is not what the closures recall. -/
theorem Gathers.define (gathers : store.Gathers frame sink name bag values) (differs : counter ≠ sink)
    (value : Value) : (store.define frame counter value).Gathers frame sink name bag values where
  holds := gathers.holds.define counter value
  seen := by rw [lookup?_define_of_ne differs.symm, gathers.seen]
  inside := gathers.inside
  recalls := gathers.recalls.imp fun _ _ recalls => recalls.mono (keepsYounger_define counter value)

end Store

/-- The rounds for the counts that are left. -/
theorem rounds_collectCounts (host : Host) (effort : Nat) (last : Value) {base : Store} {left : Nat}
    (gathers : store.Gathers frame sink name bag values) (differs : name ≠ sink) (apart : counter ≠ sink)
    (counts : store.lookup? frame counter = some (.int count)) (reaches : count + left = bound)
    (grown : base.IsGrownTo store) (new : base.frames.size ≤ frame) :
    ∃ result after,
      Rounds ((evaluator (effort + 3)).forRound frame (some (.isBelow counter bound)) (some (.countOn counter))
        (Node.collectCount sink counter name)) host left last store result after ∧
      after.Gathers frame sink name bag (values ++ (List.range' count left).map fun index : Nat => .int index) ∧
      after.lookup? frame counter = some (.int bound) ∧ base.IsGrownTo after := by
  -- The counter is bound in `frame` itself, which none of the closures was made in.
  induction left generalizing store values count last with
  | zero =>
    obtain rfl : count = bound := reaches
    refine ⟨last, store, .none _ _, ?_, counts, grown⟩
    rwa [List.range'_zero, List.map_nil, List.append_nil]
  | succ left ih =>
    have below : count < bound := by omega
    obtain ⟨result, round⟩ := forRound_collectCount gathers differs counts below
    have gathersThen := (gathers.gather "for body" (.int count)).define apart (.int (count + 1 : Nat))
    have countsThen := Store.lookup?_define_self (gathers.gather "for body" (.int count)).holds.inside counter
      (.int (count + 1 : Nat))
    have grownThen : base.IsGrownTo (store.gather frame "for body" name (.int count) bag) :=
      grown.trans (Store.isGrownTo_gather "for body")
    obtain ⟨final, after, rounds, gathered, done, grownAfter⟩ :=
      ih result gathersThen countsThen (by omega) (grownThen.define new counter (.int (count + 1 : Nat)))
    refine ⟨final, after, .next round rounds, ?_, done, grownAfter⟩
    rwa [List.append_assoc] at gathered

theorem Store.Gathers.elements_eq_nil (gathers : store.Gathers frame sink name bag []) :
    (store.elements bag).toList = [] := List.forall₂_nil_right_iff.mp gathers.recalls

theorem exec_collectCounts (gathers : store.Gathers frame sink name bag []) (differs : name ≠ sink)
    (apart : counter ≠ sink) (few : bound < effort + 3) :
    ∃ result after, (evaluator (effort + 4)).exec (.collectCounts bound sink counter name) frame host store =
        .done result after ∧
      store.IsGrownTo after ∧
      after.Gathers store.frames.size sink name bag ((List.range bound).map fun index : Nat => .int index) := by
  have pushed : (store.addFrame frame "for").2.frames = store.frames.push ⟨"for", store.visible frame, []⟩ := rfl
  let entered : Store :=
    { store with frames := store.frames.push ⟨"for", store.visible frame, [(counter, .int 0)]⟩ }
  have performed : (evaluator (effort + 3)).perform store.frames.size
      (some (.declare "number" counter (.literal (.number (.int 0))))) host (store.addFrame frame "for").2 =
        .done () entered := by
    change Outcome.done () ((store.addFrame frame "for").2.define store.frames.size counter (.int 0)) = _
    rw [Store.define_push pushed]
    rfl
  have gathersThen : entered.Gathers store.frames.size sink name bag [] := {
    holds := Store.holds_push rfl gathers.holds
    seen := by
      rw [Store.lookup?_push rfl gathers.holds, gathers.seen]
      simp [Table.get?, apart]
    inside := gathers.inside
    recalls := by
      change List.Forall₂ _ (store.elements bag).toList []
      rw [gathers.elements_eq_nil]
      exact .nil }
  have counts : entered.lookup? store.frames.size counter = some (.int (0 : Nat)) := by
    rw [Store.lookup?_push rfl gathers.holds]
    simp [Table.get?]
  obtain ⟨result, after, rounds, gathered, done, grown⟩ :=
    rounds_collectCounts host effort .undefined gathersThen differs apart counts (Nat.zero_add bound)
      (Store.IsGrownTo.of_push rfl) (Nat.le_refl store.frames.size)
  have loop := rounds.repeatRounds_finished few (forRound_past_bound done)
  refine ⟨result, after, ?_, grown, ?_⟩
  · have created : Exec.child frame "for" host store = .done store.frames.size (store.addFrame frame "for").2 := rfl
    change (evaluator (effort + 3)).forLoop (effort + 3) frame _ _ _ _ host store = _
    rw [Evaluator.forLoop, bind_of_done created, bind_of_done performed]
    exact loop
  · rwa [List.nil_append, ← List.range_eq_range'] at gathered

/-! ## Calling what was collected -/

theorem call_arrow {made : FunctionRef} {params : List String} {body : Node} {scope : FrameRef} {args : List Value}
    (found : store.functions[made]? = some (.arrow params body scope)) :
    (evaluator (effort + 1)).call made args host store =
      (evaluator effort).exec body store.frames.size host (store.enterArrow params scope args) := by
  change (evaluator effort).callFunction made args host store = _
  rw [Evaluator.callFunction_eq found]
  exact Evaluator.callArrow_eq ..

/-- A closure that recalls a value gives it when it is called. -/
theorem call_of_recalls {made : FunctionRef} (recalls : store.Recalls outer name (.function made) value) :
    ∃ scope, (evaluator (effort + 2)).call made [] host store = .done value (store.addFrame scope "arrow").2 := by
  cases recalls with
  | @arrow _ scope _ found _ bound =>
    refine ⟨scope, ?_⟩
    rw [call_arrow found]
    exact exec_reference (Store.lookup?_of_binding? rfl bound)

/-- The arrow that calls its argument gives what the argument recalls. Only frames are added. -/
theorem call_callee_of_recalls {caller : FunctionRef} {callee : String}
    (found : store.functions[caller]? = some (.arrow [callee] (.call callee []) frame)) (holds : store.Holds frame)
    (recalls : store.Recalls outer name closure value) :
    ∃ after, (evaluator (effort + 4)).call caller [closure] host store = .done value after ∧
      store.IsGrownTo after ∧ after.functions = store.functions := by
  obtain ⟨made, rfl⟩ : ∃ made, closure = .function made := by
    cases recalls
    exact ⟨_, rfl⟩
  let inner : Store :=
    { store with frames := store.frames.push ⟨"arrow", store.visible frame, [(callee, .function made)]⟩ }
  have pushed : (store.addFrame frame "arrow").2.frames = store.frames.push ⟨"arrow", store.visible frame, []⟩ := rfl
  have entered : store.enterArrow [callee] frame [.function made] = inner :=
    Store.defineAll_push pushed [callee] [.function made, .undefined]
  have grown : store.IsGrownTo inner := .of_push rfl
  have known : Exec.lookup store.frames.size callee host inner = .done (.function made) inner := by
    rw [Exec.lookup, Store.lookup?_push rfl holds]
    simp [Table.get?]
  obtain ⟨scope, ends⟩ := call_of_recalls (recalls.mono (grown.keepsYounger fun _ _ => rfl))
  refine ⟨(inner.addFrame scope "arrow").2, ?_, grown.trans (.of_push rfl), rfl⟩
  rw [call_arrow found, entered]
  change (Exec.lookup store.frames.size callee >>= _) host inner = _
  rw [bind_of_done known]
  change Exec.hosted callee ((evaluator (effort + 2)).call made []) host inner = _
  rw [Exec.hosted, ends]

theorem callsEach_of_recalls {caller : FunctionRef} {callee : String} {closures : List Value} (host : Host)
    (effort : Nat) (found : store.functions[caller]? = some (.arrow [callee] (.call callee []) frame))
    (holds : store.Holds frame) (recalls : List.Forall₂ (store.Recalls outer name) closures values) :
    ∃ after, CallsEach (evaluator (effort + 4)).call caller host store closures values after := by
  induction closures generalizing store values with
  | nil =>
    cases recalls
    exact ⟨store, .nil store⟩
  | cons closure closures ih =>
    cases recalls with
    | cons first others =>
      obtain ⟨middle, called, grown, functions⟩ := call_callee_of_recalls found holds first
      have keeps : Store.KeepsYounger outer store middle := grown.keepsYounger fun ref _ => by rw [functions]
      obtain ⟨after, calls⟩ := ih (by rwa [functions]) (grown.holds holds)
        (others.imp fun _ _ recalls => recalls.mono keeps)
      exact ⟨after, .cons called calls⟩

/-- Calling all the closures of an array gives the values that they recall. -/
theorem exec_callAll {callee : String} (holds : store.Holds frame)
    (seen : store.lookup? frame sink = some (.array bag))
    (recalls : List.Forall₂ (store.Recalls outer name) (store.elements bag).toList values) :
    ∃ result final,
      (evaluator (effort + 5)).exec (.callAll sink callee) frame host store = .done (.array result) final ∧
      final.elements result = values.toArray := by
  let ready : Store := (store.addFunction (.arrow [callee] (.call callee []) frame)).2
  have grown : store.IsGrownTo ready := .of_frames_eq rfl
  have keeps : Store.KeepsYounger outer store ready := by
    apply grown.keepsYounger
    intro ref inside
    simp [ready, Store.addFunction, Array.getElem?_push, Nat.ne_of_lt inside]
  have found : ready.functions[store.functions.size]? = some (.arrow [callee] (.call callee []) frame) := by
    simp [ready, Store.addFunction]
  obtain ⟨after, calls⟩ := callsEach_of_recalls host effort found (grown.holds holds)
    (recalls.imp fun _ _ recalls => recalls.mono keeps)
  have mapped : applyMethod (evaluator (effort + 4)).call (.array bag) "map" [.function store.functions.size]
      host ready = .done (.array after.arrays.size) (after.addArray values.toArray).2 :=
    ArrayMethod.apply_map_eq_done_iff.mpr ⟨_, [], values, after, rfl, calls, rfl, rfl⟩
  refine ⟨after.arrays.size, (after.addArray values.toArray).2, ?_, by simp [Store.elements, Store.addArray]⟩
  change ((evaluator (effort + 4)).exec (.reference sink) frame >>= _) host store = _
  rw [bind_of_done (exec_reference seen)]
  change Exec.hosted "map"
    (applyMethod (evaluator (effort + 4)).call (.array bag) "map" [.function store.functions.size]) host ready = _
  rw [Exec.hosted, mapped]

/-! ## Whole programs -/

/-- The array for the closures is new and empty. -/
theorem exec_declare_sink (host : Host) (effort : Nat) (sink : String) (holds : store.Holds frame) :
    ∃ after, (evaluator (effort + 2)).exec (.declare "array" sink (.array [])) frame host store =
        .done (.array store.arrays.size) after ∧
      (∀ name, after.Gathers frame sink name store.arrays.size []) ∧
      (∀ ref < store.arrays.size, after.elements ref = store.elements ref) ∧
      ∀ known, known ≠ sink → after.lookup? frame known = store.lookup? frame known := by
  let made : Store := (store.addArray #[]).2
  have grown : store.IsGrownTo made := .of_frames_eq rfl
  have holdsThen := grown.holds holds
  refine ⟨made.define frame sink (.array store.arrays.size), rfl, ?_, ?_, ?_⟩
  · intro name
    exact {
      holds := holdsThen.define sink _
      seen := Store.lookup?_define_self holdsThen.inside sink _
      inside := by simp [made, Store.define, Store.addArray]
      recalls := by simp [made, Store.elements, Store.define, Store.addArray] }
  · intro ref inside
    simp [made, Store.elements, Store.define, Store.addArray, Array.getElem?_push, Nat.ne_of_lt inside]
  · intro known differs
    rw [Store.lookup?_define_of_ne differs, grown.lookup? holds]

theorem run_three {ev : Evaluator} {first second third : Node} {one two three : Value} {started collected final : Store}
    (begins : ev.exec first frame host store = .done one started)
    (goesOn : ev.exec second frame host started = .done two collected)
    (ends : ev.exec third frame host collected = .done three final) :
    ev.run frame [first, second, third] host store = .done three final := by
  rw [Evaluator.run, Evaluator.runFrom, bind_of_done begins, Evaluator.runFrom, bind_of_done goesOn,
    Evaluator.runFrom, bind_of_done ends]
  rfl

/-- Closures that are made in the rounds of a loop keep what their own round bound. The closures of a loop
over an array give the items of the array, the very same values in the same order, and those of a loop that
counts give the counts, although the counter goes on after they are made. -/
theorem run_closures_keep_rounds (host : Host) (effort : Nat) (store : Store) (frame : FrameRef)
    (sink callee : String) (holds : store.Holds frame) :
    (∀ (source item : String) (ref : ArrayRef), store.lookup? frame source = some (.array ref) →
      ref < store.arrays.size → source ≠ sink → item ≠ sink → (store.elements ref).size + 5 ≤ effort →
      ∃ result final, (evaluator effort).run frame
          [.declare "array" sink (.array []), .collectItems source sink item, .callAll sink callee] host store =
            .done (.array result) final ∧
        final.elements result = store.elements ref) ∧
    ∀ (bound : Nat) (counter seen : String), counter ≠ sink → seen ≠ sink → bound + 5 ≤ effort →
      ∃ result final, (evaluator effort).run frame
          [.declare "array" sink (.array []), .collectCounts bound sink counter seen, .callAll sink callee]
            host store = .done (.array result) final ∧
        final.elements result = ((List.range bound).map fun index : Nat => .int index).toArray := by
  constructor
  · intro source item ref bound inside apart differs enough
    obtain ⟨more, rfl⟩ := Nat.exists_eq_add_of_le' (Nat.le_of_add_left_le enough)
    obtain ⟨started, declared, gathers, elements, lookups⟩ := exec_declare_sink host (more + 3) sink holds
    have few : (started.elements ref).size < more + 2 + 2 := by rw [elements ref inside]; omega
    obtain ⟨two, collected, loop, gathered⟩ := exec_collectItems (gathers item) differs (Nat.ne_of_lt inside)
      ((lookups source apart).trans bound) few
    obtain ⟨result, final, called, results⟩ := exec_callAll gathered.holds gathered.seen gathered.recalls
    refine ⟨result, final, run_three declared loop called, ?_⟩
    rw [results, Array.toArray_toList, elements ref inside]
  · intro bound counter seen apart differs enough
    obtain ⟨more, rfl⟩ := Nat.exists_eq_add_of_le' (Nat.le_of_add_left_le enough)
    obtain ⟨started, declared, gathers, -, -⟩ := exec_declare_sink host (more + 3) sink holds
    have few : bound < more + 1 + 3 := by omega
    obtain ⟨two, collected, loop, grown, gathered⟩ := exec_collectCounts (gathers seen) differs apart few
    have sinkThen := (grown.lookup? (gathers seen).holds sink).trans (gathers seen).seen
    obtain ⟨result, final, called, results⟩ := exec_callAll (grown.holds (gathers seen).holds) sinkThen gathered.recalls
    exact ⟨result, final, run_three declared loop called, results⟩

/-- An array that contains itself is one of the items. -/
theorem run_closures_of_items_and_counts :
    let store : Store := ⟨#[⟨"global", [], [("items", .array 0)]⟩], #[#[.null, .array 0]], #[], #[], #[], 0⟩
    store.Holds Store.root ∧
    (∃ result final, (evaluator 8).run Store.root
        [.declare "array" "closures" (.array []), .collectItems "items" "closures" "item", .callAll "closures" "f"]
          default store = .done (.array result) final ∧
      final.elements result = #[.null, .array 0]) ∧
    ∃ result final, (evaluator 8).run Store.root
        [.declare "array" "closures" (.array []), .collectCounts 3 "closures" "i" "seen", .callAll "closures" "f"]
          default store = .done (.array result) final ∧
      final.elements result = #[.int 0, .int 1, .int 2] := by
  intro store
  have holds : store.Holds Store.root := ⟨by decide, by decide⟩
  have keep := run_closures_keep_rounds default 8 store Store.root "closures" "f" holds
  refine ⟨holds, ?_, ?_⟩
  · exact keep.1 "items" "item" 0 rfl (by decide) (by decide) (by decide) (by decide)
  · exact keep.2 3 "i" "seen" (by decide) (by decide) (by decide)

end TreeScript
