import TreeScript.Proofs.Memo.Twins
import TreeScript.Proofs.Runs.Traces

/-! # Remembering is not observable

A program whose pure functions are simple prints the same and ends with the same top-level values
whether or not its functions remember their results, as long as the run that remembers does not disclose
what is shared. No array may be changed that can be reached from an array or object that is given again, or
from an argument that it is given for, and no such arrays or objects may be compared with each other. Also no
call may be answered from memory if the body of the function may tell two arrays or two objects among its
arguments apart.
-/

namespace TreeScript

open Exec

/-! ## Equality of arguments -/

section Equality

variable {link wider : Link} {left left' right right' : Value}

theorem Link.Pairs.strictEquals_self (paired : link.Pairs left left') :
    left.strictEquals left = left'.strictEquals left' := by
  cases paired <;> simp [Value.strictEquals]

theorem Link.Pairs.areCells_eq (leftPaired : link.Pairs left left') (rightPaired : link.Pairs right right') :
    left.areCells right = left'.areCells right' := by
  cases leftPaired <;> cases rightPaired <;> rfl

/-- Two lists of arguments that are paired with a third are told to hold arrays and objects alike. -/
theorem strictEquals_eq_of_mayCompare {args others args' : List Value} {params : List String} {name other : String}
    (unique : OneToOne link.functions) (paired : Pairing.value.list.pairs link args args')
    (otherPaired : Pairing.value.list.pairs wider others args') (may : mayCompare params others name other = true) :
    (argumentOf params args name).strictEquals (argumentOf params args other) =
      (argumentOf params args' name).strictEquals (argumentOf params args' other) := by
  have here := pairs_argumentOf params paired
  have there := pairs_argumentOf params otherPaired
  by_cases same : name = other
  · subst same
    exact (here name).strictEquals_self
  · have noCells : (argumentOf params args name).areCells (argumentOf params args other) = false := by
      rw [(here name).areCells_eq (here other), ← (there name).areCells_eq (there other)]
      simpa [mayCompare, same] using may
    refine (here name).strictEquals_eq (here other) ?_ ?_ fun first second => unique first second
    · intro _ _ _ _ first second
      rw [first, second] at noCells
      cases noCells
    · intro _ _ _ _ first second
      rw [first, second] at noCells
      cases noCells

end Equality

/-! ## Links at an answer

The result that is given again is linked to the one that the second run makes, with all that can be reached
from it. -/

/-- Add the pairs of another link whose first cells are reached. -/
def Link.extend (link last : Link) (reached : Value → Prop) : Link :=
  { link with
    arrays := fun ref ref' => link.arrays ref ref' ∨ reached (.array ref) ∧ last.arrays ref ref'
    objects := fun ref ref' => link.objects ref ref' ∨ reached (.object ref) ∧ last.objects ref ref' }

/-- New pairs lead to new numbers, or to such as are already paired with one that is shared. So no others are
confused than those that are shared. -/
theorem OneToOneBut.extend {paired base last : Nat → Nat → Prop} {shared reached : Nat → Prop} {size size' : Nat}
    (unique : OneToOneBut (fun ref other => shared ref ∧ shared other) paired)
    (inside : ∀ {ref ref'}, paired ref ref' → ref' < size') (grown : GrownFrom base last size size')
    (shares : ∀ {ref}, reached ref → shared ref)
    (gives : ∀ {ref ref'}, reached ref → base ref ref' → ∃ other, shared other ∧ paired other ref') :
    OneToOneBut (fun ref other => shared ref ∧ shared other)
      fun ref ref' => paired ref ref' ∨ reached ref ∧ last ref ref' := by
  have mixed {ref ref' other other' : Nat} (reaches : reached ref) (new : last ref ref') (old : paired other other') :
      (ref = other ↔ ref' = other') ∨ shared ref ∧ shared other := by
    by_cases same : ref = other
    · exact .inr ⟨shares reaches, same ▸ shares reaches⟩
    by_cases same' : ref' = other'
    · subst same'
      rcases grown.origin new with known | ⟨-, since⟩
      · obtain ⟨another, sharedThere, known⟩ := gives reaches known
        refine .inr ⟨shares reaches, ?_⟩
        rcases unique known old with iff | ⟨-, shared⟩
        · exact iff.mpr rfl ▸ sharedThere
        · exact shared
      · exact absurd (inside old) (Nat.not_lt_of_le since)
    · exact .inl ⟨fun equal => absurd equal same, fun equal => absurd equal same'⟩
  rintro ref ref' other other' (old | ⟨reaches, new⟩) (otherOld | ⟨otherReaches, otherNew⟩)
  · exact unique old otherOld
  · refine (mixed otherReaches otherNew old).imp (fun iff => ?_) And.symm
    exact ⟨fun equal => (iff.mp equal.symm).symm, fun equal => (iff.mpr equal.symm).symm⟩
  · exact mixed reaches new otherOld
  · exact .inr ⟨shares reaches, shares otherReaches⟩

section Extending

variable {link last base : Link} {reached : Value → Prop} {past store store' after after' : Store} {value other : Value}

theorem Link.le_extend (link last : Link) (reached : Value → Prop) : link ≤ link.extend last reached :=
  Link.Within.mk id Or.inl Or.inl id id

theorem Link.Grows.pairs_extend (grows : base.Grows past store' last after after')
    (functions : ∀ {ref ref'}, base.functions ref ref' → link.functions ref ref')
    (symbols : ∀ {symbol}, base.symbols symbol → link.symbols symbol) (paired : last.Pairs value other)
    (reaches : reached value) : (link.extend last reached).Pairs value other := by
  cases paired with
  | array paired => exact .array (.inr ⟨reaches, paired⟩)
  | object paired => exact .object (.inr ⟨reaches, paired⟩)
  | function paired => exact .function (functions (grows.known paired))
  | symbol known => exact .symbol (symbols (grows.symbols known))
  | _ => constructor

/-- The extended link fits where what is reached is still what it was after the call. -/
theorem Link.Fits.extend {roots : Value → Prop} (fits : link.Fits store store')
    (grows : base.Grows past store' last after after')
    (functions : ∀ {ref ref'}, base.functions ref ref' → link.functions ref ref')
    (symbols : ∀ {symbol}, base.symbols symbol → link.symbols symbol)
    (kept : after.KeepsCells (after.Reaches roots) store) :
    (link.extend last (after.Reaches roots)).Fits store after' := by
  have within := link.le_extend last (after.Reaches roots)
  have old : link.Fits store after' := fits.grow (.of_eq rfl rfl) grows.start.toExtends (.of_eq rfl)
    (.of_eq grows.start.functions) ⟨fits.distinct.1, grows.distinct.2⟩ (fits.depth.trans grows.start.depth_le)
  exact { old with
    arrays := by
      rintro ref ref' (known | ⟨-, known⟩)
      · exact old.arrays known
      · exact ⟨Nat.lt_of_lt_of_le (grows.arrays known).1 kept.arrays, (grows.arrays known).2⟩
    elements := by
      rintro ref ref' (known | ⟨reaches, known⟩)
      · exact Pairing.array.mono (old.elements known) within
      · have same : store.elements ref = after.elements ref := kept.same _ reaches
        have inside (value : Value) (member : value ∈ (after.elements ref).toList) : after.Reaches roots value :=
          .element reaches (Array.mem_toList_iff.mp member)
        rw [same]
        exact ((List.forall₂_and_left _ _).mpr ⟨inside, grows.elements known⟩).imp fun _ _ both =>
          grows.pairs_extend functions symbols both.2 both.1
    objects := by
      rintro ref ref' (known | ⟨-, known⟩)
      · exact old.objects known
      · exact ⟨Nat.lt_of_lt_of_le (grows.objects known).1 kept.objects, (grows.objects known).2⟩
    entries := by
      rintro ref ref' (known | ⟨reaches, known⟩)
      · exact Pairing.table.mono (old.entries known) within
      · intro name
        have same : store.entries ref = after.entries ref := kept.same _ reaches
        have inside (value : Value) : (after.entries ref).get? name = some value → after.Reaches roots value :=
          .entry reaches
        have paired := grows.entries known name
        rw [same]
        generalize (after.entries ref).get? name = entry at inside paired ⊢
        generalize (after'.entries ref').get? name = entry' at paired ⊢
        cases paired with
        | none => exact .none
        | some paired => exact .some (grows.pairs_extend functions symbols paired (inside _ rfl)) }

/-- From a value that is no array or object nothing else is reached. -/
theorem Store.Reaches.isCell {result : Value} (reaches : store.Reaches (· = result) value) (cell : value.isCell = true) :
    result.isCell = true := by
  induction reaches with
  | root here => exact here ▸ cell
  | element _ _ ih | entry _ _ ih => exact ih rfl

end Extending

namespace Trial

variable {trial : Trial} {link : Link} {store store' later : Store} {ref : FunctionRef}
  {function : Closure} {cache : Table Value} {key : String} {result : Value} {args args' : List Value}
  {effort effort' : Nat}

/-! ## Runs that are lost -/

theorem lost_addFunction (lost : trial.bond.lost store) {callable : Callable}
    (admitted : callable.IsAdmitted trial.symbols) : trial.bond.lost (store.addFunction callable).2 := by
  obtain ⟨lost, others⟩ := lost
  refine ⟨lost.imp ?_ id, others.addFunction admitted⟩
  rintro ⟨hit, function, cache, answered, found, compares⟩
  have inside : hit.function < store.functions.size := (Array.getElem?_eq_some_iff.mp found).1
  refine ⟨hit, function, cache, answered, ?_, compares⟩
  simp [Store.addFunction, Array.getElem?_push, Nat.ne_of_lt inside, found]

theorem lost_remember (lost : trial.bond.lost store) (ref : FunctionRef) (key : String) (result : Value) :
    trial.bond.lost (store.remember ref key result) := by
  obtain ⟨lost, others⟩ := lost
  refine ⟨lost.imp ?_ id, others.remember (Callable.isAdmitted_blind _) ref key result⟩
  rintro ⟨hit, function, cache, answered, found, compares⟩
  by_cases same : ref = hit.function
  · refine ⟨hit, function, cache.put key result, answered, ?_, compares⟩
    simp [Store.remember, Array.getElem?_modify, same, found]
  · exact ⟨hit, function, cache, answered, by simp [Store.remember, Array.getElem?_modify, same, found], compares⟩

theorem keeps_callMemoized (simple : function.IsSimple) (host : Host) (lost : trial.bond.lost store) :
    ((interrupted trial.halts effort).callMemoized ref function cache args host store).Meets
      trial.bond.losing.ending := by
  rcases Evaluator.keyOf_cases args host store with ⟨key, -, keyed⟩ | ⟨-, tooLong⟩ | ⟨-, unkeyed⟩
  · cases entry : cache.get? key with
    | some result =>
      rw [Evaluator.callMemoized_of_hit keyed entry]
      exact lost_record lost _
    | none =>
      rw [Evaluator.callMemoized_of_miss keyed entry, meets_bind]
      have left := leaves_callClosure simple trial.halts effort args host store
      have lost := lost_of_grown lost left.functions left.transcript
      cases outcome : (interrupted trial.halts effort).callClosure function args host store with
      | done result after =>
        rw [outcome] at lost
        exact lost_remember lost ref key result
      | stopped reason after =>
        rw [outcome] at lost
        exact ⟨trivial, lost⟩
      | unfinished after =>
        rw [outcome] at lost
        exact lost
  · rw [Evaluator.callMemoized_of_stopped tooLong]
    exact ⟨trivial, lost⟩
  · rw [Evaluator.callMemoized_of_unkeyed unkeyed]
    exact lost

/-! ## Calls in linked stores -/

/-- The functions of linked stores are paired one to one. -/
theorem Linked.unique (linked : trial.Linked link store store') : OneToOne link.functions := by
  intro ref ref' other other' first second
  rw [linked.functions.same first, linked.functions.same second]

/-- A call was answered from memory, and the second run made it. The link is extended by what can be reached
from the result. Where that was linked before the call, it is reached from the arguments. -/
theorem Linked.recordHit (linked : trial.Linked link store store') {hit : MemoHit} {base last : Link}
    {past after after' : Store} (remembers : store.Remembers hit.function hit.key function result)
    (expected : trial.hits hit) (paired : ∀ value ∈ hit.args, ∃ value', link.Pairs value value')
    (kept : after.KeepsCells (after.Reaches (· = result)) store) (grows : base.Grows past store' last after after')
    (functions : ∀ {ref ref'}, base.functions ref ref' → link.functions ref ref')
    (symbols : ∀ {symbol}, base.symbols symbol → link.symbols symbol)
    (arrays : ∀ {ref ref'}, base.arrays ref ref' →
      ∃ other, store.Reaches (· ∈ hit.args) (.array other) ∧ link.arrays other ref')
    (objects : ∀ {ref ref'}, base.objects ref ref' →
      ∃ other, store.Reaches (· ∈ hit.args) (.object other) ∧ link.objects other ref') :
    trial.Linked (link.extend last (after.Reaches (· = result))) (store.record (.memoHit hit)) after' := by
  let said := store.record (.memoHit hit)
  have answered : said.Answers hit := Array.mem_push_self
  have goesOn : store.GoesOn trial.hits said :=
    Store.goesOn_of_eq rfl rfl rfl fun _ member => Array.mem_push_of_mem _ member
  have within := link.le_extend last (after.Reaches (· = result))
  have stays {roots : Value → Prop} {value : Value} (reaches : store.Reaches roots value) : said.Reaches roots value :=
    reaches.keep (.of_eq rfl rfl)
  have gives {value : Value} (reaches : after.Reaches (· = result) value) : said.Shares said.Answers value := by
    refine (stays (reaches.keep kept)).mono ?_
    rintro _ rfl
    exact .result answered (goesOn.remembers remembers)
  have hands (cell : result.isCell = true) {value : Value} (reaches : store.Reaches (· ∈ hit.args) value) :
      said.Shares said.Answers value :=
    (stays reaches).mono fun _ member => .argument answered (goesOn.remembers remembers) cell member
  have fits := linked.cells.toFits.extend grows functions symbols kept
  exact {
    cells := {
      toFits := fits.of_eq rfl rfl (.of_eq rfl) rfl rfl (.of_eq rfl)
      arraysUnique := by
        have old := linked.cells.arraysUnique.mono id fun confuses => (linked.confuses goesOn confuses).2
        refine (old.extend (fun known => (linked.cells.arrays known).2) grows.arraysGrown gives ?_).mono id
          fun shared => ⟨rfl, shared⟩
        intro ref ref' reaches known
        obtain ⟨other, reachesOther, known⟩ := arrays known
        exact ⟨other, hands (reaches.isCell rfl) reachesOther, known⟩
      objectsUnique := by
        have old := linked.cells.objectsUnique.mono id fun confuses => (linked.confuses goesOn confuses).2
        refine (old.extend (fun known => (linked.cells.objects known).2) grows.objectsGrown gives ?_).mono id
          fun shared => ⟨rfl, shared⟩
        intro ref ref' reaches known
        obtain ⟨other, reachesOther, known⟩ := objects known
        exact ⟨other, hands (reaches.isCell rfl) reachesOther, known⟩ }
    frames := (linked.frames.grow_right grows.start.frames).mono within id
    functions := linked.functions.grow within id rfl grows.start.functions (Nat.le_refl _) goesOn
    expected := by
      intro other answered
      rcases Array.mem_push.mp answered with known | same
      · obtain ⟨expected, paired⟩ := linked.expected other known
        exact ⟨expected, fun value member => (paired value member).imp fun _ here => here.mono within⟩
      · cases same
        exact ⟨expected, fun value member => (paired value member).imp fun _ here => here.mono within⟩
    symbols := linked.symbols
    output := by
      rw [Store.output_record, linked.output, Store.output, Store.output, grows.start.transcript]
    requests := linked.requests.trans grows.start.requests.symm }

/-- What a function remembers is what a call gives in the other run, unless it may tell the arguments apart. -/
theorem Linked.answer (linked : trial.Linked link store store') (tells : link.TellsSymbols)
    (injective : Function.Injective trial.host.identity)
    (found : store.functions[ref]? = some (.memoized function cache)) (entry : cache.get? key = some result)
    {scope' : FrameRef} (scopes : link.frames function.scope scope')
    (paired : Pairing.value.list.pairs link args args') (keyed : store.key? args trial.host.identity = some key)
    (expected : trial.hits ⟨ref, args, function.name, key⟩) (unmisled : function.comparesCells args = false)
    (enough : ∀ limit ∈ trial.limit, limit ≤ effort') :
    trial.bond.Cuts ((evaluator effort').callClosure { function with scope := scope' } args' trial.right
        store') ∨
      ∃ wider, link ≤ wider ∧ ∃ result' after', (evaluator effort').callClosure { function with scope := scope' } args'
        trial.right store' = .done result' after' ∧ wider.Pairs result result' ∧
        trial.Linked wider (store.record (.memoHit ⟨ref, args, function.name, key⟩)) after' := by
  have admitted := linked.functions.admitted ref _ found
  have remembers : store.Remembers ref key function result := ⟨cache, found, entry⟩
  cases linked.functions.remembered remembers with
  | @intro known past past' after pastArgs pastArgs' _ effort within fits names depth holds pastPaired pastKeyed
      repeats called _ kept =>
    let base := known.through past store (· ∈ args) link
    have argsPaired : Pairing.value.list.pairs base pastArgs args' :=
      Link.pairs_through_all within tells pastPaired (Store.drawnAlike_of_key? injective pastKeyed keyed)
        (fun _ member => .root member) paired
    have unique : OneToOne base.functions := linked.unique.mono fun paired => paired.2
    have again : CalledTwice base function scope' pastArgs args' past store' := {
      fits := fits.through linked.cells.toFits within tells names depth
      noFrames := fun _ _ none => none
      unique := unique
      holds := holds
      holds' := (linked.frames.holds scopes).2
      args := argsPaired }
    have compares : allEverywhere (Node.comparesOnly (mayCompare function.params args)) .ofFunction
        function.body = true := by simpa [Closure.comparesCells] using unmisled
    have simple (node : Node) (member : node ∈ function.body) : node.IsSimpleIn function.params
        (mayCompare function.params args) trial.symbols .ofFunction := {
      simple := allEverywhere_iff.mp admitted.2 node member
      compares := allEverywhere_iff.mp compares node member
      uses := (admitted.1 node member).uses }
    have affordable : trial.bond.shortRight ∨ effort ≤ effort' := by
      cases limited : trial.limit with
      | none => exact .inl limited
      | some limit => exact .inr ((repeats limit limited).trans (enough limit limited))
    have sameLimit : trial.left.digitLimit = trial.right.digitLimit := rfl
    refine (again.callClosure simple (fun _ member => linked.symbols.mpr member)
      (fun name other => strictEquals_eq_of_mayCompare unique argsPaired paired) affordable sameLimit
      called).imp id ?_
    rintro ⟨result', after', last, ends, resultPaired, grows⟩
    have functions {ref ref' : FunctionRef} (paired : base.functions ref ref') : link.functions ref ref' := paired.2
    refine ⟨link.extend last (after.Reaches (· = result)), link.le_extend last _, result', after', ends,
      grows.pairs_extend functions id resultPaired (.root rfl), ?_⟩
    refine linked.recordHit remembers expected (fun value member => ?_) (kept ⟨_, expected, rfl, rfl⟩) grows functions id
      ?_ ?_
    · obtain ⟨index, inside, rfl⟩ := List.getElem_of_mem member
      exact ⟨_, paired.get inside (paired.length_eq ▸ inside)⟩
    · exact fun ⟨_, other, _, reachesOther, paired⟩ => ⟨other, reachesOther, paired⟩
    · exact fun ⟨_, other, _, reachesOther, paired⟩ => ⟨other, reachesOther, paired⟩

/-- A result that is remembered now will be found later. -/
theorem Linked.remembered {after : Store} {wider : Link} (linked : trial.Linked link store store')
    (admitted : function.IsSimple) (within : link ≤ wider) {scope' : FrameRef}
    (scopes : link.frames function.scope scope') (paired : Pairing.value.list.pairs link args args')
    (keyed : store.key? args trial.host.identity = some key) (repeats : trial.Repeats effort)
    (called : (evaluator effort).callClosure function args trial.left store = .done result after)
    {result' : Value} (given : wider.Pairs result result') (ref : FunctionRef) :
    trial.Remembered wider (after.remember ref key result) ref function key result := by
  have left := leaves_callClosure admitted (fun _ => false) effort args trial.left store
  rw [interrupted_never, called] at left
  have names : store.KeepsNames (after.remember ref key result) :=
    Store.KeepsNames.trans (.of_eq left.functions) (.remember after ref key result)
  exact .intro within linked.cells.toFits names left.depth (linked.frames.holds scopes).1 paired keyed
    repeats called given fun _ => .of_eq rfl rfl

/-- Arguments of which no key can be made contain themselves. -/
theorem hasCycle_of_key? {identity : FunctionRef → Nat} (unkeyed : store.key? args identity = none) :
    store.HasCycle := by
  by_contra acyclic
  have drawn : (args.mapM (store.picture? · identity)).isSome = true := by
    refine isSome_mapM_iff.mpr fun value _ => Store.isSome_pictureWithin.mpr ?_
    exact Store.isSome_pictureWithin.mp (Option.isSome_iff_ne_none.mpr fun none => acyclic ⟨value, none⟩)
  obtain ⟨pictures, drawn⟩ := Option.isSome_iff_exists.mp drawn
  simp [Store.key?, drawn] at unkeyed

/-- A run that does without being interrupted does the same where it may be. -/
theorem interrupted_callClosure_eq_done {halts : RunMoment → Bool} {host : Host} {after : Store}
    (called : (interrupted halts effort).callClosure function args host store = .done result after) :
    (evaluator effort).callClosure function args host store = .done result after := by
  have ends := (((interrupted_traces_all halts host effort).callClosure function args).ends store).eq_done called
  rwa [interrupted_never] at ends

/-- A function that remembers is mirrored by one that does not. -/
theorem meets_callMemoized (linked : trial.Linked link store store') (tells : link.TellsSymbols)
    (injective : Function.Injective trial.host.identity)
    (found : store.functions[ref]? = some (.memoized function cache)) {scope' : FrameRef}
    (scopes : link.frames function.scope scope')
    (exec : ∀ node ∈ function.body,
      Evaluator.MirrorsNode trial.bond link (interrupted trial.halts effort) (evaluator effort') node)
    (paired : Pairing.value.list.pairs link args args') (repeats : trial.Repeats effort)
    (enough : ∀ limit ∈ trial.limit, limit ≤ effort') :
    ((interrupted trial.halts effort).callMemoized ref function cache args trial.left store).Meets
      (trial.bond.ending Pairing.value.pairs link
        ((evaluator effort').callClosure { function with scope := scope' } args' trial.right store')) := by
  have admitted := linked.functions.admitted ref _ found
  rcases Evaluator.keyOf_cases args trial.left store with ⟨key, keyed, written⟩ | ⟨-, tooLong⟩ | ⟨none, unkeyed⟩
  · cases entry : cache.get? key with
    | some result =>
      rw [Evaluator.callMemoized_of_hit written entry]
      let hit : MemoHit := ⟨ref, args, function.name, key⟩
      have answered : (store.record (.memoHit hit)).Answers hit := Array.mem_push_self
      have othersAdmitted : (store.record (.memoHit hit)).EachFunction (Callable.IsAdmitted trial.symbols) :=
        linked.functions.admitted
      by_cases expected : trial.hits hit
      · by_cases compares : function.comparesCells args = true
        · exact .inl ⟨.inl ⟨hit, function, cache, answered, found, compares⟩, othersAdmitted⟩
        · rcases linked.answer tells injective found entry scopes paired keyed expected
            (Bool.eq_false_of_not_eq_true compares) enough with cuts | ⟨wider, within, result', after', ends, rest⟩
          · exact .inr (.inl cuts)
          · rw [ends]
            exact .inr (.inr ⟨wider, within, result', after', rfl, rest⟩)
      · exact .inl ⟨.inr (.inl ⟨hit, answered, expected⟩), othersAdmitted⟩
    | none =>
      rw [Evaluator.callMemoized_of_miss written entry, meets_bind]
      have left := (leaves_callClosure admitted.2 trial.halts effort args trial.left store).functions
      have call := (Evaluator.mirrors_callClosure trial.lawful scopes exec paired).meets link le_rfl _ _
        linked
      change ((interrupted trial.halts effort).callClosure function args trial.left store).Meets _ at call
      cases called : (interrupted trial.halts effort).callClosure function args trial.left store with
      | unfinished | stopped =>
        rw [called] at call
        exact call
      | done result after =>
        rw [called] at call left
        have foundAfter : after.functions[ref]? = some (.memoized function cache) := left ▸ found
        rcases call with lost | cuts | ⟨wider, within, result', after', ends, resultPaired, linkedAfter⟩
        · exact .inl (lost_remember lost ref key result)
        · exact .inr (.inl cuts)
        · have remembered := linked.remembered admitted.2 within scopes paired keyed repeats
            (interrupted_callClosure_eq_done called) resultPaired ref
          exact .inr (.inr ⟨wider, within, result', after', ends, resultPaired,
            linkedAfter.remember foundAfter entry remembered⟩)
  · rw [Evaluator.callMemoized_of_stopped tooLong]
    exact .inl (.inr ⟨rfl, linked.functions.admitted⟩)
  · rw [Evaluator.callMemoized_of_unkeyed unkeyed]
    exact .inr (.inr (.inl (.inl (hasCycle_of_key? none))))

/-! ## Functions that are made -/

theorem follows_newFunction {callable : Callable} (admitted : callable.IsAdmitted trial.symbols) :
    (newFunction callable).Follows trial.bond.losing :=
  (follows_create fun _ lost => lost_addFunction lost admitted).bind fun _ => follows_pure _

theorem mirrors_newFunction {callable callable' : Callable}
    (admitted : callable.IsAdmitted trial.symbols) (paired : link.Callables callable callable')
    (empty : ∀ closure cache, callable = .memoized closure cache → cache = []) :
    (newFunction callable).Mirrors trial.bond link Pairing.value.pairs (newFunction callable') := by
  have made : (create (·.addFunction callable)).Mirrors trial.bond link Pairing.functionRef.pairs
      (create (·.addFunction callable')) :=
    mirrors_create (fun _ lost => lost_addFunction lost admitted) fun wider within store store' linked =>
      ⟨_, Link.le_addFunction _ _, .inr ⟨rfl, rfl⟩,
        linked.addFunction admitted (paired.mono within) empty⟩
  exact made.bind fun _ _ _ _ refs => mirrors_pure (.function refs)

/-- Functions marked pure remember in the first run only. -/
theorem pairsMade {site : Site} {node : Node} (admitted : node.IsAdmitted trial.symbols site) :
    trial.bond.PairsMade link node := by
  intro wider _ frame frame' frames make make' closure closure'
  cases node with
  | function name params body paramTypes returnType isPure =>
    cases closure
    cases closure'
    have inside (node : Node) (member : node ∈ body) : node.IsAdmitted trial.symbols .ofFunction :=
      admitted.part (List.mem_map_of_mem member)
    have simple := (Node.everywhere_iff.mp admitted.pure).1
    let made : Closure := ⟨functionName name, params, body, frame⟩
    cases isPure with
    | false =>
      have plain : (Callable.closure made).IsAdmitted trial.symbols := inside
      refine mirrors_host (fun _ => follows_newFunction plain) ?_
      exact mirrors_newFunction plain (.closure made frames) (fun _ _ same => nomatch same)
    | true =>
      have remembering : (Callable.memoized made []).IsAdmitted trial.symbols :=
        ⟨inside, by simpa [Node.pureIsSimple, Closure.IsSimple] using simple⟩
      refine mirrors_host (fun host => follows_newFunction ?_) ?_
      · cases host.memoizes with
        | false => exact inside
        | true => exact remembering
      · refine mirrors_newFunction remembering (.memoized made [] frames) fun _ _ same => ?_
        cases same
        rfl
  | arrow params body =>
    cases closure
    cases closure'
    have inside : body.IsAdmitted trial.symbols .ofArrow := admitted.part (List.mem_singleton_self _)
    exact mirrors_newFunction inside (.arrow params body frames) (fun _ _ same => nomatch same)
  | _ => cases closure

/-! ## Moments at which nothing is disclosed -/

theorem halts_iff {moment : RunMoment} : trial.halts moment = true ↔ moment.Discloses trial.hits trial.left := by
  simp [halts]

/-- What an interrupted run touches, the whole run touches. -/
theorem touches_evaluator {frozen : Store → Value → Prop} {confused : Store → Value → Value → Prop}
    {halts : RunMoment → Bool} {host : Host} {frame : FrameRef} {node : Node}
    (touches : node.Touches frozen confused (interrupted halts effort) host frame store) :
    node.Touches frozen confused (evaluator effort) host frame store := by
  refine touches.mono fun {node frame store value after} ends => ?_
  have ends := (((interrupted_traces_all halts host effort).exec node frame).ends store).eq_done ends
  rwa [interrupted_never] at ends

/-! ## Execution -/

/-- The efforts that the two runs are allowed go together. If the second run must not be cut short it is
allowed to call what the first one remembers, at every depth. -/
structure Suits (trial : Trial) (effort effort' : Nat) : Prop where
  left : trial.limit.isSome = true ∨ effort' ≤ effort
  right : ∀ limit ∈ trial.limit, effort ≤ limit ∧ effort + limit ≤ effort'

theorem Suits.pred (suits : trial.Suits (effort + 1) (effort' + 1)) : trial.Suits effort effort' where
  left := suits.left.imp id Nat.le_of_succ_le_succ
  right limit member := by
    have := suits.right limit member
    omega

theorem Suits.of_zero (suits : trial.Suits (effort + 1) 0) : trial.limit = none ∧ trial.Suits effort 0 := by
  have unlimited : trial.limit = none := by
    cases limited : trial.limit with
    | none => rfl
    | some limit =>
      have := suits.right limit limited
      omega
  exact ⟨unlimited, .inr (Nat.zero_le _), by simp [unlimited]⟩

theorem Suits.affords (suits : trial.Suits effort effort') : trial.bond.Affords effort effort' where
  left := suits.left
  right := by
    cases limited : trial.limit with
    | none => exact .inl limited
    | some limit =>
      have := suits.right limit limited
      exact .inr (by omega)

/-- Functions and symbols with one number are one. -/
structure TellsApart (trial : Trial) : Prop where
  functions : Function.Injective trial.host.identity
  symbols : ∀ symbol ∈ trial.symbols, ∀ other ∈ trial.symbols, symbol.id = other.id → symbol = other

/-- Executions of admitted nodes and all calls are mirrored. -/
structure Mirrored (trial : Trial) (link : Link) (effort effort' : Nat) : Prop where
  exec : ∀ {site node}, node.IsAdmitted trial.symbols site →
    Evaluator.MirrorsNode trial.bond link (interrupted trial.halts effort) (evaluator effort') node
  call : Caller.Mirrors trial.bond link (interrupted trial.halts effort).call (evaluator effort').call

theorem keeps_callFunction (mirrored : trial.Mirrored ⊤ effort effort') (ref : FunctionRef)
    (args : List Value) : ((interrupted trial.halts effort).callFunction ref args).Follows trial.bond.losing := by
  refine ⟨fun host store lost => ?_⟩
  have same := Pairing.value.list.top args
  cases found : store.functions[ref]? with
  | none =>
    rw [Evaluator.callFunction_of_none found]
    exact lost
  | some callable =>
    have admitted := lost.2 ref callable found
    rw [Evaluator.callFunction_eq found]
    cases callable with
    | builtin function =>
      exact (function.mirrors_call trial.lawful.toFaithful same).keeps.meets host store lost
    | closure function =>
      have call : ((interrupted trial.halts effort).callClosure function args).Mirrors trial.bond ⊤
          Pairing.value.pairs ((evaluator effort').callClosure function args) :=
        Evaluator.mirrors_callClosure trial.lawful trivial
          (fun node member => mirrored.exec (admitted node member)) same
      exact call.keeps.meets host store lost
    | memoized function cache => exact keeps_callMemoized admitted.2 host lost
    | arrow params body scope =>
      have call : ((interrupted trial.halts effort).callArrow params body scope args).Mirrors trial.bond ⊤
          Pairing.value.pairs ((evaluator effort').callArrow params body scope args) :=
        Evaluator.mirrors_callArrow trial.lawful trivial (mirrored.exec admitted) params same
      exact call.keeps.meets host store lost

theorem mirrors_callFunction (tells : trial.TellsApart)
    (mirrored : ∀ wider, link ≤ wider → trial.Mirrored wider effort effort')
    (suits : trial.Suits effort effort') :
    Caller.Mirrors trial.bond link (interrupted trial.halts effort).callFunction (evaluator effort').callFunction := by
  intro wider within ref ref' args args' refs argsPaired
  refine ⟨keeps_callFunction (mirrored ⊤ le_top) ref args, fun last further store store' linked => ?_⟩
  have here := mirrored last (within.trans further)
  have paired := Pairing.value.list.mono argsPaired further
  obtain ⟨rfl, callable, callable', found, found', callables⟩ :=
    linked.toMatches.functions (further.functions refs)
  have admitted := linked.functions.admitted ref callable found
  rw [Evaluator.callFunction_eq found, Evaluator.callFunction_eq found']
  cases callables with
  | builtin function =>
    exact (function.mirrors_call trial.lawful.toFaithful paired).meets last le_rfl _ _ linked
  | closure function scopes =>
    have call := Evaluator.mirrors_callClosure trial.lawful scopes
      (fun node member => here.exec (admitted node member)) paired
    exact call.meets last le_rfl _ _ linked
  | memoized function cache scopes =>
    have repeats : trial.Repeats effort := fun limit member => (suits.right limit member).1
    exact meets_callMemoized linked (linked.tellsSymbols tells.symbols) tells.functions found scopes
      (fun node member => here.exec (admitted.1 node member)) paired repeats
      fun limit member => (Nat.le_add_left _ _).trans (suits.right limit member).2
  | arrow params body scopes =>
    have call := Evaluator.mirrors_callArrow trial.lawful scopes (here.exec admitted) params paired
    exact call.meets last le_rfl _ _ linked

/-- A node is mirrored that is about to be executed where nothing is disclosed. -/
theorem mirrors_execNode (mirrored : trial.Mirrored link effort effort') (suits : trial.Suits effort effort')
    (known : ∀ symbol ∈ trial.symbols, link.symbols symbol) {site : Site} {node : Node}
    (admitted : node.IsAdmitted trial.symbols site) {frame frame' : FrameRef}
    (frames : link.frames frame frame') :
    ((interrupted trial.halts effort).execNode effort node frame).MirrorsFrom
      (fun store => trial.halts ⟨node, frame, store⟩ = false) trial.bond link Pairing.value.pairs
      ((evaluator effort').execNode effort' node frame') := by
  refine (Evaluator.mirrors_execNode trial.lawful suits.affords site (.inl trivial)
    (fun part member => mirrored.exec (admitted.part member))
    (fun part member => pairsMade (admitted.part member)) mirrored.call (fun value member => ?_) frames).imp ?_
  · have uses := (Node.everywhere_iff.mp admitted.uses).1
    exact Link.pairs_of_isKnown known (List.all_eq_true.mp uses value member)
  · intro store passed touches
    have discloses : trial.halts ⟨node, frame, store⟩ = true := halts_iff.mpr ⟨effort, touches_evaluator touches⟩
    rw [passed] at discloses
    cases discloses

/-- The first run stops short where something is disclosed. -/
theorem mirrors_exec {node : Node} {frame : FrameRef} {mirror : Exec Value}
    (mirrors : ((interrupted trial.halts effort).execNode effort node frame).MirrorsFrom
      (fun store => trial.halts ⟨node, frame, store⟩ = false) trial.bond link Pairing.value.pairs mirror) :
    ((interrupted trial.halts (effort + 1)).exec node frame).Mirrors trial.bond link Pairing.value.pairs mirror := by
  refine ⟨⟨fun host store lost => ?_⟩, fun wider within store store' linked => ?_⟩
  all_goals rw [interrupted_exec_eq]
  all_goals split
  · exact lost
  · exact mirrors.keeps.meets host store lost
  · next picked => exact .inr (.inr (.inl (.inr ⟨_, picked, rfl⟩)))
  · next passed => exact mirrors.meets wider within store store' linked (Bool.eq_false_of_not_eq_true passed)

theorem mirrored (tells : trial.TellsApart) (link : Link)
    (known : ∀ symbol ∈ trial.symbols, link.symbols symbol) (suits : trial.Suits effort effort') :
    trial.Mirrored link effort effort' := by
  induction effort generalizing link effort' with
  | zero =>
    have cut : trial.bond.shortLeft ∨ effort' = 0 := suits.left.imp id Nat.le_zero.mp
    refine ⟨fun _ _ _ _ _ _ => mirrors_unfinished (cut.imp id ?_),
      fun _ _ _ _ _ _ _ _ => mirrors_unfinished (cut.imp id ?_)⟩
    all_goals
      rintro rfl
      rfl
  | succ effort ih =>
    have inner {effort' : Nat} (suits : trial.Suits effort effort') (wider : Link) (within : link ≤ wider) :
        trial.Mirrored wider effort effort' :=
      ih wider (fun symbol member => within.symbols (known symbol member)) suits
    cases effort' with
    | zero =>
      -- What the first run does on its own is known from the runs of the parts.
      obtain ⟨short, suits⟩ := suits.of_zero
      refine ⟨fun admitted wider within frame frame' frames => mirrors_of_short short ?_,
        fun wider within ref ref' args args' refs paired => mirrors_of_short short ?_⟩
      · exact (mirrors_exec (mirrors_execNode (inner suits wider within) suits
          (fun symbol member => within.symbols (known symbol member)) admitted frames)).keeps
      · exact (mirrors_callFunction tells (inner suits) suits wider within ref ref' args args' refs
          paired).keeps
    | succ effort' =>
      refine ⟨fun admitted wider within frame frame' frames => ?_,
        mirrors_callFunction tells (inner suits.pred) suits.pred⟩
      exact mirrors_exec (mirrors_execNode (inner suits.pred wider within) suits.pred
        (fun symbol member => within.symbols (known symbol member)) admitted frames)

/-! ## Programs -/

theorem start_functions (trial : Trial) :
    trial.Functions (.start (· ∈ trial.symbols)) .initial .initial := by
  have builtins : Store.initial.EachFunction fun callable => ∃ function, callable = .builtin function :=
    Store.initial_eachFunction fun function => ⟨function, rfl⟩
  refine ⟨fun paired => paired.1, rfl, fun {ref callable} found => ?_, ?_, ?_⟩
  · obtain ⟨function, rfl⟩ := builtins ref callable found
    exact ⟨.builtin function, found, .builtin function⟩
  · exact Store.initial_eachFunction fun _ => trivial
  · rintro ref key function result ⟨cache, found, -⟩
    obtain ⟨function, none⟩ := builtins ref _ found
    cases none

theorem start_linked (trial : Trial) :
    trial.Linked (.start (· ∈ trial.symbols)) .initial .initial where
  cells := {
    toFits := Link.start_fits _
    arraysUnique := by rintro _ _ _ _ ⟨⟩
    objectsUnique := by rintro _ _ _ _ ⟨⟩ }
  frames := Link.start_frames _
  functions := trial.start_functions
  expected := by
    intro hit answered
    simp [Store.Answers, Store.initial] at answered
  symbols := Iff.rfl
  output := rfl
  requests := rfl

variable {nodes : List Node}

theorem meets_runProgram (tells : trial.TellsApart)
    (admitted : ∀ node ∈ nodes, node.IsAdmitted trial.symbols .ofFunction)
    (suits : trial.Suits effort effort') :
    (runUntil trial.halts trial.left effort nodes).Meets (trial.bond.ending (Pairing.same).pairs
      (.start (· ∈ trial.symbols)) (runProgram trial.right effort' nodes)) := by
  have mirrored := trial.mirrored tells (.start (· ∈ trial.symbols)) (fun _ => id) suits
  rw [runProgram_eq]
  exact (Evaluator.mirrors_runNodes trial.lawful (fun node member => mirrored.exec (admitted node member))
    ⟨rfl, rfl⟩ 0).meets _ le_rfl _ _ (trial.start_linked.record rfl _)

theorem Linked.shows (linked : trial.Linked link store store')
    (frames : link.frames Store.root Store.root) : link.Shows store store' where
  toMatches := linked.toMatches
  output := linked.output
  bindings := linked.toMatches.bindings frames

end Trial

/-- A program stops over an integer that is too long to be written. -/
def Outcome.StopsTooLong (host : Host) : Outcome Unit → Prop
  | .stopped (.fault cause) _ => cause = host.tooLong none
  | .stopped (.failure (.host _ message)) _ => (host.tooLong none).message = message
  | _ => False

/-- The run that remembers does nothing by which its memory can be seen. -/
structure HidesMemory (host : Host) (effort : Nat) (nodes : List Node) : Prop where
  /-- No two functions go by one number. -/
  identities : Function.Injective host.identity
  /-- No call is answered from memory that the function can tell from the one it remembers. -/
  unmisled : ¬(runProgram host.remembering effort nodes).store.IsMisled
  /-- No integer is too long to be written, neither where this is caught nor at the end. -/
  uncaught : ¬(runProgram host.remembering effort nodes).store.CaughtTooLong host
  written : ¬(runProgram host.remembering effort nodes).StopsTooLong host
  /-- At no moment is anything changed or compared by which it can be seen what is shared. -/
  undisclosed : ∀ moment : RunMoment, moment.Interrupts host.remembering effort nodes →
    ¬moment.Discloses (runProgram host.remembering effort nodes).store.Answers host.remembering

namespace HidesMemory

variable {host : Host} {effort effort' : Nat} {nodes : List Node} {symbols : List Symbol} {limit : Option Nat}

/-- The two runs of a program, where the calls are known that the first one answers. -/
def trial (host : Host) (effort : Nat) (nodes : List Node) (symbols : List Symbol) (limit : Option Nat) : Trial :=
  ⟨host, symbols, limit, (runProgram host.remembering effort nodes).store.Answers⟩

variable (hides : HidesMemory host effort nodes)

include hides

/-- The run that remembers is not interrupted where something is disclosed. -/
theorem passes {picks : RunMoment → Bool} (discloses : ∀ moment, picks moment = true →
      moment.Discloses (runProgram host.remembering effort nodes).store.Answers host.remembering) :
    runUntil picks host.remembering effort nodes = runProgram host.remembering effort nodes := by
  classical
  have traces := ((interrupted_traces_all picks host.remembering effort).runNodes nodes 0).ends
    (Store.initial.record (.started nodes.length))
  rcases traces with ⟨moment, stops⟩ | passes
  · refine absurd (discloses moment stops.picked) (hides.undisclosed moment ?_)
    refine stops.first _ (fun other same => ?_) (decide_eq_true rfl)
    rw [of_decide_eq_true same]
    exact stops.picked
  · rw [← runUntil_never]
    exact passes.same picks le_rfl

/-- The two runs end in the same way, or one of the two is cut short. -/
theorem runProgram_cases
    (tells : ∀ symbol ∈ symbols, ∀ other ∈ symbols, symbol.id = other.id → symbol = other)
    (admitted : ∀ node ∈ nodes, node.IsAdmitted symbols .ofFunction)
    (suits : (trial host effort nodes symbols limit).Suits effort effort') :
    let remembering := runProgram host.remembering effort nodes
    let forgetting := runProgram host.forgetting effort' nodes
    remembering.EndsLike forgetting ∨ limit = none ∧ forgetting.IsUnfinished ∨
      remembering.IsUnfinished ∧ (limit.isSome = true ∨ remembering.store.HasCycle ∨ forgetting.IsUnfinished) := by
  classical
  let trial := trial host effort nodes symbols limit
  have apart : trial.TellsApart := ⟨hides.identities, tells⟩
  have meets := Trial.meets_runProgram apart admitted suits
  rw [show runUntil trial.halts trial.left effort nodes = runProgram host.remembering effort nodes from
    hides.passes fun _ => Trial.halts_iff.mp] at meets
  have found : ¬trial.bond.lost (runProgram host.remembering effort nodes).store := by
    rintro ⟨misled | ⟨hit, answered, unexpected⟩ | caught, -⟩
    · exact hides.unmisled misled
    · exact unexpected answered
    · exact hides.uncaught caught
  have written := hides.written
  -- A run that comes to a standstill where something is disclosed would be interrupted there.
  have standstill {store : Store} (outcome : runProgram host.remembering effort nodes = .unfinished store)
      (stuck : trial.bond.stuck store) : store.HasCycle := by
    refine stuck.resolve_right ?_
    rintro ⟨moment, picked, rfl⟩
    refine hides.undisclosed moment ?_ (Trial.halts_iff.mp picked)
    refine (hides.passes fun other same => ?_).trans outcome
    rw [of_decide_eq_true same]
    exact Trial.halts_iff.mp picked
  intro remembering forgetting
  change remembering.Meets (trial.bond.ending (Pairing.same).pairs _ forgetting) at meets
  cases outcome : remembering with
  | done result store =>
    rw [show runProgram host.remembering effort nodes = _ from outcome] at found
    rw [outcome] at meets
    rcases meets with lost | cuts | ⟨last, within, result', store', ends, -, linked⟩
    · exact absurd lost found
    · exact .inr (.inl cuts)
    · rw [ends]
      exact .inl (.done last (linked.shows (within.frames ⟨rfl, rfl⟩)))
  | stopped reason store =>
    rw [show runProgram host.remembering effort nodes = _ from outcome] at found written
    rw [outcome] at meets
    rcases meets with (lost | excused) | cuts | ⟨last, within, reason', store', ends, reasons, linked⟩
    · exact absurd lost found
    · refine absurd ?_ written
      cases reason with
      | fault cause => exact excused.1
      | signal signal => exact excused.elim
      | failure cause =>
        cases cause with
        | host =>
          obtain ⟨_, ⟨rfl, -⟩, message⟩ := excused
          exact message
        | _ => exact excused.elim
    · exact .inr (.inl cuts)
    · rw [ends]
      exact .inl (.stopped last reasons (linked.shows (within.frames ⟨rfl, rfl⟩)))
  | unfinished store =>
    rw [show runProgram host.remembering effort nodes = _ from outcome] at found
    rw [outcome] at meets
    rcases meets with lost | short | stuck | cuts | ⟨-, -, store', ends, -⟩
    · exact absurd lost found
    · exact .inr (.inr ⟨trivial, .inl short⟩)
    · exact .inr (.inr ⟨trivial, .inr (.inl (standstill outcome stuck))⟩)
    · exact .inr (.inl cuts)
    · rw [ends]
      exact .inr (.inr ⟨trivial, .inr (.inr trivial)⟩)

end HidesMemory

/-- The nodes that change an array or compare values. -/
def Node.mayTouch : Node → Bool
  | method _ name _ => name == "push" || name == "pop"
  | setIndex .. | select .. => true
  | binary token .. => Operator.ofToken? token == some .equal || Operator.ofToken? token == some .notEqual
  | _ => false

theorem RunMoment.Discloses.mayTouch {moment : RunMoment} {hits : MemoHit → Prop} {host : Host}
    (discloses : moment.Discloses hits host) : moment.node.mayTouch = true := by
  obtain ⟨node, frame, store⟩ := moment
  obtain ⟨effort, touches⟩ := discloses
  cases touches with
  | changes change => simpa [Node.mayTouch] using change
  | compares equality => simpa [Node.mayTouch] using equality
  | writes | selects => rfl

/-- Nothing is disclosed by a run that neither changes arrays nor compares values. -/
theorem undisclosed_of_not_mayTouch {host : Host} {effort : Nat} {nodes : List Node}
    (finishes : ¬(runUntil (·.node.mayTouch) host effort nodes).IsUnfinished) (hits : MemoHit → Prop)
    (moment : RunMoment) (interrupts : moment.Interrupts host effort nodes) : ¬moment.Discloses hits host := by
  classical
  intro discloses
  have traces := ((interrupted_traces_all (·.node.mayTouch) host effort).runNodes nodes 0).ends
    (Store.initial.record (.started nodes.length))
  rcases traces with ⟨first, stops⟩ | passes
  · rw [runUntil, Evaluator.runProgram, stops.first _ le_rfl stops.picked] at finishes
    exact finishes trivial
  · have same := passes.same (fun other => decide (other = moment)) fun other same => by
      rw [of_decide_eq_true same]
      exact discloses.mayTouch
    rw [runUntil, Evaluator.runProgram, passes.same _ le_rfl, ← same] at finishes
    refine finishes ?_
    rw [show (interrupted _ effort).runNodes 0 nodes host _ = _ from interrupts]
    trivial

/-- A function that compares no two different parameters, if it remembers. -/
def Callable.comparesNone : Callable → Bool
  | memoized function _ => allEverywhere (Node.comparesOnly (· == ·)) .ofFunction function.body
  | _ => true

theorem Store.not_isMisled {store : Store} (none : store.functions.all Callable.comparesNone = true) :
    ¬store.IsMisled := by
  rintro ⟨hit, function, cache, -, found, compares⟩
  have noneHere := Array.all_eq_true'.mp none _ (Array.mem_of_getElem? found)
  have allowed : allEverywhere (Node.comparesOnly (mayCompare function.params hit.args)) .ofFunction
      function.body = true := by
    refine allEverywhere_iff.mpr fun node member => ?_
    refine Node.everywhere_mono (fun site node => ?_) (allEverywhere_iff.mp noneHere node member)
    exact Node.comparesOnly_mono fun name other same => by simp [mayCompare, eq_of_beq same]
  simp [Closure.comparesCells, allowed] at compares

def Entry.isCaught : Entry → Bool
  | reported (.caught _) => true
  | _ => false

def Entry.isHit : Entry → Bool
  | reported event => event.isMemoHit
  | printed _ => false

theorem Store.not_caughtTooLong {store : Store} (none : store.transcript.all (!·.isCaught) = true) (host : Host) :
    ¬store.CaughtTooLong host := by
  rintro ⟨name, caught⟩
  cases Array.all_eq_true'.mp none _ caught

end TreeScript
