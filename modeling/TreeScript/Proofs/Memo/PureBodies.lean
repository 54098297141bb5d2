import TreeScript.Proofs.Memo.Scalars
import TreeScript.Proofs.Runs.Interruption

/-! # Bodies without effects

A *simple* body is made of literals, references to the parameters, operators, array and object
literals, choices and `return`. It changes nothing that was there before the call: it only adds
frames, arrays and objects. Two calls of one function with a simple body, in two stores and with
arguments that look the same, end in the same way. There is one exception: two parameters that look
the same may be one array in the first call and two arrays in the second, and an equality in the body
tells this apart. So it has to be known of each equality which parameters it can be asked of.
-/

namespace TreeScript

open Exec

variable {α β : Type}

/-! ## The text of a body -/

namespace Node

/-- The nodes that simple bodies are made of. -/
def isSimple (params : List String) (_ : Site) : Node → Bool
  | literal _ | giveBack _ | binary _ _ _ | array _ | object _ | branch _ _ _ => true
  | reference name => decide (name ∈ params)
  | _ => false

mutual

/-- The names whose own value a node can have, rather than one that it makes. -/
def sources : Node → List String
  | .reference name => [name]
  | .branch _ thenBranch elseBranch => sourcesOfLast thenBranch ++ sourcesOfOptional elseBranch
  | _ => []

/-- The sources of the last statement. -/
def sourcesOfLast : List Node → List String
  | [] => []
  | node :: rest => if rest.isEmpty then node.sources else sourcesOfLast rest

def sourcesOfOptional : Option (List Node) → List String
  | none => []
  | some statements => sourcesOfLast statements

end

/-- Equality is asked of no two names other than those that are allowed. -/
def comparesOnly (allowed : String → String → Bool) (_ : Site) : Node → Bool
  | binary token left right =>
    match Operator.ofToken? token with
    | some .equal | some .notEqual => left.sources.all fun name => right.sources.all (allowed name)
    | _ => true
  | _ => true

theorem comparesOnly_mono {allowed more : String → String → Bool}
    (within : ∀ name other, allowed name other = true → more name other = true) {site : Site} {node : Node}
    (compares : comparesOnly allowed site node = true) : comparesOnly more site node = true := by
  cases node with
  | binary token left right =>
    have all (compares : (left.sources.all fun name => right.sources.all (allowed name)) = true) :
        (left.sources.all fun name => right.sources.all (more name)) = true := by
      simp only [List.all_eq_true] at compares ⊢
      exact fun name first other second => within name other (compares name first other second)
    simp only [comparesOnly] at compares ⊢
    generalize Operator.ofToken? token = operator at compares ⊢
    rcases operator with _ | operator
    · rfl
    · cases operator with
      | equal | notEqual => exact all compares
      | _ => rfl
  | _ => rfl

end Node

/-- A value that is the same in every store, and if it is a symbol then a given one. -/
def Value.isKnown (symbols : List Symbol) : Value → Bool
  | symbol known => decide (known ∈ symbols)
  | array _ | object _ | function _ => false
  | _ => true

theorem Link.pairs_of_isKnown {link : Link} {symbols : List Symbol} {value : Value}
    (given : ∀ symbol ∈ symbols, link.symbols symbol) (known : value.isKnown symbols = true) :
    link.Pairs value value := by
  cases value with
  | symbol symbol => exact .symbol (given symbol (of_decide_eq_true known))
  | array | object | function => cases known
  | _ => constructor

/-- The values that stand in a node are known. -/
def Node.usesOnly (symbols : List Symbol) (_ : Site) (node : Node) : Bool :=
  node.values.all (Value.isKnown symbols)

/-! ## New results of operators -/

namespace Exec

/-- The step leaves the store as it is. -/
def IsLook (step : Exec α) : Prop :=
  ∀ host store result after, step host store = .done result after → after = store

theorem isLook_pure (result : α) : IsLook (pure result) := fun _ _ _ _ ends => by
  cases ends
  rfl

theorem isLook_read? (view : Store → Option α) : IsLook (read? view) := by
  intro host store result after ends
  unfold read? at ends
  split at ends
  · cases ends
    rfl
  · cases ends

theorem isLook_textOf (value : Value) : IsLook (textOf value) := by
  intro host store result after ends
  unfold textOf spell at ends
  split at ends
  · split at ends
    · cases ends
      rfl
    · cases ends
  · cases ends

/-- What follows a look goes on in the same store. -/
theorem IsLook.of_bind {step : Exec α} {next : α → Exec β} (look : IsLook step) {host : Host}
    {store after : Store} {result : β} (ends : (step >>= next) host store = .done result after) :
    ∃ seen, next seen host store = .done result after := by
  change andThen step next host store = _ at ends
  unfold andThen at ends
  cases outcome : step host store with
  | done seen middle =>
    rw [outcome] at ends
    rw [look host store seen middle outcome] at ends
    exact ⟨seen, ends⟩
  | stopped | unfinished =>
    rw [outcome] at ends
    cases ends

theorem IsLook.bind {step : Exec α} {next : α → Exec β} (look : IsLook step)
    (rest : ∀ seen, IsLook (next seen)) : IsLook (step >>= next) := by
  intro host store result after ends
  obtain ⟨seen, ends⟩ := look.of_bind ends
  exact rest seen host store result after ends

theorem isLook_each {step : α → Exec β} (steps : ∀ item, IsLook (step item)) (items : List α) :
    IsLook (each step items) := by
  induction items with
  | nil => exact isLook_pure []
  | cons item rest ih => exact (steps item).bind fun _ => IsLook.bind ih fun _ => isLook_pure _

theorem IsSteady.of_done {holds : α → Prop} {step : Exec α} {host : Host}
    (steady : IsSteady host.digitLimit holds step) {store after : Store} {result : α}
    (ends : step host store = .done result after) : holds result ∧ after = store := by
  obtain ⟨ending, runs, good, -⟩ := steady
  rw [runs host store rfl] at ends
  cases ending with
  | ok known =>
    cases ends
    exact ⟨good _ rfl, rfl⟩
  | error reason => cases ends

end Exec

namespace Operator

theorem isLook_elementType (elements : Array Value) : IsLook (elementType elements) :=
  (isLook_each (fun _ => isLook_read? _) _).bind fun _ => isLook_pure _

/-- Joining two arrays gives a new one. -/
theorem eq_new_of_join {left right : ArrayRef} {host : Host} {store after : Store} {result : Value}
    (ends : join left right host store = .done result after) :
    result = .array store.arrays.size ∧
      after = (store.addArray (store.elements left ++ store.elements right)).2 := by
  change (elementType (store.elements left) >>= _) host store = _ at ends
  obtain ⟨leftType, ends⟩ := (isLook_elementType _).of_bind ends
  obtain ⟨rightType, ends⟩ := (isLook_elementType _).of_bind ends
  split at ends
  · cases ends
    exact ⟨rfl, rfl⟩
  · cases ends

/-- What an operator gives is a scalar, or a new array that joins two others. -/
theorem apply_cases {operator : Operator} {left right result : Value} {host : Host}
    {store after : Store} (ends : operator.apply left right host store = .done result after) :
    result.isScalar = true ∧ after = store ∨
      ∃ first second, operator = .concat ∧ left = .array first ∧ right = .array second ∧
        result = .array store.arrays.size ∧
        after = (store.addArray (store.elements first ++ store.elements second)).2 := by
  cases category : operator.category with
  | arithmetic =>
    simp only [apply, category] at ends
    exact .inl ((operator.isSteady_applyArithmetic left right).of_done ends)
  | comparison =>
    simp only [apply, category] at ends
    exact .inl ((operator.isSteady_applyComparison left right).of_done ends)
  | boolean =>
    simp only [apply, category] at ends
    exact .inl ((operator.isSteady_applyBoolean left right).of_done ends)
  | concat =>
    simp only [apply, category] at ends
    cases left with
    | array first =>
      cases right with
      | array second =>
        have joins : operator = .concat := by cases operator <;> first | rfl | cases category
        exact .inr ⟨first, second, joins, rfl, rfl, eq_new_of_join ends⟩
      | _ => cases ends
    | _ => cases ends
  | textConcat =>
    simp only [apply, category] at ends
    obtain ⟨leftText, ends⟩ := (isLook_textOf _).of_bind ends
    obtain ⟨rightText, ends⟩ := (isLook_textOf _).of_bind ends
    cases ends
    exact .inl ⟨rfl, rfl⟩

end Operator

/-! ## Two calls -/

/-- Everything of a store is still there in a later one, which has got nothing but further frames,
arrays and objects. -/
structure Store.IsExtendedTo (store later : Store) : Prop extends store.Extends later where
  frames : store.IsGrownTo later
  functions : later.functions = store.functions
  transcript : later.transcript = store.transcript
  requests : later.requests = store.requests

/-- Whatever is paired was paired before, or is new in both stores and then paired one to one. -/
structure GrownFrom (base paired : Nat → Nat → Prop) (size size' : Nat) : Prop where
  inside : ∀ {ref ref'}, base ref ref' → ref < size ∧ ref' < size'
  origin : ∀ {ref ref'}, paired ref ref' → base ref ref' ∨ size ≤ ref ∧ size' ≤ ref'
  unique : OneToOne fun ref ref' => paired ref ref' ∧ size' ≤ ref'

theorem GrownFrom.refl {paired : Nat → Nat → Prop} {size size' : Nat}
    (inside : ∀ {ref ref'}, paired ref ref' → ref < size ∧ ref' < size') : GrownFrom paired paired size size' where
  inside := inside
  origin := .inl
  unique _ _ _ _ first := absurd (inside first.1).2 (Nat.not_lt_of_le first.2)

section Growing

variable {base paired : Nat → Nat → Prop} {size size' : Nat} (grown : GrownFrom base paired size size')

include grown

/-- The numbers that come next are new. -/
theorem GrownFrom.add {next next' : Nat} (inside : ∀ {ref ref'}, paired ref ref' → ref < next ∧ ref' < next')
    (more : size ≤ next) (more' : size' ≤ next') :
    GrownFrom base (fun ref ref' => paired ref ref' ∨ ref = next ∧ ref' = next') size size' where
  inside := grown.inside
  origin := by
    rintro ref ref' (known | ⟨rfl, rfl⟩)
    · exact grown.origin known
    · exact .inr ⟨more, more'⟩
  unique := by
    refine (grown.unique.add fun known => inside known.1).mono ?_
    rintro ref ref' ⟨known | new, since⟩
    · exact .inl ⟨known, since⟩
    · exact .inr new

/-- What is new is told apart from everything else in both stores. -/
theorem GrownFrom.same_iff {ref ref' other other' : Nat} (first : paired ref ref') (second : paired other other')
    (since : size ≤ ref ∨ size ≤ other) : ref = other ↔ ref' = other' := by
  rcases grown.origin first with old | new <;> rcases grown.origin second with otherOld | otherNew
  · have := grown.inside old
    have := grown.inside otherOld
    omega
  · have := grown.inside old
    omega
  · have := grown.inside otherOld
    omega
  · exact grown.unique ⟨first, new.2⟩ ⟨second, otherNew.2⟩

end Growing

/-- The value is no array or object of the store. -/
def Value.IsSince (start : Store) : Value → Prop
  | array ref => start.arrays.size ≤ ref
  | object ref => start.objects.size ≤ ref
  | _ => True

theorem Value.isSince_of_isScalar {start : Store} {value : Value} (scalar : value.isScalar = true) :
    value.IsSince start := by
  cases value with
  | array | object => cases scalar
  | _ => trivial

/-- A link of two later stores that has grown by new arrays and objects alone; all that is old in the second
store is still there. -/
structure Link.Grows (base : Link) (past start : Store) (link : Link) (store store' : Store) : Prop extends
    link.Fits store store' where
  arraysGrown : GrownFrom base.arrays link.arrays past.arrays.size start.arrays.size
  objectsGrown : GrownFrom base.objects link.objects past.objects.size start.objects.size
  known : ∀ {ref ref'}, link.functions ref ref' → base.functions ref ref'
  symbols : ∀ {symbol}, link.symbols symbol → base.symbols symbol
  past : past.Extends store
  start : start.IsExtendedTo store'

/-- Two calls of one function side by side, on hosts that limit the digits of integers alike. -/
structure Calls where
  params : List String
  /-- What the parameters are bound to in the first call. -/
  left : String → Value
  /-- What the parameters are bound to in the second call. -/
  right : String → Value
  host : Host
  host' : Host
  sameLimit : host.digitLimit = host'.digitLimit
  /-- What is paired before the calls. -/
  base : Link
  /-- The first store before the call. -/
  past : Store
  /-- The second store before the call. -/
  start : Store
  /-- The second call may be cut short. -/
  short : Prop

namespace Calls

variable {calls : Calls} {link wider : Link} {store store' later later' : Store}
  {frame frame' : FrameRef}

/-- In two frames the parameters have the values that they are bound to. -/
structure Sees (calls : Calls) (store store' : Store) (frame frame' : FrameRef) : Prop where
  holds : store.Holds frame
  holds' : store'.Holds frame'
  left : ∀ name ∈ calls.params, store.lookup? frame name = some (calls.left name)
  right : ∀ name ∈ calls.params, store'.lookup? frame' name = some (calls.right name)

theorem Sees.grow (sees : calls.Sees store store' frame frame') (grown : store.IsGrownTo later)
    (grown' : store'.IsGrownTo later') : calls.Sees later later' frame frame' where
  holds := grown.holds sees.holds
  holds' := grown'.holds sees.holds'
  left name member := (grown.lookup? sees.holds name).trans (sees.left name member)
  right name member := (grown'.lookup? sees.holds' name).trans (sees.right name member)

/-- New frames inside the two see the same. -/
theorem Sees.addFrame (sees : calls.Sees store store' frame frame') (label : String) :
    calls.Sees (store.addFrame frame label).2 (store'.addFrame frame' label).2 store.frames.size
      store'.frames.size where
  holds := Store.holds_push rfl sees.holds
  holds' := Store.holds_push rfl sees.holds'
  left name member := by
    have pushed : (store.addFrame frame label).2.frames =
        store.frames.push ⟨label, store.visible frame, []⟩ := rfl
    rw [Store.lookup?_push pushed sees.holds]
    exact sees.left name member
  right name member := by
    have pushed : (store'.addFrame frame' label).2.frames =
        store'.frames.push ⟨label, store'.visible frame', []⟩ := rfl
    rw [Store.lookup?_push pushed sees.holds']
    exact sees.right name member

/-- The link has grown since the calls began, and paired frames see the arguments. -/
structure Linked (calls : Calls) (link : Link) (store store' : Store) : Prop extends
    calls.base.Grows calls.past calls.start link store store' where
  sees : ∀ {frame frame'}, link.frames frame frame' → calls.Sees store store' frame frame'

/-- The two calls never get lost. Nothing is claimed of a first call that does not end. -/
def bond (calls : Calls) : Bond where
  left := calls.host
  right := calls.host'
  linked := calls.Linked
  lost _ := False
  stuck _ := True
  shortLeft := True
  shortRight := calls.short

theorem follows_losing (step : Exec α) : step.Follows calls.bond.losing :=
  ⟨fun _ _ lost => lost.elim⟩

theorem Linked.addFrame (linked : calls.Linked link store store') (frames : link.frames frame frame')
    (label : String) :
    calls.Linked (link.addFrame store.frames.size store'.frames.size) (store.addFrame frame label).2
      (store'.addFrame frame' label).2 :=
  { linked with
    toFits := linked.toFits.addFrame
    sees := by
      rintro inner inner' (known | ⟨rfl, rfl⟩)
      · exact (linked.sees known).grow (.of_push rfl) (.of_push rfl)
      · exact (linked.sees frames).addFrame label
    past := linked.past.trans (.of_eq rfl rfl)
    start := { linked.start with
      toExtends := linked.start.toExtends.trans (.of_eq rfl rfl)
      frames := linked.start.frames.trans (.of_push rfl) } }

theorem growing (calls : Calls) : calls.bond.Growing where
  toReading := .of_fits (fun linked => linked.toFits) (fun _ => trivial) calls.sameLimit
  addArray {link store store' elements others} linked paired := by
    refine ⟨_, link.le_addArray store.arrays.size store'.arrays.size, .inr ⟨rfl, rfl⟩, ?_⟩
    exact { linked with
      toFits := linked.toFits.addArray paired
      arraysGrown := linked.arraysGrown.add linked.arrays linked.past.arrays_le linked.start.arrays_le
      sees := fun frames => (linked.sees frames).grow (.of_frames_eq rfl) (.of_frames_eq rfl)
      past := linked.past.trans (.addArray _ _)
      start := { linked.start with toExtends := linked.start.toExtends.trans (.addArray _ _) } }
  addObject {link store store' entries others} linked distinct otherDistinct paired := by
    refine ⟨_, link.le_addObject store.objects.size store'.objects.size, .inr ⟨rfl, rfl⟩, ?_⟩
    exact { linked with
      toFits := linked.toFits.addObject distinct otherDistinct (Table.Paired.get? paired)
      objectsGrown := linked.objectsGrown.add linked.objects linked.past.objects_le linked.start.objects_le
      sees := fun frames => (linked.sees frames).grow (.of_frames_eq rfl) (.of_frames_eq rfl)
      past := linked.past.trans (.addObject _ _)
      start := { linked.start with toExtends := linked.start.toExtends.trans (.addObject _ _) } }
  sturdy := .of_frames_functions fun _ _ => id

/-- The values are paired, and they are arguments of the given names unless they were made in the calls. -/
structure Stems (calls : Calls) (names : List String) (link : Link) (value other : Value) : Prop where
  paired : link.Pairs value other
  origin : (∃ name ∈ names, value = calls.left name ∧ other = calls.right name) ∨ value.IsSince calls.past

variable {names : List String} {value other : Value}

theorem Stems.mono (stems : calls.Stems names link value other) (within : link ≤ wider) :
    calls.Stems names wider value other := ⟨stems.paired.mono within, stems.origin⟩

theorem Stems.weaken (stems : calls.Stems names link value other) {more : List String} (subset : names ⊆ more) :
    calls.Stems more link value other :=
  ⟨stems.paired, stems.origin.imp (fun ⟨name, member, same⟩ => ⟨name, subset member, same⟩) id⟩

theorem stems_of_isScalar (paired : link.Pairs value other) (scalar : value.isScalar = true) :
    calls.Stems names link value other := ⟨paired, .inr (Value.isSince_of_isScalar scalar)⟩

/-! ## Constructs of simple bodies -/

/-- A node is mirrored in all paired frames, now and later, and its value stems from its sources. -/
def Traces (calls : Calls) (link : Link) (ev ev' : Evaluator) (node : Node) : Prop :=
  ∀ wider, link ≤ wider → ∀ frame frame', wider.frames frame frame' →
    (ev.exec node frame).Mirrors calls.bond wider (calls.Stems node.sources) (ev'.exec node frame')

variable {ev ev' : Evaluator} {node : Node} {nodes : List Node}

theorem Traces.mono (traces : calls.Traces link ev ev' node) (within : link ≤ wider) :
    calls.Traces wider ev ev' node := fun last further => traces last (within.trans further)

theorem Traces.here (traces : calls.Traces link ev ev' node) (frames : link.frames frame frame') :
    (ev.exec node frame).Mirrors calls.bond link (calls.Stems node.sources) (ev'.exec node frame') :=
  traces link le_rfl frame frame' frames

theorem Traces.mirrorsNode (traces : calls.Traces link ev ev' node) :
    Evaluator.MirrorsNode calls.bond link ev ev' node := fun wider within frame frame' frames =>
  (traces wider within frame frame' frames).imp fun _ _ _ _ stems => stems.paired

theorem mirrors_runFrom (exec : ∀ node ∈ nodes, calls.Traces link ev ev' node) (frames : link.frames frame frame')
    (stems : calls.Stems names link value other) :
    (ev.runFrom frame value nodes).Mirrors calls.bond link
      (calls.Stems (if nodes.isEmpty then names else Node.sourcesOfLast nodes)) (ev'.runFrom frame' other nodes) := by
  induction nodes generalizing link value other names with
  | nil => exact mirrors_done fun _ within => stems.mono within
  | cons node rest ih =>
    obtain ⟨first, others⟩ := List.forall_mem_cons.mp exec
    refine (first.here frames).bind_of_keeps (fun _ => follows_losing _) fun wider within value value' stems => ?_
    have later := ih (fun part member => (others part member).mono within) (within.frames frames) stems
    simpa only [List.isEmpty_cons, Bool.false_eq_true, if_false, Node.sourcesOfLast] using later

theorem mirrors_run (exec : ∀ node ∈ nodes, calls.Traces link ev ev' node) (frames : link.frames frame frame') :
    (ev.run frame nodes).Mirrors calls.bond link (calls.Stems (Node.sourcesOfLast nodes)) (ev'.run frame' nodes) := by
  have start : calls.Stems [] link .undefined .undefined := stems_of_isScalar .undefined rfl
  have run := mirrors_runFrom exec frames start
  cases nodes with
  | nil | cons => exact run

theorem mirrors_runInside (exec : ∀ node ∈ nodes, calls.Traces link ev ev' node)
    (frames : link.frames frame frame') (label : String) :
    (ev.runInside frame label nodes).Mirrors calls.bond link
      (calls.Stems (Node.sourcesOfLast nodes)) (ev'.runInside frame' label nodes) := by
  have child : (child frame label).Mirrors calls.bond link Pairing.frame.pairs (child frame' label) :=
    mirrors_create (fun _ lost => lost) fun _ within _ _ linked =>
      ⟨_, Link.le_addFrame _ _, .inr ⟨rfl, rfl⟩, Linked.addFrame linked (within.frames frames) label⟩
  exact child.bind fun _ within _ _ scopes => mirrors_run (fun node member => (exec node member).mono within) scopes

theorem mirrors_reference (frames : link.frames frame frame') {name : String}
    (member : name ∈ calls.params) (args : ∀ name, link.Pairs (calls.left name) (calls.right name)) :
    (lookup frame name).Mirrors calls.bond link (calls.Stems [name]) (lookup frame' name) := by
  refine ⟨follows_lookup trivial, fun wider within store store' linked => ?_⟩
  have sees := linked.sees (within.frames frames)
  unfold lookup
  rw [sees.left name member, sees.right name member]
  refine Bond.meets_done linked ⟨(args name).mono within, .inl ?_⟩
  exact ⟨name, List.mem_singleton_self name, rfl, rfl⟩

theorem mirrors_newArray {elements others : Array Value} (paired : Pairing.array.pairs link elements others) :
    (newArray elements).Mirrors calls.bond link (calls.Stems names) (newArray others) := by
  refine (Exec.mirrors_newArray calls.growing paired).strengthen ?_
  rintro wider within store store' linked _ _ _ _ ⟨⟩ ⟨⟩ last - paired
  exact ⟨paired, .inr linked.past.arrays_le⟩

theorem mirrors_newObject {entries others : Table Value} (distinct : entries.keys.Nodup)
    (otherDistinct : others.keys.Nodup) (paired : Pairing.entries.pairs link entries others) :
    (newObject entries).Mirrors calls.bond link (calls.Stems names) (newObject others) := by
  refine (Exec.mirrors_newObject calls.growing distinct otherDistinct paired).strengthen ?_
  rintro wider within store store' linked _ _ _ _ ⟨⟩ ⟨⟩ last - paired
  exact ⟨paired, .inr linked.past.objects_le⟩

theorem mirrors_apply (operator : Operator) {left left' right right' : Value}
    (leftPaired : link.Pairs left left') (rightPaired : link.Pairs right right')
    (equal : ∀ wider, link ≤ wider → ∀ store store', calls.Linked wider store store' →
      operator = .equal ∨ operator = .notEqual →
        left.strictEquals right = left'.strictEquals right') :
    (operator.apply left right).Mirrors calls.bond link (calls.Stems names) (operator.apply left' right') := by
  have values : (operator.apply left right).Mirrors calls.bond link Pairing.value.pairs
      (operator.apply left' right') :=
    mirrors_of_linked (follows_losing _) fun wider within store store' linked =>
      operator.mirrors_apply calls.growing (leftPaired.mono within) (rightPaired.mono within)
        (equal wider within store store' linked)
  refine values.strengthen fun wider within store store' linked result result' _ _ ends _ last _ paired => ?_
  rcases Operator.apply_cases ends with ⟨scalar, -⟩ | ⟨-, -, -, -, -, rfl, -⟩
  · exact stems_of_isScalar paired scalar
  · exact ⟨paired, .inr linked.past.arrays_le⟩

/-- Which equalities come out the same in the two calls, and which functions are paired. -/
structure Allows (calls : Calls) (allowed : String → String → Bool) : Prop where
  equal : ∀ name other, allowed name other = true →
    (calls.left name).strictEquals (calls.left other) =
      (calls.right name).strictEquals (calls.right other)
  unique : OneToOne calls.base.functions

variable {allowed : String → String → Bool}

/-- An equality comes out the same: new cells equal nothing that was there before, and arguments are
compared only where that is allowed. -/
theorem Allows.strictEquals_eq (allows : calls.Allows allowed) (linked : calls.Linked link store store')
    {left right : Node} {leftValue leftValue' rightValue rightValue' : Value}
    (compared : (left.sources.all fun name => right.sources.all (allowed name)) = true)
    (leftStems : calls.Stems left.sources link leftValue leftValue')
    (rightStems : calls.Stems right.sources link rightValue rightValue') :
    leftValue.strictEquals rightValue = leftValue'.strictEquals rightValue' := by
  have ofSince (since : leftValue.IsSince calls.past ∨ rightValue.IsSince calls.past) :
      leftValue.strictEquals rightValue = leftValue'.strictEquals rightValue' := by
    refine leftStems.paired.strictEquals_eq rightStems.paired ?_ ?_ fun first second =>
      allows.unique (linked.known first) (linked.known second)
    · rintro _ _ _ _ rfl rfl first second
      exact linked.arraysGrown.same_iff first second since
    · rintro _ _ _ _ rfl rfl first second
      exact linked.objectsGrown.same_iff first second since
  rcases leftStems.origin with ⟨name, member, leftSame, leftSame'⟩ | since
  · rcases rightStems.origin with ⟨other, otherMember, rightSame, rightSame'⟩ | since
    · simp only [List.all_eq_true] at compared
      rw [leftSame, leftSame', rightSame, rightSame']
      exact allows.equal name other (compared name member other otherMember)
    · exact ofSince (.inr since)
  · exact ofSince (.inl since)

theorem mirrors_operate (allows : calls.Allows allowed) {token : String} {left right : Node}
    (leftExec : calls.Traces link ev ev' left) (rightExec : calls.Traces link ev ev' right)
    (frames : link.frames frame frame')
    (compared : (Node.binary token left right).comparesOnly allowed .ofFunction = true) :
    (ev.operate frame token left right).Mirrors calls.bond link (calls.Stems [])
      (ev'.operate frame' token left right) := by
  refine (leftExec.here frames).bind_of_keeps (fun _ => follows_losing _) ?_
  intro middle to₁ leftValue leftValue' leftStems
  refine ((rightExec.mono to₁).here (to₁.frames frames)).bind_of_keeps (fun _ => follows_losing _) ?_
  intro wider to₂ rightValue rightValue' rightStems
  cases known : Operator.ofToken? token with
  | none => exact mirrors_fail (.refl _)
  | some operator =>
    simp only [Node.comparesOnly, known] at compared
    refine mirrors_apply operator (leftStems.paired.mono to₂) rightStems.paired ?_
    intro last to₃ store store' linked asked
    have compared : (left.sources.all fun name => right.sources.all (allowed name)) = true := by
      rcases asked with rfl | rfl
      · exact compared
      · exact compared
    exact allows.strictEquals_eq linked compared (leftStems.mono (to₂.trans to₃)) (rightStems.mono to₃)

theorem mirrors_branch {condition : Node} {thenBranch : List Node} {elseBranch : Option (List Node)}
    (test : calls.Traces link ev ev' condition)
    (exec : ∀ part ∈ thenBranch ++ elseBranch.getD [], calls.Traces link ev ev' part)
    (frames : link.frames frame frame') :
    (ev.branch frame condition thenBranch elseBranch).Mirrors calls.bond link
      (calls.Stems (Node.branch condition thenBranch elseBranch).sources)
      (ev'.branch frame' condition thenBranch elseBranch) := by
  obtain ⟨thenExec, elseExec⟩ := List.forall_mem_append.mp exec
  refine (Evaluator.mirrors_condition test.mirrorsNode frames).bind_same fun wider within holds => ?_
  have inside {statements : List Node} (exec : ∀ part ∈ statements, calls.Traces link ev ev' part)
      (subset : Node.sourcesOfLast statements ⊆ (Node.branch condition thenBranch elseBranch).sources) :=
    ((mirrors_runInside exec frames "if").mono within).imp fun _ _ _ _ stems => stems.weaken subset
  cases holds with
  | true =>
    refine inside thenExec ?_
    rw [Node.sources]
    exact List.subset_append_left _ _
  | false =>
    cases elseBranch with
    | some statements =>
      refine inside elseExec ?_
      rw [Node.sources, Node.sourcesOfOptional]
      exact List.subset_append_right _ _
    | none => exact mirrors_done fun _ _ => stems_of_isScalar .undefined rfl

end Calls

/-! ## Whole bodies -/

/-- A node of a simple body, which compares only what is allowed and holds known symbols only. -/
structure Node.IsSimpleIn (params : List String) (allowed : String → String → Bool)
    (symbols : List Symbol) (site : Site) (node : Node) : Prop where
  simple : node.everywhere (Node.isSimple params) site = true
  compares : node.everywhere (Node.comparesOnly allowed) site = true
  uses : node.everywhere (Node.usesOnly symbols) site = true

theorem Node.IsSimpleIn.part {params : List String} {allowed : String → String → Bool}
    {symbols : List Symbol} {site : Site} {node : Node}
    (simple : node.IsSimpleIn params allowed symbols site) {part : Site × Node}
    (member : part ∈ node.parts site) : part.2.IsSimpleIn params allowed symbols part.1 where
  simple := (Node.everywhere_iff.mp simple.simple).2 part member
  compares := (Node.everywhere_iff.mp simple.compares).2 part member
  uses := (Node.everywhere_iff.mp simple.uses).2 part member

/-- Simple nodes make no functions. -/
theorem closureOf?_of_isSimple {params : List String} {site : Site} {node : Node}
    (simple : node.isSimple params site = true) (frame : FrameRef) : closureOf? frame node = none := by
  cases node with
  | function | arrow => cases simple
  | _ => rfl

namespace Calls

variable {calls : Calls} {link : Link} {allowed : String → String → Bool} {symbols : List Symbol}

theorem traces_execNode (allows : calls.Allows allowed)
    (args : ∀ name, link.Pairs (calls.left name) (calls.right name))
    (known : ∀ symbol ∈ symbols, link.symbols symbol) {ev ev' : Evaluator} {site : Site} {node : Node}
    (simple : node.IsSimpleIn calls.params allowed symbols site)
    (exec : ∀ part ∈ node.parts site, calls.Traces link ev ev' part.2)
    {frame frame' : FrameRef} (frames : link.frames frame frame') (effort larger : Nat) :
    (ev.execNode effort node frame).Mirrors calls.bond link
      (calls.Stems node.sources) (ev'.execNode larger node frame') := by
  have here := (Node.everywhere_iff.mp simple.simple).1
  have noFunction {part : Site × Node} (member : part ∈ node.parts site) :
      calls.bond.PairsMade link part.2 := by
    intro _ _ frame _ _ make _ closure _
    have none := closureOf?_of_isSimple (Node.everywhere_iff.mp (simple.part member).simple).1 frame
    cases none.symm.trans closure
  cases node with
  | literal value =>
    have uses := (Node.everywhere_iff.mp simple.uses).1
    have paired := Link.pairs_of_isKnown known (List.all_eq_true.mp uses _ (List.mem_singleton_self _))
    refine mirrors_done fun wider within => ⟨paired.mono within, .inr ?_⟩
    cases value <;> trivial
  | reference name => exact mirrors_reference frames (of_decide_eq_true here) args
  | giveBack expression =>
    cases expression with
    | none => exact mirrors_stop (.returned .undefined)
    | some expression =>
      have value := (exec (site, expression) (by simp [Node.parts])).here frames
      refine value.bind_of_keeps (fun _ => follows_losing _) fun _ _ _ _ stems => ?_
      exact mirrors_stop (.returned stems.paired)
  | binary token left right =>
    simp only [Node.parts, List.forall_mem_cons] at exec
    have compared := (Node.everywhere_iff.mp simple.compares).1
    exact mirrors_operate allows exec.1 exec.2.1 frames compared
  | array elements =>
    simp only [Node.parts, List.forall_mem_map] at exec
    have values := mirrors_each_same fun element member => (exec element member).mirrorsNode.here frames
    exact values.bind fun _ _ _ _ paired => mirrors_newArray paired
  | object properties =>
    simp only [Node.parts, List.forall_mem_map] at exec noFunction
    refine (Evaluator.mirrors_properties (fun entry member => (exec entry member).mirrorsNode)
      noFunction frames).bind fun _ _ entries others paired => ?_
    exact mirrors_newObject (Table.nodup_keys_ofList entries) (Table.nodup_keys_ofList others)
      (Table.Paired.ofList paired)
  | branch condition thenBranch elseBranch =>
    simp only [Node.parts, List.forall_mem_cons, List.forall_mem_map] at exec
    exact mirrors_branch exec.1 exec.2 frames
  | _ => cases here

/-- The nodes of simple bodies are mirrored. -/
theorem traces (allows : calls.Allows allowed)
    (args : ∀ name, link.Pairs (calls.left name) (calls.right name))
    (known : ∀ symbol ∈ symbols, link.symbols symbol) {effort effort' : Nat}
    (affords : calls.bond.Affords effort effort') {site : Site} {node : Node}
    (simple : node.IsSimpleIn calls.params allowed symbols site) :
    calls.Traces link (evaluator effort) (evaluator effort') node := by
  induction effort generalizing effort' site node with
  | zero => exact fun _ _ _ _ _ => mirrors_unfinished (.inl trivial)
  | succ effort ih =>
    intro wider within frame frame' frames
    cases effort' with
    | zero => exact mirrors_of_short affords.short (follows_losing _)
    | succ effort' =>
      refine traces_execNode allows (fun name => (args name).mono within)
        (fun symbol member => within.symbols (known symbol member)) simple (fun part member => ?_) frames
        effort effort'
      exact (ih affords.pred (simple.part member)).mono within

end Calls

/-! ## Calls of simple functions -/

/-- The functions of a store are still the same in a later one, and nothing of the rest is lost. -/
structure Store.Leaves (store later : Store) : Prop where
  functions : later.functions = store.functions
  depth : store.depth ≤ later.depth
  transcript : ∀ entry ∈ store.transcript, entry ∈ later.transcript

/-- Nothing happens to the functions. -/
def Conduct.leaving (start : Store) : Conduct where
  holds := start.Leaves
  writable _ := True
  makes _ := False
  allows _ := True

section Leaving

variable {start store later : Store}

theorem Store.Leaves.of_eq (functions : later.functions = store.functions)
    (depth : store.depth ≤ later.depth) (transcript : later.transcript = store.transcript) :
    store.Leaves later :=
  ⟨functions, depth, fun _ member => transcript ▸ member⟩

theorem Store.Leaves.push (left : start.Leaves store) (functions : later.functions = store.functions)
    (depth : store.depth ≤ later.depth) {entry : Entry}
    (transcript : later.transcript = store.transcript.push entry) : start.Leaves later where
  functions := functions.trans left.functions
  depth := left.depth.trans depth
  transcript known member := by
    rw [transcript]
    exact Array.mem_push_of_mem _ (left.transcript known member)

theorem Conduct.leaving_sturdy : (leaving start).Sturdy where
  addArray {store elements} left :=
    ⟨left.functions, left.depth.trans (Store.Extends.addArray store elements).depth_le, left.transcript⟩
  addObject {store entries} left _ :=
    ⟨left.functions, left.depth.trans (Store.Extends.addObject store entries).depth_le, left.transcript⟩
  updateArray left :=
    ⟨left.functions, by simpa [Store.depth, Store.updateArray] using left.depth, left.transcript⟩
  fetchStarted left := left.push rfl (Nat.le_refl _) rfl
  fetchFailed left := left.push rfl (Nat.le_refl _) rfl
  write left := left.push rfl (Nat.le_refl _) rfl
  request left := ⟨left.functions, left.depth, left.transcript⟩

theorem Conduct.leaving_permissive : (leaving start).Permissive where
  failure _ := trivial
  fault := trivial

theorem follows_run_leaving {ev : Evaluator} {frame : FrameRef} {statements : List Node}
    (exec : ∀ node ∈ statements, (ev.exec node frame).Follows (.leaving start)) :
    (ev.run frame statements).Follows (.leaving start) :=
  (Conduct.leaving_permissive.tolerant.habit.run exec :
    (Conduct.leaving start).habit.Keeps fun _ => ev.run frame statements)

theorem follows_leaving {params : List String} (halts : RunMoment → Bool) (effort : Nat) {site : Site} {node : Node}
    (simple : node.everywhere (Node.isSimple params) site = true) (frame : FrameRef) :
    ((interrupted halts effort).exec node frame).Follows (.leaving start) := by
  induction effort generalizing site node frame with
  | zero => exact follows_unfinished
  | succ effort ih =>
    obtain ⟨here, parts⟩ := Node.everywhere_iff.mp simple
    have exec (part : Site × Node) (member : part ∈ node.parts site) (frame : FrameRef) :
        ((interrupted halts effort).exec part.2 frame).Follows (.leaving start) :=
      ih (parts part member) frame
    have child : (Exec.child frame "if").Follows (.leaving start) :=
      follows_create fun _ left => ⟨left.functions, left.depth, left.transcript⟩
    have inside {statements : List Node} (exec : ∀ part ∈ statements, ∀ frame,
        ((interrupted halts effort).exec part frame).Follows (.leaving start)) :
        ((interrupted halts effort).runInside frame "if" statements).Follows (.leaving start) :=
      child.bind fun scope => follows_run_leaving fun part member => exec part member scope
    suffices ((interrupted halts effort).execNode effort node frame).Follows (.leaving start) by
      refine ⟨fun host store left => ?_⟩
      rw [interrupted_exec_eq]
      split
      · exact left
      · exact this.meets host store left
    cases node with
    | literal value => exact follows_pure _
    | reference name => exact follows_lookup trivial
    | giveBack expression =>
      cases expression with
      | none => exact follows_jump trivial
      | some expression =>
        exact (exec (site, expression) (by simp [Node.parts]) frame).bind fun _ => follows_jump trivial
    | binary token left right =>
      simp only [Node.parts, List.forall_mem_cons] at exec
      refine (exec.1 frame).bind fun _ => (exec.2.1 frame).bind fun _ => ?_
      split
      · exact Operator.follows_apply Conduct.leaving_sturdy Conduct.leaving_permissive.tolerant.operating _ _ _
      · exact follows_fail trivial
    | array elements =>
      simp only [Node.parts, List.forall_mem_map] at exec
      refine (follows_each fun part member => exec part member frame).bind fun _ => ?_
      exact follows_newArray Conduct.leaving_sturdy _
    | object properties =>
      simp only [Node.parts, List.forall_mem_map] at exec parts
      refine (follows_each fun entry member => ?_).bind fun entries =>
        follows_newObject Conduct.leaving_sturdy (Table.nodup_keys_ofList entries)
      have none := closureOf?_of_isSimple (Node.everywhere_iff.mp (parts entry member)).1 frame
      have given : (Conduct.leaving start).habit.Keeps fun _ => (interrupted halts effort).argument frame entry.2 :=
        Habit.argument (fun make closure => by cases none.symm.trans closure) (exec entry member frame)
      exact Follows.bind given fun _ => follows_pure _
    | branch condition thenBranch elseBranch =>
      simp only [Node.parts, List.forall_mem_cons, List.forall_mem_map, List.forall_mem_append] at exec
      obtain ⟨test, thenExec, elseExec⟩ := exec
      have holds : (Conduct.leaving start).habit.Keeps fun _ => (interrupted halts effort).condition condition frame :=
        Conduct.leaving_permissive.tolerant.habit.condition (test frame)
      refine Follows.bind holds fun holds => ?_
      split
      · exact inside thenExec
      · exact inside elseExec
      · exact follows_pure _
    | _ => cases here

end Leaving

theorem store_absorbReturn (name : String) (body : Exec Value) (host : Host) (store : Store) :
    (absorbReturn name body host store).store = (body host store).store := by
  unfold absorbReturn
  cases body host store with
  | stopped reason after =>
    cases reason with
    | signal signal => cases signal <;> rfl
    | _ => rfl
  | _ => rfl

/-- The body of the function is simple. -/
def Closure.IsSimple (function : Closure) : Prop :=
  allEverywhere (Node.isSimple function.params) .ofFunction function.body = true

variable {function : Closure} {args args' : List Value}

/-- A call of a simple function neither makes functions nor lets them remember anything. -/
theorem leaves_callClosure (simple : function.IsSimple) (halts : RunMoment → Bool) (effort : Nat) (args : List Value)
    (host : Host) (store : Store) :
    store.Leaves ((interrupted halts effort).callClosure function args host store).store := by
  by_cases enough : args.length = function.params.length
  · have entered : (Conduct.leaving store).holds (store.enterClosure function args) := by
      rw [Store.enterClosure_eq]
      exact .of_eq rfl (Nat.le_refl _) rfl
    have run : ((interrupted halts effort).run store.frames.size function.body).Follows (.leaving store) :=
      follows_run_leaving fun node member =>
        follows_leaving halts effort (allEverywhere_iff.mp simple node member) _
    rw [Evaluator.callClosure_eq _ _ _ enough, store_absorbReturn]
    exact run.holds_store host entered
  · rw [Evaluator.callClosure, if_neg enough]
    exact .of_eq rfl (Nat.le_refl _) rfl

/-- What a parameter is bound to in a call. -/
def argumentOf (params : List String) (args : List Value) (name : String) : Value :=
  ((Table.ofList (params.zip args)).get? name).getD .undefined

theorem pairs_argumentOf {link : Link} (params : List String)
    (paired : Pairing.value.list.pairs link args args') (name : String) :
    link.Pairs (argumentOf params args name) (argumentOf params args' name) := by
  have bound := (Table.Paired.zip params paired).ofList.get? name
  unfold argumentOf
  generalize (Table.ofList (params.zip args)).get? name = found at bound ⊢
  generalize (Table.ofList (params.zip args')).get? name = found' at bound ⊢
  cases bound with
  | none => exact .undefined
  | some paired => exact paired

namespace Store

/-- The frame of a call sees the arguments. -/
theorem lookup?_enterClosure (store : Store) (holds : store.Holds function.scope)
    (enough : args.length = function.params.length) {name : String} (member : name ∈ function.params) :
    (store.enterClosure function args).lookup? store.frames.size name =
      some (argumentOf function.params args name) := by
  obtain ⟨value, -, found⟩ := Table.get?_ofList_zip enough member
  rw [enterClosure_eq, lookup?_push rfl holds, argumentOf, found]
  rfl

theorem holds_enterClosure (store : Store) (holds : store.Holds function.scope) (args : List Value) :
    (store.enterClosure function args).Holds store.frames.size := by
  rw [enterClosure_eq]
  exact holds_push rfl holds

theorem isExtendedTo_enterClosure (store : Store) (function : Closure) (args : List Value) :
    store.IsExtendedTo (store.enterClosure function args) := by
  rw [enterClosure_eq]
  exact {
    toExtends := .of_eq rfl rfl
    frames := .of_push rfl
    functions := rfl
    transcript := rfl
    requests := rfl }

end Store

/-- Arrays and objects are known by their identity, and what is in them can be seen. -/
def Value.isCell : Value → Bool
  | array _ | object _ => true
  | _ => false

/-- A function is called in two stores. -/
structure CalledTwice (link : Link) (function : Closure) (scope' : FrameRef) (args args' : List Value)
    (store store' : Store) : Prop where
  fits : link.Fits store store'
  noFrames : ∀ frame frame', ¬ link.frames frame frame'
  unique : OneToOne link.functions
  holds : store.Holds function.scope
  holds' : store'.Holds scope'
  args : Pairing.value.list.pairs link args args'

/-- If a call of a simple function in one store ends with a result, then so does the call in another
one, with arguments that look the same, unless it is cut short. The results are linked, by what was linked
before and by what is new in both stores. -/
theorem CalledTwice.callClosure {link : Link} {scope' : FrameRef} {store store' after : Store}
    (called : CalledTwice link function scope' args args' store store')
    {allowed : String → String → Bool} {symbols : List Symbol}
    (simple : ∀ node ∈ function.body, node.IsSimpleIn function.params allowed symbols .ofFunction)
    (known : ∀ symbol ∈ symbols, link.symbols symbol)
    (equal : ∀ name other, allowed name other = true →
      (argumentOf function.params args name).strictEquals (argumentOf function.params args other) =
        (argumentOf function.params args' name).strictEquals (argumentOf function.params args' other))
    {short : Prop} {effort effort' : Nat} (enough : short ∨ effort ≤ effort') {host host' : Host}
    (sameLimit : host.digitLimit = host'.digitLimit) {result : Value} (ends : (evaluator effort).callClosure function args host store = .done result after) :
    (short ∧ ((evaluator effort').callClosure { function with scope := scope' } args' host'
        store').IsUnfinished) ∨
      ∃ result' after' last, (evaluator effort').callClosure { function with scope := scope' } args' host'
          store' = .done result' after' ∧ last.Pairs result result' ∧ link.Grows store store' last after after' := by
  have counted : args.length = function.params.length := by
    refine Decidable.byContradiction fun differ => ?_
    rw [Evaluator.callClosure, if_neg differ] at ends
    cases ends
  let function' : Closure := { function with scope := scope' }
  have counted' : args'.length = function'.params.length := called.args.length_eq ▸ counted
  have within := link.le_addFrame store.frames.size store'.frames.size
  let calls : Calls := ⟨function.params, argumentOf function.params args, argumentOf function.params args',
    host, host', sameLimit, link, store, store', short⟩
  have start := store.isExtendedTo_enterClosure function args
  have start' := store'.isExtendedTo_enterClosure function' args'
  have linked : calls.Linked (link.addFrame store.frames.size store'.frames.size)
      (store.enterClosure function args) (store'.enterClosure function' args') := {
    toFits := by
      refine (called.fits.mono within id id id).of_eq ?_ ?_ (.of_eq start.functions) ?_ ?_
        (.of_eq start'.functions)
      all_goals rw [Store.enterClosure_eq]
    sees := by
      rintro frame frame' (paired | ⟨rfl, rfl⟩)
      · exact absurd paired (called.noFrames frame frame')
      · exact {
          holds := store.holds_enterClosure called.holds args
          holds' := store'.holds_enterClosure called.holds' args'
          left := fun name member => store.lookup?_enterClosure called.holds counted member
          right := fun name member => store'.lookup?_enterClosure called.holds' counted' member }
    arraysGrown := .refl called.fits.arrays
    objectsGrown := .refl called.fits.objects
    known := id
    symbols := id
    past := start.toExtends
    start := start' }
  have allows : calls.Allows allowed := ⟨equal, called.unique⟩
  have paired (name : String) := (pairs_argumentOf function.params called.args name).mono within
  have body : ((evaluator effort).run store.frames.size function.body).Mirrors calls.bond
      (link.addFrame store.frames.size store'.frames.size) _
      ((evaluator effort').run store'.frames.size function.body) :=
    Calls.mirrors_run (fun node member => calls.traces allows paired
      (fun symbol member => known symbol member) ⟨.inl trivial, enough⟩ (simple node member))
      (.inr ⟨rfl, rfl⟩)
  have meets := (body.absorbReturn function.name).meets _ le_rfl _ _ linked
  rw [Evaluator.callClosure_eq _ _ _ counted] at ends
  change (absorbReturn function.name ((evaluator effort).run store.frames.size function.body) host
    (store.enterClosure function args)).Meets _ at meets
  rw [ends] at meets
  rcases meets with lost | ⟨isShort, cut⟩ | ⟨last, -, result', after', ends', resultPaired, linkedAfter⟩
  · exact lost.elim
  · rw [Evaluator.callClosure_eq _ _ _ counted']
    exact .inl ⟨isShort, cut⟩
  refine .inr ⟨result', after', last, ?_, resultPaired, linkedAfter.toGrows⟩
  exact (Evaluator.callClosure_eq _ _ _ counted').trans ends'

end TreeScript
