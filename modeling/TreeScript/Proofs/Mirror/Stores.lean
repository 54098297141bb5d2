import TreeScript.Proofs.Mirror.Constructs
import TreeScript.Proofs.Mirror.Contents
import TreeScript.Proofs.Scope.Lookup
import TreeScript.Proofs.Scope.Tables

/-! # Stores that differ in the numbering of their cells

Where a link is one to one, two paired arrays can be changed together, and names can be bound in two
paired frames. Arrays and objects need not be paired one to one where they may be confused. The bindings of
paired frames stand in the same order.
-/

namespace TreeScript

/-! ## What was printed -/

theorem Store.output_record (store : Store) (event : Event) : (store.record event).output = store.output := by
  simp [Store.output, Store.record, Entry.output]

theorem Store.output_write (store : Store) (text : String) :
    (store.write text).output = store.output ++ text := by
  simp [Store.output, Store.write, Entry.output]

/-! ## One-to-one links -/

/-- No number is paired with two others. -/
def OneToOne (paired : Nat → Nat → Prop) : Prop :=
  ∀ ⦃ref ref' other other'⦄, paired ref ref' → paired other other' → (ref = other ↔ ref' = other')

theorem OneToOne.mono {paired fewer : Nat → Nat → Prop} (unique : OneToOne paired)
    (known : ∀ {ref ref'}, fewer ref ref' → paired ref ref') : OneToOne fewer :=
  fun _ _ _ _ first second => unique (known first) (known second)

/-- The numbers that come next can be paired with each other. -/
theorem OneToOne.add {paired : Nat → Nat → Prop} {size size' : Nat} (unique : OneToOne paired)
    (inside : ∀ {ref ref'}, paired ref ref' → ref < size ∧ ref' < size') :
    OneToOne fun ref ref' => paired ref ref' ∨ ref = size ∧ ref' = size' := by
  rintro ref ref' other other' (known | ⟨rfl, rfl⟩) (otherKnown | ⟨rfl, rfl⟩)
  · exact unique known otherKnown
  · have := inside known
    omega
  · have := inside otherKnown
    omega
  · simp

/-- No number is paired with two others, but for those that may be confused. -/
def OneToOneBut (confused : Nat → Nat → Prop) (paired : Nat → Nat → Prop) : Prop :=
  ∀ ⦃ref ref' other other'⦄, paired ref ref' → paired other other' →
    (ref = other ↔ ref' = other') ∨ confused ref other

theorem OneToOneBut.mono {confused more paired fewer : Nat → Nat → Prop} (unique : OneToOneBut confused paired)
    (known : ∀ {ref ref'}, fewer ref ref' → paired ref ref')
    (confuses : ∀ {ref other}, confused ref other → more ref other) : OneToOneBut more fewer :=
  fun _ _ _ _ first second => (unique (known first) (known second)).imp id confuses

theorem OneToOneBut.add {confused paired : Nat → Nat → Prop} {size size' : Nat}
    (unique : OneToOneBut confused paired)
    (inside : ∀ {ref ref'}, paired ref ref' → ref < size ∧ ref' < size') :
    OneToOneBut confused fun ref ref' => paired ref ref' ∨ ref = size ∧ ref' = size' := by
  rintro ref ref' other other' (known | ⟨rfl, rfl⟩) (otherKnown | ⟨rfl, rfl⟩)
  · exact unique known otherKnown
  · have := inside known
    omega
  · have := inside otherKnown
    omega
  · simp

/-! ## Arrays and objects -/

/-- The arrays and objects of two stores are the same, as far as they are paired. -/
structure Link.Cells (link : Link) (confused : Value → Value → Prop) (store store' : Store) : Prop extends
    link.Fits store store' where
  arraysUnique : OneToOneBut (fun ref other => confused (.array ref) (.array other)) link.arrays
  objectsUnique : OneToOneBut (fun ref other => confused (.object ref) (.object other)) link.objects

namespace Link.Cells

variable {link wider : Link} {confused more : Value → Value → Prop} {store store' later later' : Store}
  (cells : link.Cells confused store store')

include cells

/-- A link that fits later stores and pairs no more arrays and objects. -/
theorem keep (fits : wider.Fits later later')
    (arrays : ∀ {ref other}, wider.arrays ref other → link.arrays ref other)
    (objects : ∀ {ref other}, wider.objects ref other → link.objects ref other)
    (confuses : ∀ {value other}, confused value other → more value other) : wider.Cells more later later' where
  toFits := fits
  arraysUnique := cells.arraysUnique.mono arrays confuses
  objectsUnique := cells.objectsUnique.mono objects confuses

theorem addArray {elements others : Array Value} (paired : Pairing.array.pairs link elements others)
    (confuses : ∀ {value other}, confused value other → more value other) :
    (link.addArray store.arrays.size store'.arrays.size).Cells more (store.addArray elements).2
      (store'.addArray others).2 where
  toFits := cells.toFits.addArray paired
  arraysUnique := (cells.arraysUnique.add cells.arrays).mono id confuses
  objectsUnique := cells.objectsUnique.mono id confuses

theorem addObject {entries others : Table Value} (distinct : entries.keys.Nodup)
    (otherDistinct : others.keys.Nodup) (paired : Pairing.entries.pairs link entries others)
    (confuses : ∀ {value other}, confused value other → more value other) :
    (link.addObject store.objects.size store'.objects.size).Cells more (store.addObject entries).2
      (store'.addObject others).2 where
  toFits := cells.toFits.addObject distinct otherDistinct (Table.Paired.get? paired)
  arraysUnique := cells.arraysUnique.mono id confuses
  objectsUnique := (cells.objectsUnique.add cells.objects).mono id confuses

end Link.Cells

/-! ## Frames -/

/-- The frames of two stores are the same, as far as they are paired. -/
structure Link.Frames (link : Link) (frames frames' : Array Frame) : Prop where
  unique : OneToOne link.frames
  found : ∀ {ref ref'}, link.frames ref ref' → ∃ inner inner', frames[ref]? = some inner ∧
    frames'[ref']? = some inner' ∧ List.Forall₂ link.frames inner.enclosing inner'.enclosing ∧
    Pairing.entries.pairs link inner.bindings inner'.bindings

namespace Link.Frames

variable {link wider : Link} {store store' later' : Store} {frame frame' : FrameRef}

theorem mono {frames frames' : Array Frame} (linked : link.Frames frames frames') (within : link ≤ wider)
    (known : ∀ {ref ref'}, wider.frames ref ref' → link.frames ref ref') :
    wider.Frames frames frames' where
  unique := linked.unique.mono known
  found paired := by
    obtain ⟨inner, inner', found, found', enclosing, bindings⟩ := linked.found (known paired)
    exact ⟨inner, inner', found, found', enclosing.imp fun _ _ => within.frames,
      Pairing.entries.mono bindings within⟩

theorem inside {frames frames' : Array Frame} (linked : link.Frames frames frames')
    (paired : link.frames frame frame') : frame < frames.size ∧ frame' < frames'.size := by
  obtain ⟨inner, inner', found, found', -⟩ := linked.found paired
  exact ⟨(Array.getElem?_eq_some_iff.mp found).1, (Array.getElem?_eq_some_iff.mp found').1⟩

variable (linked : link.Frames store.frames store'.frames)

include linked

/-- Further frames in the second store do not matter. -/
theorem grow_right (grown : store'.IsGrownTo later') : link.Frames store.frames later'.frames where
  unique := linked.unique
  found paired := by
    obtain ⟨inner, inner', found, found', rest⟩ := linked.found paired
    exact ⟨inner, inner', found, (grown _ (linked.inside paired).2).trans found', rest⟩

variable (paired : link.frames frame frame')

include paired

theorem visible : List.Forall₂ link.frames (store.visible frame) (store'.visible frame') := by
  obtain ⟨inner, inner', found, found', enclosing, -⟩ := linked.found paired
  rw [Store.visible, Store.visible, found, found']
  exact .cons paired enclosing

theorem holds : store.Holds frame ∧ store'.Holds frame' := by
  have around {frames frames' : List FrameRef} (paired : List.Forall₂ link.frames frames frames') :
      (∀ outer ∈ frames, outer < store.frames.size) ∧ ∀ outer ∈ frames', outer < store'.frames.size := by
    induction paired with
    | nil => simp
    | cons head _ ih =>
      have inside := linked.inside head
      simp only [List.forall_mem_cons]
      exact ⟨⟨inside.1, ih.1⟩, inside.2, ih.2⟩
  have visible := around (linked.visible paired)
  have inside := linked.inside paired
  exact ⟨⟨inside.1, visible.1⟩, inside.2, visible.2⟩

/-- Paired frames bind the same names to paired values. -/
theorem binding? (name : String) :
    Pairing.value.option.pairs link (store.binding? frame name)
      (store'.binding? frame' name) := by
  obtain ⟨inner, inner', found, found', -, bindings⟩ := linked.found paired
  rw [Store.binding?, Store.binding?, found, found']
  exact Table.Paired.get? bindings name

theorem lookup? (name : String) :
    Pairing.value.option.pairs link (store.lookup? frame name)
      (store'.lookup? frame' name) := by
  have visible := linked.visible paired
  unfold Store.lookup?
  generalize store.visible frame = frames at visible ⊢
  generalize store'.visible frame' = frames' at visible ⊢
  induction visible with
  | nil => exact .none
  | @cons outer outer' _ _ head _ ih =>
    have bound := linked.binding? head name
    rw [List.findSome?_cons, List.findSome?_cons]
    generalize store.binding? outer name = found at bound ⊢
    generalize store'.binding? outer' name = found' at bound ⊢
    cases bound with
    | none => exact ih
    | some paired => exact .some paired

/-- Bind a name in two paired frames. -/
theorem define (name : String) {value value' : Value} (values : link.Pairs value value') :
    link.Frames (store.define frame name value).frames (store'.define frame' name value').frames where
  unique := linked.unique
  found {ref ref'} known := by
    obtain ⟨inner, inner', found, found', enclosing, bindings⟩ := linked.found known
    simp only [Store.define, Array.getElem?_modify, found, found']
    by_cases same : frame = ref
    · rw [if_pos same, if_pos ((linked.unique paired known).mp same)]
      exact ⟨_, _, rfl, rfl, enclosing, Table.Paired.put bindings name values⟩
    · rw [if_neg same, if_neg fun equal => same ((linked.unique paired known).mpr equal)]
      exact ⟨_, _, rfl, rfl, enclosing, bindings⟩

/-- Add a frame inside each of two paired ones. -/
theorem addFrame (label : String) :
    (link.addFrame store.frames.size store'.frames.size).Frames (store.addFrame frame label).2.frames
      (store'.addFrame frame' label).2.frames where
  unique := linked.unique.add linked.inside
  found := by
    have within := link.le_addFrame store.frames.size store'.frames.size
    rintro ref ref' (known | ⟨rfl, rfl⟩)
    · obtain ⟨inner, inner', found, found', enclosing, bindings⟩ := linked.found known
      have inside := linked.inside known
      refine ⟨inner, inner', ?_, ?_, enclosing.imp fun _ _ => within.frames,
        Pairing.entries.mono bindings within⟩
      · simp [Store.addFrame, Array.getElem?_push, Nat.ne_of_lt inside.1, found]
      · simp [Store.addFrame, Array.getElem?_push, Nat.ne_of_lt inside.2, found']
    · refine ⟨⟨label, store.visible frame, []⟩, ⟨label, store'.visible frame', []⟩, ?_, ?_,
        (linked.visible paired).imp fun _ _ => within.frames, .nil⟩
      · simp [Store.addFrame]
      · simp [Store.addFrame]

end Link.Frames

/-! ## Functions -/

/-- Two functions are the same, made in paired frames; it does not matter what they remember. -/
inductive Link.Callables (link : Link) : Callable → Callable → Prop
  | builtin (function : Builtin) : link.Callables (.builtin function) (.builtin function)
  | closure (function : Closure) {scope' : FrameRef} (scopes : link.frames function.scope scope') :
      link.Callables (.closure function) (.closure { function with scope := scope' })
  | memoized (function : Closure) (cache : Table Value) {scope' : FrameRef}
      (scopes : link.frames function.scope scope') :
      link.Callables (.memoized function cache) (.closure { function with scope := scope' })
  | arrow (params : List String) (body : Node) {scope scope' : FrameRef}
      (scopes : link.frames scope scope') :
      link.Callables (.arrow params body scope) (.arrow params body scope')

theorem Link.Callables.mono {link wider : Link} {function function' : Callable}
    (paired : link.Callables function function') (within : link ≤ wider) :
    wider.Callables function function' := by
  cases paired with
  | builtin function => exact .builtin function
  | closure function scopes => exact .closure function (within.frames scopes)
  | memoized function cache scopes => exact .memoized function cache (within.frames scopes)
  | arrow params body scopes => exact .arrow params body (within.frames scopes)

theorem Link.Callables.name_eq {link : Link} {function function' : Callable}
    (paired : link.Callables function function') : function.name = function'.name := by
  cases paired <;> rfl

/-- Two stores are the same, as far as they are linked, but for the numbers of their frames, arrays and
objects and for what functions remember. One array or object may stand for several that have the same
contents. -/
structure Link.Matches (link : Link) (store store' : Store) : Prop where
  fits : link.Fits store store'
  frames : link.Frames store.frames store'.frames
  /-- Functions have the same numbers. -/
  functions : ∀ {ref ref'}, link.functions ref ref' → ref = ref' ∧ ∃ function function',
    store.functions[ref]? = some function ∧ store'.functions[ref']? = some function' ∧
      link.Callables function function'

end TreeScript
