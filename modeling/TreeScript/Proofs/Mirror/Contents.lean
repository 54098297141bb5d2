import TreeScript.Proofs.Mirror.Views
import TreeScript.Proofs.Typing.Values

/-! # Cells with paired contents

A link *fits* two stores if it only pairs cells that are there and whose contents are paired too. It
goes on to do so while cells are added to the two stores, together or to one of them alone.
-/

namespace TreeScript

/-! ## Larger links -/

namespace Link

variable {link : Link}

/-- The link that also pairs two given frames. -/
def addFrame (link : Link) (frame frame' : FrameRef) : Link :=
  { link with frames := fun ref other => link.frames ref other ∨ ref = frame ∧ other = frame' }

/-- The link that also pairs two given arrays. -/
def addArray (link : Link) (ref ref' : ArrayRef) : Link :=
  { link with arrays := fun first second => link.arrays first second ∨ first = ref ∧ second = ref' }

/-- The link that also pairs two given objects. -/
def addObject (link : Link) (ref ref' : ObjectRef) : Link :=
  { link with objects := fun first second => link.objects first second ∨ first = ref ∧ second = ref' }

/-- The link that also pairs two given functions. -/
def addFunction (link : Link) (ref ref' : FunctionRef) : Link :=
  { link with
    functions := fun first second => link.functions first second ∨ first = ref ∧ second = ref' }

theorem le_addFrame (frame frame' : FrameRef) : link ≤ link.addFrame frame frame' :=
  Within.mk Or.inl id id id id

theorem le_addArray (ref ref' : ArrayRef) : link ≤ link.addArray ref ref' :=
  Within.mk id Or.inl id id id

theorem le_addObject (ref ref' : ObjectRef) : link ≤ link.addObject ref ref' :=
  Within.mk id id Or.inl id id

theorem le_addFunction (ref ref' : FunctionRef) : link ≤ link.addFunction ref ref' :=
  Within.mk id id id Or.inl id

end Link

/-! ## Stores that grow -/

namespace Store

variable {store later : Store}

namespace Extends

theorem of_eq (arrays : later.arrays = store.arrays) (objects : later.objects = store.objects) :
    store.Extends later :=
  ⟨fun _ _ found => arrays ▸ found, fun _ _ found => objects ▸ found⟩

variable (more : store.Extends later)

include more

theorem arrays_le : store.arrays.size ≤ later.arrays.size := by
  refine Nat.le_of_not_lt fun smaller => ?_
  have found := more.arrays later.arrays.size _ (Array.getElem?_eq_getElem smaller)
  rw [Array.getElem?_eq_none (Nat.le_refl _)] at found
  cases found

theorem objects_le : store.objects.size ≤ later.objects.size := by
  refine Nat.le_of_not_lt fun smaller => ?_
  have found := more.objects later.objects.size _ (Array.getElem?_eq_getElem smaller)
  rw [Array.getElem?_eq_none (Nat.le_refl _)] at found
  cases found

theorem depth_le : store.depth ≤ later.depth :=
  Nat.succ_le_succ (Nat.add_le_add more.arrays_le more.objects_le)

theorem elements_eq {ref : ArrayRef} (inside : ref < store.arrays.size) :
    later.elements ref = store.elements ref := by
  have found := Array.getElem?_eq_getElem inside
  simp only [elements, Array.getD_eq_getD_getElem?, found, more.arrays ref _ found]

theorem entries_eq {ref : ObjectRef} (inside : ref < store.objects.size) :
    later.entries ref = store.entries ref := by
  have found := Array.getElem?_eq_getElem inside
  simp only [entries, Array.getD_eq_getD_getElem?, found, more.objects ref _ found]

end Extends

/-- The functions of a store are still there in a later one, under the same names. -/
def KeepsNames (store later : Store) : Prop :=
  ∀ (ref : FunctionRef) (name : String), store.functions[ref]?.map Callable.name = some name →
    later.functions[ref]?.map Callable.name = some name

namespace KeepsNames

theorem of_eq (same : later.functions = store.functions) : store.KeepsNames later := fun _ _ known => by
  rw [same]
  exact known

theorem trans {last : Store} (kept : store.KeepsNames later) (further : later.KeepsNames last) :
    store.KeepsNames last := fun ref name known => further ref name (kept ref name known)

theorem addFunction (store : Store) (function : Callable) :
    store.KeepsNames (store.addFunction function).2 := by
  intro ref name known
  obtain ⟨old, found, -⟩ := Option.map_eq_some_iff.mp known
  have inside : ref < store.functions.size := (Array.getElem?_eq_some_iff.mp found).1
  simpa [Store.addFunction, Array.getElem?_push, Nat.ne_of_lt inside] using known

/-- What a function remembers does not change its name. -/
theorem remember (store : Store) (ref : FunctionRef) (key : String) (result : Value) :
    store.KeepsNames (store.remember ref key result) := by
  intro other name known
  obtain ⟨old, found, named⟩ := Option.map_eq_some_iff.mp known
  simp only [Store.remember, Array.getElem?_modify, found]
  split
  · rw [Option.map_some, Option.map_some, ← named]
    cases old <;> rfl
  · rw [Option.map_some, named]

end KeepsNames

end Store

/-! ## Links that fit -/

/-- Paired cells are there and have paired contents; the second store is at least as large as the
first. -/
structure Link.Fits (link : Link) (store store' : Store) : Prop where
  arrays : ∀ {ref other}, link.arrays ref other →
    ref < store.arrays.size ∧ other < store'.arrays.size
  elements : ∀ {ref other}, link.arrays ref other →
    Pairing.array.pairs link (store.elements ref) (store'.elements other)
  objects : ∀ {ref other}, link.objects ref other →
    ref < store.objects.size ∧ other < store'.objects.size
  entries : ∀ {ref other}, link.objects ref other →
    Pairing.table.pairs link (store.entries ref) (store'.entries other)
  distinct : store.NamesDistinct ∧ store'.NamesDistinct
  functions : ∀ {ref other}, link.functions ref other → ∃ name,
    store.functions[ref]?.map Callable.name = some name ∧
      store'.functions[other]?.map Callable.name = some name
  depth : store.depth ≤ store'.depth

/-- Where the links of a bond fit the stores, paired values look the same. -/
theorem Bond.Reading.of_fits {bond : Bond}
    (fits : ∀ {link store store'}, bond.linked link store store' → link.Fits store store')
    (stuck : ∀ {store value}, store.picture? value = none → bond.stuck store)
    (sameLimit : bond.left.digitLimit = bond.right.digitLimit) : bond.Reading where
  elements linked := (fits linked).elements
  entries linked := (fits linked).entries
  distinct linked := (fits linked).distinct
  names linked paired := by
    obtain ⟨name, named, named'⟩ := (fits linked).functions paired
    rw [named, named']
  depth linked := (fits linked).depth
  stuck := .inl stuck
  sameLimit := sameLimit

namespace Link.Fits

variable {link wider : Link} {store store' later later' : Store} (fits : link.Fits store store')

include fits

/-- A larger link fits, if it pairs no more arrays, objects and functions. -/
theorem mono (within : link ≤ wider) (arrays : ∀ {ref other}, wider.arrays ref other → link.arrays ref other)
    (objects : ∀ {ref other}, wider.objects ref other → link.objects ref other)
    (functions : ∀ {ref other}, wider.functions ref other → link.functions ref other) :
    wider.Fits store store' where
  arrays paired := fits.arrays (arrays paired)
  elements paired := Pairing.array.mono (fits.elements (arrays paired)) within
  objects paired := fits.objects (objects paired)
  entries paired := Pairing.table.mono (fits.entries (objects paired)) within
  distinct := fits.distinct
  functions paired := fits.functions (functions paired)
  depth := fits.depth

/-- The link goes on to fit while the two stores grow. -/
theorem grow (more : store.Extends later) (more' : store'.Extends later') (names : store.KeepsNames later)
    (names' : store'.KeepsNames later') (distinct : later.NamesDistinct ∧ later'.NamesDistinct)
    (depth : later.depth ≤ later'.depth) : link.Fits later later' where
  arrays paired := ⟨Nat.lt_of_lt_of_le (fits.arrays paired).1 more.arrays_le,
    Nat.lt_of_lt_of_le (fits.arrays paired).2 more'.arrays_le⟩
  elements paired := by
    rw [more.elements_eq (fits.arrays paired).1, more'.elements_eq (fits.arrays paired).2]
    exact fits.elements paired
  objects paired := ⟨Nat.lt_of_lt_of_le (fits.objects paired).1 more.objects_le,
    Nat.lt_of_lt_of_le (fits.objects paired).2 more'.objects_le⟩
  entries paired := by
    rw [more.entries_eq (fits.objects paired).1, more'.entries_eq (fits.objects paired).2]
    exact fits.entries paired
  distinct := distinct
  functions paired := by
    obtain ⟨name, named, named'⟩ := fits.functions paired
    exact ⟨name, names _ _ named, names' _ _ named'⟩
  depth := depth

/-- Changes to anything but arrays, objects and the names of functions do not matter. -/
theorem of_eq (arrays : later.arrays = store.arrays) (objects : later.objects = store.objects)
    (names : store.KeepsNames later) (arrays' : later'.arrays = store'.arrays)
    (objects' : later'.objects = store'.objects) (names' : store'.KeepsNames later') :
    link.Fits later later' := by
  refine fits.grow (.of_eq arrays objects) (.of_eq arrays' objects') names names' ?_ ?_
  · refine ⟨fun ref => ?_, fun ref => ?_⟩
    · rw [Store.entries, objects]
      exact fits.distinct.1 ref
    · rw [Store.entries, objects']
      exact fits.distinct.2 ref
  · rw [Store.depth, Store.depth, arrays, objects, arrays', objects']
    exact fits.depth

theorem addArray {elements others : Array Value} (paired : Pairing.array.pairs link elements others) :
    (link.addArray store.arrays.size store'.arrays.size).Fits (store.addArray elements).2
      (store'.addArray others).2 := by
  have within := link.le_addArray store.arrays.size store'.arrays.size
  have old : link.Fits (store.addArray elements).2 (store'.addArray others).2 := by
    refine fits.grow (.addArray _ _) (.addArray _ _) (.of_eq rfl) (.of_eq rfl) fits.distinct ?_
    have depth := fits.depth
    simp only [Store.depth, Store.addArray, Array.size_push] at depth ⊢
    omega
  have new : Pairing.array.pairs link ((store.addArray elements).2.elements store.arrays.size)
      ((store'.addArray others).2.elements store'.arrays.size) := by
    simpa [Store.elements, Store.addArray] using paired
  exact { old with
    arrays := by
      rintro ref other (known | ⟨rfl, rfl⟩)
      · exact old.arrays known
      · simp [Store.addArray]
    elements := by
      rintro ref other (known | ⟨rfl, rfl⟩)
      · exact Pairing.array.mono (old.elements known) within
      · exact Pairing.array.mono new within
    entries := fun known => Pairing.table.mono (old.entries known) within }

theorem addObject {entries others : Table Value} (distinct : entries.keys.Nodup)
    (otherDistinct : others.keys.Nodup) (paired : Pairing.table.pairs link entries others) :
    (link.addObject store.objects.size store'.objects.size).Fits (store.addObject entries).2
      (store'.addObject others).2 := by
  have within := link.le_addObject store.objects.size store'.objects.size
  have old : link.Fits (store.addObject entries).2 (store'.addObject others).2 := by
    refine fits.grow (.addObject _ _) (.addObject _ _) (.of_eq rfl) (.of_eq rfl)
      ⟨fits.distinct.1.addObject distinct, fits.distinct.2.addObject otherDistinct⟩ ?_
    have depth := fits.depth
    simp only [Store.depth, Store.addObject, Array.size_push] at depth ⊢
    omega
  have new : Pairing.table.pairs link ((store.addObject entries).2.entries store.objects.size)
      ((store'.addObject others).2.entries store'.objects.size) := by
    simpa [Store.entries, Store.addObject] using paired
  exact { old with
    elements := fun known => Pairing.array.mono (old.elements known) within
    objects := by
      rintro ref other (known | ⟨rfl, rfl⟩)
      · exact old.objects known
      · simp [Store.addObject]
    entries := by
      rintro ref other (known | ⟨rfl, rfl⟩)
      · exact Pairing.table.mono (old.entries known) within
      · exact Pairing.table.mono new within }

theorem addFunction {function function' : Callable} (named : function.name = function'.name) :
    (link.addFunction store.functions.size store'.functions.size).Fits (store.addFunction function).2
      (store'.addFunction function').2 := by
  have within := link.le_addFunction store.functions.size store'.functions.size
  have old : link.Fits (store.addFunction function).2 (store'.addFunction function').2 :=
    fits.of_eq rfl rfl (.addFunction _ _) rfl rfl (.addFunction _ _)
  exact { old with
    elements := fun known => Pairing.array.mono (old.elements known) within
    entries := fun known => Pairing.table.mono (old.entries known) within
    functions := by
      rintro ref other (known | ⟨rfl, rfl⟩)
      · exact old.functions known
      · simp [Store.addFunction, named] }

theorem addFrame {parent parent' : FrameRef} {label : String} :
    (link.addFrame store.frames.size store'.frames.size).Fits (store.addFrame parent label).2
      (store'.addFrame parent' label).2 :=
  (fits.mono (le_addFrame _ _) id id id).of_eq rfl rfl (.of_eq rfl) rfl rfl (.of_eq rfl)

/-- Arrays that are paired with nothing but each other can be changed together. -/
theorem updateArray {ref ref' : ArrayRef} {change change' : Array Value → Array Value}
    (unique : ∀ {other other'}, link.arrays other other' → (ref = other ↔ ref' = other'))
    (changes : ∀ elements others, Pairing.array.pairs link elements others →
      Pairing.array.pairs link (change elements) (change' others)) :
    link.Fits (store.updateArray ref change) (store'.updateArray ref' change') :=
  { fits with
    arrays := fun known => by simpa [Store.updateArray] using fits.arrays known
    elements := fun {other other'} known => by
      have inside := fits.arrays known
      have old := fits.elements known
      simp only [Store.elements, Store.updateArray, Array.getD_eq_getD_getElem?, Array.getElem?_modify,
        Array.getElem?_eq_getElem inside.1, Array.getElem?_eq_getElem inside.2] at old ⊢
      by_cases same : ref = other
      · rw [if_pos same, if_pos ((unique known).mp same)]
        exact changes _ _ old
      · rw [if_neg same, if_neg fun equal => same ((unique known).mpr equal)]
        exact old
    depth := by simpa [Store.depth, Store.updateArray] using fits.depth }

end Link.Fits

end TreeScript
