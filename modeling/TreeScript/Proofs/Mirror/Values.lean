import TreeScript.Proofs.Conduct.Values
import TreeScript.Proofs.Mirror.Views

/-! # Operators, properties, methods and built-ins in two runs

Applied to paired values they do the same in both runs. The operators need no more than that paired
values look the same and that new cells can be linked, except that equality has to come out the same;
the rest also changes arrays, prints and asks the outside world. Cells that are frozen must not be changed,
and cells that are confused must not be compared.
-/

namespace TreeScript

variable {α β : Type}

/-- Whether an event reports that a call was answered from memory. -/
def Event.isMemoHit : Event → Bool
  | memoHit _ => true
  | _ => false

namespace Bond

/-- New arrays and objects with paired contents can be linked. -/
structure Growing (bond : Bond) : Prop extends bond.Reading where
  addArray : ∀ {link store store' elements others}, bond.linked link store store' →
    Pairing.array.pairs link elements others → ∃ wider, link ≤ wider ∧
      wider.arrays (store.addArray elements).1 (store'.addArray others).1 ∧
      bond.linked wider (store.addArray elements).2 (store'.addArray others).2
  addObject : ∀ {link store store'} {entries others : Table Value}, bond.linked link store store' →
    entries.keys.Nodup → others.keys.Nodup →
    Pairing.entries.pairs link entries others → ∃ wider, link ≤ wider ∧
      wider.objects (store.addObject entries).1 (store'.addObject others).1 ∧
      bond.linked wider (store.addObject entries).2 (store'.addObject others).2
  sturdy : bond.losing.Sturdy

/-- Paired cells have one identity in both runs unless they are confused, and changes that are made to both
keep the stores linked. -/
structure Faithful (bond : Bond) : Prop extends bond.Growing where
  arrays : ∀ {link store store' ref other ref' other'}, bond.linked link store store' →
    link.arrays ref ref' → link.arrays other other' →
    ¬ bond.confused store (.array ref) (.array other) → (ref = other ↔ ref' = other')
  objects : ∀ {link store store' ref other ref' other'}, bond.linked link store store' →
    link.objects ref ref' → link.objects other other' →
    ¬ bond.confused store (.object ref) (.object other) → (ref = other ↔ ref' = other')
  functions : ∀ {link store store' ref other ref' other'}, bond.linked link store store' →
    link.functions ref ref' → link.functions other other' → (ref = other ↔ ref' = other')
  updateArray : ∀ {link store store' ref ref'} {change change' : Array Value → Array Value},
    bond.linked link store store' → link.arrays ref ref' → ¬ bond.frozen store (.array ref) →
    bond.gains ∨ OnlyDrops change →
    (∀ elements others, Pairing.array.pairs link elements others →
      Pairing.array.pairs link (change elements) (change' others)) →
    bond.linked link (store.updateArray ref change) (store'.updateArray ref' change')
  record : ∀ {link store store' event event'}, bond.linked link store store' → event.isMemoHit = false →
    bond.linked link (store.record event) (store'.record event')
  write : ∀ {link store store' text}, bond.linked link store store' →
    bond.linked link (store.write text) (store'.write text)
  requests : ∀ {link store store'}, bond.linked link store store' → store.requests = store'.requests
  request : ∀ {link} {store store' : Store}, bond.linked link store store' →
    bond.linked link { store with requests := store.requests + 1 }
      { store' with requests := store'.requests + 1 }
  /-- The two hosts differ in nothing but whether functions remember their results. -/
  hosts : bond.right = { bond.left with memoizes := bond.right.memoizes }
  recordLost : ∀ {store event}, bond.lost store → bond.lost (store.record event)

theorem losing_permissive (bond : Bond) : bond.losing.Permissive := ⟨fun _ => trivial, trivial⟩

variable {bond : Bond} {link : Link}

/-- Equality comes out the same for paired values. -/
theorem Faithful.strictEquals_eq (faithful : bond.Faithful) {store store' : Store}
    (linked : bond.linked link store store') {left left' right right' : Value}
    (leftPaired : link.Pairs left left') (rightPaired : link.Pairs right right')
    (apart : ¬ bond.confused store left right) : left.strictEquals right = left'.strictEquals right' := by
  refine leftPaired.strictEquals_eq rightPaired ?_ ?_ (faithful.functions linked)
  · rintro _ _ _ _ rfl rfl paired other
    exact faithful.arrays linked paired other apart
  · rintro _ _ _ _ rfl rfl paired other
    exact faithful.objects linked paired other apart

end Bond

/-! ## Failures that name values

Messages show values by their kind only. -/

namespace Link.Pairs

variable {link : Link} {value other left left' right right' : Value}

theorem conditionNotBoolean (paired : link.Pairs value other) :
    (Failure.conditionNotBoolean value).Alike (.conditionNotBoolean other) := by
  refine ⟨rfl, rfl, ?_⟩
  unfold Failure.message
  dsimp only
  rw [paired.describe_eq]

theorem notAnArray (paired : link.Pairs value other) : (Failure.notAnArray value).Alike (.notAnArray other) := by
  refine ⟨rfl, rfl, ?_⟩
  unfold Failure.message
  dsimp only
  rw [paired.describe_eq]

theorem indexNotNumber (paired : link.Pairs value other) :
    (Failure.indexNotNumber value).Alike (.indexNotNumber other) := by
  refine ⟨rfl, rfl, ?_⟩
  unfold Failure.message
  dsimp only
  rw [paired.describe_eq]

variable (leftPaired : link.Pairs left left') (rightPaired : link.Pairs right right')

include leftPaired rightPaired

theorem notTwoArrays : (Failure.notTwoArrays left right).Alike (.notTwoArrays left' right') := by
  refine ⟨rfl, rfl, ?_⟩
  unfold Failure.message
  dsimp only
  rw [leftPaired.describe_eq, rightPaired.describe_eq]

theorem notNumeric (operator : Operator) : (Failure.badOperands (.notNumeric operator left right)).Alike
    (.badOperands (.notNumeric operator left' right')) := by
  refine ⟨rfl, rfl, ?_⟩
  unfold Failure.message BadOperands.message
  dsimp only
  rw [leftPaired.describe_eq, rightPaired.describe_eq]

theorem notComparable (operator : Operator) : (Failure.badOperands (.notComparable operator left right)).Alike
    (.badOperands (.notComparable operator left' right')) := by
  refine ⟨rfl, rfl, ?_⟩
  unfold Failure.message BadOperands.message
  dsimp only
  rw [leftPaired.describe_eq, rightPaired.describe_eq]

end Link.Pairs

/-! ## Lists of values -/

section Lists

variable {link : Link} {values others : List Value}

theorem pairs_replicate_undefined (count : Nat) :
    Pairing.value.list.pairs link (List.replicate count .undefined) (List.replicate count .undefined) := by
  refine List.forall₂_same.mpr fun item member => ?_
  rw [List.eq_of_mem_replicate member]
  exact .undefined

variable (paired : Pairing.value.list.pairs link values others)

include paired

/-- Paired lists have paired items at each position. -/
theorem pairs_getElem? (index : Nat) :
    Pairing.value.option.pairs link values[index]? others[index]? := by
  induction paired generalizing index with
  | nil => exact .none
  | cons head _ ih =>
    cases index with
    | zero => exact .some head
    | succ index => exact ih index

theorem Link.Pairs.getD (index : Nat) :
    link.Pairs (values.getD index .undefined) (others.getD index .undefined) := by
  have item := pairs_getElem? paired index
  rw [List.getD_eq_getElem?_getD, List.getD_eq_getElem?_getD]
  generalize values[index]? = found at item ⊢
  generalize others[index]? = found' at item ⊢
  cases item with
  | none => exact .undefined
  | some item => exact item

theorem Link.Pairs.set (index : Nat) {value other : Value} (item : link.Pairs value other) :
    Pairing.value.list.pairs link (values.set index value) (others.set index other) := by
  induction paired generalizing index with
  | nil => exact .nil
  | cons head tail ih =>
    cases index with
    | zero => exact .cons item tail
    | succ index => exact .cons head (ih index)

end Lists

namespace Exec

variable {bond : Bond} {link : Link} {value other : Value}

/-- What is written out is mirrored where both runs see the same and write the same integers. -/
theorem mirrors_spell {view other : Host → Store → Option α} {integers integers' : Store → List Int}
    (sameLimit : bond.left.digitLimit = bond.right.digitLimit)
    (same : ∀ wider, link ≤ wider → ∀ store store', bond.linked wider store store' → ∀ result,
      view bond.left store = some result → other bond.right store' = some result ∧ integers store = integers' store')
    (stuck : ∀ wider, link ≤ wider → ∀ store store', bond.linked wider store store' →
      view bond.left store = none → bond.stuck store ∨ other bond.right store' = none) :
    (spell view integers).Mirrors bond link (Pairing.same).pairs (spell other integers') := by
  have writes : bond.left.writes = bond.right.writes := by
    unfold Host.writes
    rw [sameLimit]
  have tooLong : bond.left.tooLong none = bond.right.tooLong none := by
    unfold Host.tooLong
    rw [sameLimit]
  refine ⟨follows_spell trivial, fun wider within store store' linked => ?_⟩
  unfold spell
  cases seen : view bond.left store with
  | none =>
    rcases stuck wider within store store' linked seen with stuck | none
    · exact .inr (.inr (.inl stuck))
    · rw [none]
      exact .inr (.inr (.inr (.inr ⟨wider, le_rfl, store', rfl, linked⟩)))
  | some result =>
    obtain ⟨seen', integers⟩ := same wider within store store' linked result seen
    simp only [seen', integers, writes, tooLong]
    split
    · exact Bond.meets_done linked rfl
    · exact Bond.meets_stopped linked (.fault _)

theorem mirrors_ensureReadable (sameLimit : bond.left.digitLimit = bond.right.digitLimit) (digits : Nat) :
    (ensureReadable digits).Mirrors bond link (Pairing.same).pairs (ensureReadable digits) := by
  refine ⟨follows_ensureReadable trivial, fun wider within store store' linked => ?_⟩
  have reads : bond.left.reads digits = bond.right.reads digits := by
    unfold Host.reads
    rw [sameLimit]
  simp only [ensureReadable, reads, Host.tooLong, sameLimit]
  cases bond.right.reads digits with
  | true => exact Bond.meets_done linked rfl
  | false => exact Bond.meets_stopped linked (.fault _)

theorem mirrors_textOf (reading : bond.Reading) (paired : link.Pairs value other) :
    (textOf value).Mirrors bond link (Pairing.same).pairs (textOf other) := by
  refine mirrors_spell reading.sameLimit (fun _ within _ _ linked text shown => ?_) fun _ within _ _ linked none => ?_
  · exact ⟨reading.text? linked (paired.mono within) shown, reading.integers linked (paired.mono within) shown⟩
  · refine reading.stuck.imp (fun stuck => stuck (Store.picture?_eq_none_of_text? none)) fun looks => ?_
    exact (looks linked (paired.mono within)).text.symm.trans none

theorem mirrors_quantityOf (reading : bond.Reading) (paired : link.Pairs value other) :
    (quantityOf value).Mirrors bond link (Pairing.same).pairs (quantityOf other) := by
  refine mirrors_spell reading.sameLimit (fun _ within _ _ linked quantity counted => ?_)
    fun _ within _ _ linked none => ?_
  · exact ⟨reading.quantity? linked (paired.mono within) counted,
      reading.integersOfQuantity linked (paired.mono within) counted⟩
  · obtain ⟨inner, undrawn⟩ := Store.exists_picture?_eq_none_of_quantity? none
    refine reading.stuck.imp (fun stuck => stuck undrawn) fun looks => ?_
    exact (looks linked (paired.mono within)).quantity.symm.trans none

theorem mirrors_typeOf (reading : bond.Reading) (paired : link.Pairs value other) :
    (typeOf value).Mirrors bond link (Pairing.same).pairs (typeOf other) := by
  refine mirrors_read? (fun _ within _ _ linked type typed =>
    ⟨type, reading.type? linked (paired.mono within) typed, rfl⟩) fun _ within _ _ linked none => ?_
  refine reading.stuck.imp (fun stuck => stuck (Option.map_eq_none_iff.mp none)) fun looks => ?_
  rw [← (looks linked (paired.mono within)).type, none]

theorem mirrors_elements (reading : bond.Reading) {ref ref' : ArrayRef} (paired : link.arrays ref ref') :
    (read (·.elements ref)).Mirrors bond link Pairing.array.pairs (read (·.elements ref')) :=
  mirrors_read fun _ within _ _ linked => reading.elements linked (within.arrays paired)

theorem mirrors_entries (reading : bond.Reading) {ref ref' : ObjectRef} (paired : link.objects ref ref') :
    (read (·.entries ref)).Mirrors bond link Pairing.table.pairs (read (·.entries ref')) :=
  mirrors_read fun _ within _ _ linked => reading.entries linked (within.objects paired)

theorem mirrors_newArray (growing : bond.Growing) {elements others : Array Value}
    (paired : Pairing.array.pairs link elements others) :
    (newArray elements).Mirrors bond link Pairing.value.pairs (newArray others) := by
  have created : (create (·.addArray elements)).Mirrors bond link Pairing.arrayRef.pairs
      (create (·.addArray others)) :=
    mirrors_create (fun _ => growing.sturdy.addArray) fun wider within store store' linked =>
      growing.addArray linked (Pairing.array.mono paired within)
  exact created.bind fun _ _ _ _ paired => mirrors_pure (.array paired)

theorem mirrors_newObject (growing : bond.Growing) {entries others : Table Value}
    (distinct : entries.keys.Nodup) (otherDistinct : others.keys.Nodup)
    (paired : Pairing.entries.pairs link entries others) :
    (newObject entries).Mirrors bond link Pairing.value.pairs (newObject others) := by
  have created : (create (·.addObject entries)).Mirrors bond link Pairing.objectRef.pairs
      (create (·.addObject others)) :=
    mirrors_create (fun _ lost => growing.sturdy.addObject lost distinct)
      fun wider within store store' linked => growing.addObject linked distinct otherDistinct
        (Pairing.entries.mono paired within)
  exact created.bind fun _ _ _ _ paired => mirrors_pure (.object paired)

theorem follows_updateArray (faithful : bond.Faithful) (ref : ArrayRef) (change : Array Value → Array Value) :
    (Exec.change (·.updateArray ref change)).Follows bond.losing := follows_change fun _ => faithful.sturdy.updateArray

end Exec

/-! ## Operators -/

namespace Operator

open Exec

variable {bond : Bond} {link : Link} {left left' right right' : Value}

theorem mirrors_elementType (reading : bond.Reading) {elements others : Array Value}
    (paired : Pairing.array.pairs link elements others) :
    (elementType elements).Mirrors bond link (Pairing.same).pairs (elementType others) := by
  refine (mirrors_each (paired.imp fun _ _ element => mirrors_typeOf reading element)).bind ?_
  intro wider _ types types' same
  have equal : types = types' := List.forall₂_eq_eq_eq ▸ same
  exact mirrors_pure (congrArg Ty.common equal)

theorem mirrors_join (growing : bond.Growing) {ref ref' other other' : ArrayRef}
    (leftPaired : link.arrays ref ref') (rightPaired : link.arrays other other') :
    (join ref other).Mirrors bond link Pairing.value.pairs (join ref' other') := by
  have reading := growing.toReading
  refine (mirrors_elements reading leftPaired).bind fun first to₁ elements elements' leftElements => ?_
  refine (mirrors_elements reading (to₁.arrays rightPaired)).bind
    fun second to₂ others others' rightElements => ?_
  replace leftElements := Pairing.array.mono leftElements to₂
  refine (mirrors_elementType reading leftElements).bind_same fun third to₃ leftType => ?_
  refine (mirrors_elementType reading (Pairing.array.mono rightElements to₃)).bind_same
    fun last to₄ rightType => ?_
  split
  · refine mirrors_newArray growing ?_
    rw [Pairing.array]
    simp only [Array.toList_append]
    exact List.rel_append (Pairing.array.mono leftElements (to₃.trans to₄))
      (Pairing.array.mono rightElements (to₃.trans to₄))
  · exact mirrors_fail (.refl _)

theorem mirrors_applyArithmetic (operator : Operator) (leftPaired : link.Pairs left left')
    (rightPaired : link.Pairs right right') :
    (operator.applyArithmetic left right).Mirrors bond link Pairing.value.pairs
      (operator.applyArithmetic left' right') := by
  have alike := leftPaired.notNumeric rightPaired operator
  cases leftPaired with
  | number left =>
    cases rightPaired with
    | number right =>
      refine (mirrors_ofArithmetic (operator.calculate left right)).bind_same fun _ _ result => ?_
      exact mirrors_pure (.number result)
    | _ => exact mirrors_fail alike
  | string left =>
    cases rightPaired with
    | string right =>
      change (if operator = plus then pure (.string (left ++ right)) else _ : Exec Value).Mirrors bond
        link _ (if operator = plus then pure (.string (left ++ right)) else _)
      split
      · exact mirrors_pure (Link.Pairs.string _)
      · exact mirrors_fail alike
    | _ => exact mirrors_fail alike
  | _ => exact mirrors_fail alike

/-- An ordering compares two numbers or two texts, and refuses everything else. -/
theorem applyComparison_cases {operator : Operator} (notEqual : operator ≠ .equal)
    (notUnequal : operator ≠ .notEqual) (left right : Value) :
    (∃ verdict, operator.applyComparison left right = pure (.bool verdict) ∧
      ((∃ l r, left = .number l ∧ right = .number r) ∨ ∃ l r, left = .string l ∧ right = .string r)) ∨
    operator.applyComparison left right = Exec.fail (.badOperands (.notComparable operator left right)) ∧
      (∀ l r, left = .number l → right = .number r → False) ∧
      ∀ l r, left = .string l → right = .string r → False := by
  unfold applyComparison
  split
  · exact absurd rfl notEqual
  · exact absurd rfl notUnequal
  · exact .inl ⟨_, rfl, .inl ⟨_, _, rfl, rfl⟩⟩
  · exact .inl ⟨_, rfl, .inr ⟨_, _, rfl, rfl⟩⟩
  · next noNumbers noTexts => exact .inr ⟨rfl, noNumbers, noTexts⟩

/-- Comparisons come out the same, if equality does where it is asked for. -/
theorem mirrors_applyComparison (operator : Operator) (leftPaired : link.Pairs left left')
    (rightPaired : link.Pairs right right')
    (equal : operator = .equal ∨ operator = .notEqual →
      left.strictEquals right = left'.strictEquals right') :
    (operator.applyComparison left right).Mirrors bond link Pairing.value.pairs
      (operator.applyComparison left' right') := by
  have answer (verdict : Bool) : (pure (.bool verdict) : Exec Value).Mirrors bond link Pairing.value.pairs
      (pure (.bool verdict)) := mirrors_pure (Link.Pairs.bool verdict)
  by_cases isEqual : operator = .equal
  · subst isEqual
    unfold applyComparison
    dsimp only
    rw [equal (.inl rfl)]
    exact answer _
  by_cases isUnequal : operator = .notEqual
  · subst isUnequal
    unfold applyComparison
    dsimp only
    rw [equal (.inr rfl)]
    exact answer _
  rcases applyComparison_cases isEqual isUnequal left right with
    ⟨verdict, ends, ⟨l, r, rfl, rfl⟩ | ⟨l, r, rfl, rfl⟩⟩ | ⟨ends, noNumbers, noTexts⟩
  · cases leftPaired
    cases rightPaired
    rw [ends]
    exact answer verdict
  · cases leftPaired
    cases rightPaired
    rw [ends]
    exact answer verdict
  · rcases applyComparison_cases isEqual isUnequal left' right' with
      ⟨_, _, ⟨l, r, rfl, rfl⟩ | ⟨l, r, rfl, rfl⟩⟩ | ⟨ends', -, -⟩
    · cases leftPaired
      cases rightPaired
      exact (noNumbers l r rfl rfl).elim
    · cases leftPaired
      cases rightPaired
      exact (noTexts l r rfl rfl).elim
    · rw [ends, ends']
      exact mirrors_fail (leftPaired.notComparable rightPaired operator)

theorem mirrors_applyBoolean (operator : Operator) (leftPaired : link.Pairs left left')
    (rightPaired : link.Pairs right right') :
    (operator.applyBoolean left right).Mirrors bond link Pairing.value.pairs
      (operator.applyBoolean left' right') := by
  unfold applyBoolean
  rw [leftPaired.isTruthy_eq, rightPaired.isTruthy_eq]
  refine (mirrors_ofArithmetic _).bind_same fun _ _ holds => ?_
  split
  · refine (mirrors_ofArithmetic _).bind_same fun _ _ verdict => ?_
    exact mirrors_pure (Link.Pairs.bool verdict)
  · exact mirrors_pure (Link.Pairs.bool holds)

/-- Operators do the same to paired operands; if equality is asked for, they have to be equal in both
runs or in neither. -/
theorem mirrors_apply (growing : bond.Growing) (operator : Operator) (leftPaired : link.Pairs left left')
    (rightPaired : link.Pairs right right')
    (equal : operator = .equal ∨ operator = .notEqual →
      left.strictEquals right = left'.strictEquals right') :
    (operator.apply left right).Mirrors bond link Pairing.value.pairs (operator.apply left' right') := by
  unfold apply
  cases operator.category with
  | arithmetic => exact mirrors_applyArithmetic operator leftPaired rightPaired
  | comparison => exact mirrors_applyComparison operator leftPaired rightPaired equal
  | boolean => exact mirrors_applyBoolean operator leftPaired rightPaired
  | concat =>
    have alike := leftPaired.notTwoArrays rightPaired
    cases leftPaired with
    | array leftRef =>
      cases rightPaired with
      | array rightRef => exact mirrors_join growing leftRef rightRef
      | _ => exact mirrors_fail alike
    | _ => exact mirrors_fail alike
  | textConcat =>
    refine (mirrors_textOf growing.toReading leftPaired).bind_same fun wider within leftText => ?_
    refine (mirrors_textOf growing.toReading (rightPaired.mono within)).bind_same fun _ _ rightText => ?_
    exact mirrors_pure (Link.Pairs.string _)

end Operator

/-! ## Properties -/

open Exec

variable {bond : Bond} {link : Link} {value other target target' key key' : Value}

theorem mirrors_positionOf? (sameLimit : bond.left.digitLimit = bond.right.digitLimit) (paired : link.Pairs key key') :
    (positionOf? key).Mirrors bond link (Pairing.same).pairs (positionOf? key') := by
  cases paired with
  | string text =>
    unfold positionOf?
    dsimp only
    split
    · refine (mirrors_ensureReadable sameLimit _).bind_same fun _ _ _ => ?_
      split
      · exact mirrors_ofArithmetic _
      · exact mirrors_crash _
    · exact mirrors_pure rfl
  | number n => exact mirrors_ofArithmetic _
  | _ => exact mirrors_pure rfl

/-- Items are read from sequences of one size by paired keys. -/
theorem mirrors_readItem (sameLimit : bond.left.digitLimit = bond.right.digitLimit) (size : Nat) {item item' : Nat → Value}
    (items : ∀ wider, link ≤ wider → ∀ position, wider.Pairs (item position) (item' position))
    (paired : link.Pairs key key') :
    (readItem size item key).Mirrors bond link Pairing.value.pairs (readItem size item' key') := by
  have isLength : key = .string "length" ↔ key' = .string "length" := by
    cases paired <;> simp
  unfold readItem
  simp only [isLength]
  split
  · exact mirrors_pure (Link.Pairs.number _)
  · refine (mirrors_positionOf? sameLimit paired).bind_same fun wider within position => ?_
    cases position with
    | none => exact mirrors_pure Link.Pairs.undefined
    | some position =>
      dsimp only
      split
      · exact mirrors_pure (items wider within position)
      · exact mirrors_pure Link.Pairs.undefined

theorem mirrors_readProperty (reading : bond.Reading) (paired : link.Pairs target target')
    (keyPaired : link.Pairs key key') :
    (readProperty target key).Mirrors bond link Pairing.value.pairs (readProperty target' key') := by
  cases paired with
  | @object ref ref' paired =>
    have entry (wider : Link) (within : link ≤ wider) (name : String) : (do
        let entries ← Exec.read (·.entries ref)
        pure ((entries.get? name).getD .undefined)).Mirrors bond wider Pairing.value.pairs (do
        let entries ← Exec.read (·.entries ref')
        pure ((entries.get? name).getD .undefined)) := by
      refine (mirrors_entries reading (within.objects paired)).bind fun last _ entries others names => ?_
      have known := names name
      generalize entries.get? name = found at known ⊢
      generalize others.get? name = found' at known ⊢
      cases known with
      | none => exact mirrors_pure Link.Pairs.undefined
      | some item => exact mirrors_pure item
    have named {name : Exec String} {name' : Exec String}
        (steps : name.Mirrors bond link (Pairing.same).pairs name') : (name >>= fun name => do
          let entries ← Exec.read (·.entries ref)
          pure ((entries.get? name).getD .undefined)).Mirrors bond link Pairing.value.pairs
        (name' >>= fun name => do
          let entries ← Exec.read (·.entries ref')
          pure ((entries.get? name).getD .undefined)) := by
      refine steps.bind_same fun wider within name => ?_
      exact entry wider within name
    have text := mirrors_textOf reading keyPaired
    cases keyPaired with
    | string text => exact named (mirrors_pure rfl)
    | _ => exact named text
  | @array ref ref' paired =>
    refine (mirrors_elements reading paired).bind fun wider within elements others items => ?_
    have sizes : others.size = elements.size := by
      have lengths := items.length_eq
      simpa using lengths.symm
    rw [sizes]
    refine mirrors_readItem reading.sameLimit _ (fun last further position => ?_) (keyPaired.mono within)
    have item := Link.Pairs.getD (Pairing.value.list.mono items further) position
    simpa [Array.getD_eq_getD_getElem?, List.getD_eq_getElem?_getD] using item
  | string text =>
    exact mirrors_readItem reading.sameLimit _ (fun _ _ _ => .string _) keyPaired
  | _ => exact mirrors_pure Link.Pairs.undefined

theorem pairs_writeAt {elements others : Array Value} (items : Pairing.array.pairs link elements others)
    (position : Nat) (paired : link.Pairs value other) :
    Pairing.array.pairs link (writeAt position value elements) (writeAt position other others) := by
  have sizes : elements.size = others.size := by simpa using items.length_eq
  have padded := List.rel_append items (pairs_replicate_undefined (position + 1 - others.size))
  simpa [Pairing.array, writeAt, sizes] using Link.Pairs.set padded position paired

theorem mirrors_writeElement (faithful : bond.Faithful) (gains : bond.gains)
    (paired : link.Pairs target target')
    (keyPaired : link.Pairs key key') (newPaired : link.Pairs value other) :
    (writeElement target key value).MirrorsFrom (fun store => ∀ ref result after, target = .array ref →
        writeElement target key value bond.left store = .done result after → ¬ bond.frozen store (.array ref))
      bond link Pairing.value.pairs (writeElement target' key' other) := by
  refine ⟨follows_writeElement faithful.sturdy bond.losing_permissive.tolerant.operating target key value,
    fun wider within store store' linked unfrozen => ?_⟩
  replace paired := paired.mono within
  replace keyPaired := keyPaired.mono within
  replace newPaired := newPaired.mono within
  have noArray := paired.notAnArray
  have noNumber := keyPaired.indexNotNumber
  cases paired with
  | @array ref ref' paired =>
    cases keyPaired with
    | number n =>
      have sizes : (store'.elements ref').size = (store.elements ref).size := by
        have lengths := (faithful.elements linked paired).length_eq
        simpa using lengths.symm
      have room : bond.right.room = bond.left.room := by rw [faithful.hosts]
      cases found : n.toIndex? with
      | error cause =>
        rw [writeElement_of_toIndex?_error found, writeElement_of_toIndex?_error found]
        exact Bond.meets_stopped linked (.fault _)
      | ok position? =>
        cases position? with
        | none =>
          rw [writeElement_of_toIndex?_none found, writeElement_of_toIndex?_none found]
          exact Bond.meets_stopped linked (.failure (.refl _))
        | some position =>
          specialize unfrozen ref
          rw [writeElement_of_toIndex? found] at unfrozen ⊢
          rw [writeElement_of_toIndex? found, sizes, room]
          split
          · exact Bond.meets_stopped linked (.fault _)
          · split
            · exact Bond.meets_stopped linked (.fault _)
            · next fits enough =>
              rw [if_neg fits, if_neg enough] at unfrozen
              refine Bond.meets_done ?_ newPaired
              exact faithful.updateArray linked paired (unfrozen _ _ rfl rfl) (.inl gains) fun _ _ items =>
                pairs_writeAt items position newPaired
    | _ => exact Bond.meets_stopped linked (.failure noNumber)
  | _ => exact Bond.meets_stopped linked (.failure noArray)

/-! ## Methods -/

/-- Calls of paired functions with paired arguments are mirrored, now and later. -/
def Caller.Mirrors (bond : Bond) (link : Link) (call call' : Caller) : Prop :=
  ∀ wider, link ≤ wider → ∀ ref ref' args args', wider.functions ref ref' →
    Pairing.value.list.pairs wider args args' →
    (call ref args).Mirrors bond wider Pairing.value.pairs (call' ref' args')

section Methods

variable {args args' : List Value} {call call' : Caller} {ref ref' : ArrayRef}

theorem TextMethod.mirrors_bound (reading : bond.Reading) (length ending : Nat)
    (paired : link.Pairs value other) :
    (bound length ending value).Mirrors bond link (Pairing.same).pairs (bound length ending other) := by
  unfold bound
  rw [paired.isUndefined_eq]
  split
  · exact mirrors_pure rfl
  · refine (mirrors_quantityOf reading paired).bind_same fun _ _ quantity => ?_
    exact mirrors_pure rfl

theorem TextMethod.mirrors_apply (reading : bond.Reading) (method : TextMethod) (text : String)
    (paired : Pairing.value.list.pairs link args args') :
    (method.apply text args).Mirrors bond link Pairing.value.pairs (method.apply text args') := by
  cases method with
  | slice =>
    refine (mirrors_bound reading _ _ (Link.Pairs.getD paired 0)).bind_same fun wider within start => ?_
    refine (mirrors_bound reading _ _ ((Link.Pairs.getD paired 1).mono within)).bind_same
      fun _ _ stop => ?_
    exact mirrors_pure (Link.Pairs.string _)
  | parseInt =>
    refine (mirrors_ensureReadable reading.sameLimit _).bind_same fun _ _ _ => ?_
    exact mirrors_pure (Link.Pairs.number _)
  | length | parseFloat => exact mirrors_pure (Link.Pairs.number _)
  | toUpperCase | toLowerCase => exact mirrors_pure (Link.Pairs.string _)

theorem ArrayMethod.mirrors_callback (method : ArrayMethod)
    (paired : Pairing.value.list.pairs link args args') :
    (method.callback args).Mirrors bond link Pairing.functionRef.pairs (method.callback args') := by
  have first := Link.Pairs.getD paired 0
  unfold callback
  generalize args.getD 0 .undefined = callback at first ⊢
  generalize args'.getD 0 .undefined = callback' at first ⊢
  cases first with
  | function paired => exact mirrors_pure paired
  | _ => exact mirrors_fail (.refl _)

theorem mirrors_arraySize (reading : bond.Reading) (paired : link.arrays ref ref') : (do
    let elements ← Exec.read (·.elements ref)
    pure (.int elements.size) : Exec Value).Mirrors bond link Pairing.value.pairs (do
    let elements ← Exec.read (·.elements ref')
    pure (.int elements.size)) := by
  refine (mirrors_elements reading paired).bind fun wider _ elements others items => ?_
  have sizes : elements.size = others.size := by simpa using items.length_eq
  rw [sizes]
  exact mirrors_pure (Link.Pairs.number _)

/-- The last elements of paired arrays are paired. -/
theorem pairs_back? {elements others : Array Value} (items : Pairing.array.pairs link elements others) :
    Pairing.value.option.pairs link elements.back? others.back? := by
  have fromEnd (array : Array Value) : array.back? = array.toList.reverse.head? := by simp
  have reversed := List.forall₂_reverse_iff.mpr items
  rw [fromEnd, fromEnd]
  generalize elements.toList.reverse = items at reversed ⊢
  generalize others.toList.reverse = others at reversed ⊢
  cases reversed with
  | nil => exact .none
  | cons last _ => exact .some last

theorem pairs_dropLast (paired : Pairing.value.list.pairs link args args') :
    Pairing.value.list.pairs link args.dropLast args'.dropLast := by
  induction paired with
  | nil => exact .nil
  | cons head tail ih =>
    cases tail with
    | nil => exact .nil
    | cons next tail => exact .cons head ih

theorem ArrayMethod.eq_name_of_ofName? {name : String} {method : ArrayMethod} (found : ofName? name = some method) :
    name = method.name := by
  unfold ofName? at found
  split at found <;> cases found <;> rfl

/-- The methods that change the array itself. -/
def ArrayMethod.isChange : ArrayMethod → Bool
  | push | pop => true
  | _ => false

theorem ArrayMethod.mirrors_apply (faithful : bond.Faithful) (calls : Caller.Mirrors bond link call call')
    (method : ArrayMethod) (may : bond.gains ∨ method ≠ .push) (paired : link.arrays ref ref')
    (argsPaired : Pairing.value.list.pairs link args args') :
    (method.apply call ref args).MirrorsFrom (fun store => method.isChange = true → ¬ bond.frozen store (.array ref))
      bond link Pairing.value.pairs (method.apply call' ref' args') := by
  have reading := faithful.toReading
  cases method with
  | length => exact (mirrors_arraySize reading paired).from _
  | push =>
    have gains : bond.gains := may.resolve_right fun other => other rfl
    refine ⟨(follows_updateArray faithful ref _).bind fun _ => (mirrors_arraySize reading paired).keeps,
      fun wider within store store' linked unfrozen => ?_⟩
    have here := within.arrays paired
    have pushed (elements others : Array Value) (items : Pairing.array.pairs wider elements others) :
        Pairing.array.pairs wider (elements ++ args.toArray) (others ++ args'.toArray) := by
      simpa [Pairing.array, Pairing.list] using List.rel_append items (Pairing.value.list.mono argsPaired within)
    have after := faithful.updateArray linked here (unfrozen rfl) (.inl gains) pushed
    exact (mirrors_arraySize reading here).meets wider le_rfl _ _ after
  | pop =>
    refine ⟨(follows_read _).bind fun _ => (follows_updateArray faithful ref _).bind fun _ => follows_pure _,
      fun wider within store store' linked unfrozen => ?_⟩
    have here := within.arrays paired
    refine Bond.meets_done (faithful.updateArray linked here (unfrozen rfl) (.inr onlyDrops_pop) ?_) ?_
    · intro elements others items
      simpa [Pairing.array, Pairing.list] using pairs_dropLast items
    · have last := pairs_back? (reading.elements linked here)
      dsimp only
      generalize (store.elements ref).back? = value at last ⊢
      generalize (store'.elements ref').back? = value' at last ⊢
      cases last with
      | none => exact .undefined
      | some paired => exact paired
  | map =>
    refine Mirrors.from ?_ _
    refine (mirrors_callback _ argsPaired).bind fun first to₁ function function' functions => ?_
    refine (mirrors_elements reading (to₁.arrays paired)).bind fun second to₂ elements others items => ?_
    have each : (Exec.each (fun element => call function [element]) elements.toList).Mirrors bond second
        Pairing.value.list.pairs (Exec.each (fun element => call' function' [element]) others.toList) :=
      mirrors_each (items.imp fun element element' item =>
        calls second (to₁.trans to₂) _ _ _ _ (to₂.functions functions) (.cons item .nil))
    exact each.bind fun last to₃ results results' paired => mirrors_newArray faithful.toGrowing paired
  | filter =>
    refine Mirrors.from ?_ _
    refine (mirrors_callback _ argsPaired).bind fun first to₁ function function' functions => ?_
    refine (mirrors_elements reading (to₁.arrays paired)).bind fun second to₂ elements others items => ?_
    have each : (Exec.each (fun element => do
        let verdict ← call function [element]
        let keep ← Exec.ofArithmetic verdict.isTruthy
        return if keep then [element] else []) elements.toList).Mirrors bond second
        Pairing.value.list.list.pairs (Exec.each (fun element => do
        let verdict ← call' function' [element]
        let keep ← Exec.ofArithmetic verdict.isTruthy
        return if keep then [element] else []) others.toList) := by
      refine mirrors_each (items.imp fun element element' item => ?_)
      refine (calls second (to₁.trans to₂) _ _ _ _ (to₂.functions functions) (.cons item .nil)).bind
        fun third to₃ verdict verdict' paired => ?_
      rw [paired.isTruthy_eq]
      refine (mirrors_ofArithmetic _).bind_same fun last to₄ keep => ?_
      cases keep with
      | false => exact mirrors_pure List.Forall₂.nil
      | true => exact mirrors_pure (List.Forall₂.cons (item.mono (to₃.trans to₄)) .nil)
    refine each.bind fun last to₃ results results' paired => ?_
    exact mirrors_newArray faithful.toGrowing (List.rel_flatten paired)

/-- Methods do the same to paired receivers and arguments. -/
theorem mirrors_applyMethod (faithful : bond.Faithful) (calls : Caller.Mirrors bond link call call')
    (paired : link.Pairs target target') (method : String) (may : bond.gains ∨ method ≠ "push")
    (argsPaired : Pairing.value.list.pairs link args args') :
    (applyMethod call target method args).MirrorsFrom (fun store => ∀ ref, target = .array ref →
        method = "push" ∨ method = "pop" → ¬ bond.frozen store (.array ref))
      bond link Pairing.value.pairs (applyMethod call' target' method args') := by
  have text := mirrors_textOf faithful.toReading paired
  cases paired with
  | undefined | null => exact (mirrors_fail (.refl _)).from _
  | string text =>
    refine Mirrors.from ?_ _
    unfold applyMethod
    dsimp only
    split
    · exact TextMethod.mirrors_apply faithful.toReading _ _ argsPaired
    · exact mirrors_fail (.refl _)
  | @array ref ref' paired =>
    unfold applyMethod
    dsimp only
    cases found : ArrayMethod.ofName? method with
    | none => exact (mirrors_fail (.refl _)).from _
    | some known =>
      obtain rfl := ArrayMethod.eq_name_of_ofName? found
      have apply := known.mirrors_apply faithful calls (may.imp id fun other push => other (by rw [push]; rfl)) paired
        argsPaired
      refine ⟨apply.keeps, fun wider within store store' linked unfrozen => ?_⟩
      refine apply.meets wider within store store' linked fun change => unfrozen ref rfl ?_
      cases known with
      | push => exact .inl rfl
      | pop => exact .inr rfl
      | _ => cases change
  | number | bigint =>
    refine Mirrors.from ?_ _
    unfold applyMethod
    dsimp only
    split
    · refine text.bind_same fun _ _ text => ?_
      exact mirrors_pure (Link.Pairs.string text)
    · exact mirrors_fail (.refl _)
  | object paired =>
    refine Mirrors.from ?_ _
    refine (mirrors_entries faithful.toReading paired).bind fun wider within entries others names => ?_
    have known := names method
    generalize entries.get? method = found at known ⊢
    generalize others.get? method = found' at known ⊢
    cases known with
    | none => exact mirrors_fail (.refl _)
    | some item =>
      cases item with
      | function paired => exact calls wider within _ _ _ _ paired (Pairing.value.list.mono argsPaired within)
      | _ => exact mirrors_fail (.refl _)
  | bool | symbol | function => exact (mirrors_fail (.refl _)).from _

end Methods

/-! ## Built-ins -/

namespace Builtin

variable {args args' : List Value} (faithful : bond.Faithful)

include faithful

theorem mirrors_fetchText (address : String) :
    (fetchText address).Mirrors bond link Pairing.value.pairs (fetchText address) := by
  refine mirrors_host (fun host => ?_) ?_
  · refine (follows_change fun _ => faithful.sturdy.fetchStarted).bind fun _ => ?_
    split
    · exact follows_pure _
    · exact (follows_change fun _ => faithful.sturdy.fetchFailed).bind fun _ => follows_fail trivial
    · exact follows_crash trivial
  · rw [faithful.hosts]
    refine (mirrors_change (fun _ => faithful.recordLost) fun _ _ _ _ linked => faithful.record linked rfl).bind
      fun _ _ _ _ _ => ?_
    dsimp only
    split
    · exact mirrors_pure (Link.Pairs.string _)
    · refine (mirrors_change (fun _ => faithful.recordLost) fun _ _ _ _ linked => faithful.record linked rfl).bind
        fun _ _ _ _ _ => ?_
      exact mirrors_fail (.refl _)
    · exact mirrors_crash _

/-- Both hosts give the same answers. -/
theorem mirrors_request {answer : Host → Nat → Value}
    (same : ∀ count, ∀ wider, link ≤ wider → wider.Pairs (answer bond.left count) (answer bond.right count)) :
    (request answer).Mirrors bond link Pairing.value.pairs (request answer) := by
  refine ⟨follows_request faithful.sturdy answer, fun wider within store store' linked => ?_⟩
  refine Bond.meets_done (faithful.request linked) ?_
  rw [faithful.requests linked]
  exact same _ wider within

/-- Built-ins do the same to paired arguments. -/
theorem mirrors_perform (function : Builtin) (paired : Pairing.value.list.pairs link args args') :
    (function.perform args).Mirrors bond link Pairing.value.pairs (function.perform args') := by
  have arg := Link.Pairs.getD paired 0
  have onQuantity (answer : Quantity → Value)
      (scalar : ∀ quantity, ∀ wider : Link, wider.Pairs (answer quantity) (answer quantity)) : (do
      let quantity ← Exec.quantityOf (args.getD 0 .undefined)
      return answer quantity).Mirrors bond link Pairing.value.pairs (do
      let quantity ← Exec.quantityOf (args'.getD 0 .undefined)
      return answer quantity) := by
    refine (mirrors_quantityOf faithful.toReading arg).bind_same fun wider _ quantity => ?_
    exact mirrors_pure (scalar quantity wider)
  have onFinite_pairs (whole : Int → Int) (finite : Binary64 → Number) (quantity : Quantity)
      (wider : Link) : wider.Pairs (onFinite whole (fun d => .number (finite d)) quantity)
        (onFinite whole (fun d => .number (finite d)) quantity) := by
    unfold onFinite
    split
    · exact .number _
    · exact .number _
    · split <;> exact .number _
  cases function with
  | print =>
    have texts := mirrors_each (paired.imp fun _ _ item => mirrors_textOf faithful.toReading item)
    refine texts.bind fun _ _ texts texts' same => ?_
    have equal : texts = texts' := List.forall₂_eq_eq_eq ▸ same
    subst equal
    refine (mirrors_change (fun _ => faithful.sturdy.write) fun _ _ _ _ => faithful.write).bind ?_
    exact fun _ _ _ _ _ => mirrors_pure Link.Pairs.undefined
  | typeOf =>
    unfold perform
    dsimp only
    rw [arg.kind_eq]
    exact mirrors_pure (Link.Pairs.string _)
  | now =>
    have answers : (request fun host n => .int (host.clock n)).Mirrors bond link Pairing.value.pairs
        (request fun host n => .int (host.clock n)) := by
      refine mirrors_request faithful fun count wider _ => ?_
      rw [faithful.hosts]
      exact .number _
    exact answers
  | random =>
    have answers : (request fun host n => .number (.float (host.random n))).Mirrors bond link
        Pairing.value.pairs (request fun host n => .number (.float (host.random n))) := by
      refine mirrors_request faithful fun count wider _ => ?_
      rw [faithful.hosts]
      exact .number _
    exact answers
  | isNaN => exact onQuantity _ fun _ _ => .bool _
  | abs => exact onQuantity _ (onFinite_pairs _ fun d => .float d.abs)
  | floor => exact onQuantity _ (onFinite_pairs _ fun d => .int (d.floor?.getD 0))
  | ceil => exact onQuantity _ (onFinite_pairs _ fun d => .int (d.ceil?.getD 0))
  | sqrt =>
    refine (mirrors_quantityOf faithful.toReading arg).bind_same fun _ _ quantity => ?_
    refine (mirrors_ofArithmetic _).bind_same fun _ _ root => ?_
    exact mirrors_pure (Link.Pairs.number _)
  | fetch =>
    refine (mirrors_textOf faithful.toReading arg).bind_same fun _ _ address => ?_
    exact mirrors_fetchText faithful address

theorem mirrors_call (function : Builtin) (paired : Pairing.value.list.pairs link args args') :
    (function.call args).Mirrors bond link Pairing.value.pairs (function.call args') := by
  unfold call
  rw [paired.length_eq]
  split
  · split
    · exact mirrors_perform faithful function paired
    · exact mirrors_crash _
  · exact mirrors_perform faithful function paired

end Builtin

end TreeScript
