import TreeScript.Proofs.Memo.Identity
import TreeScript.Proofs.Mirror.Link
import TreeScript.Proofs.Typing.Identity

/-! # What paired values look like

A value's text, type and quantity are read off the cells that it refers to. Where paired cells have
paired contents, paired values look the same. The second store may hold more cells than the first, so
the descent into it may go deeper; a view that the first store has within its bound is also there
within a larger one.
-/

namespace TreeScript

/-! ## Lists -/

/-- What a partial view sees of each item it also sees of each item paired with it. -/
theorem mapM_eq_some_of_forall₂ {α β γ : Type} {pairs : α → β → Prop} {view : α → Option γ}
    {other : β → Option γ} {items : List α} {others : List β} {seen : List γ}
    (paired : List.Forall₂ pairs items others)
    (same : ∀ item item' result, pairs item item' → view item = some result →
      other item' = some result)
    (all : items.mapM view = some seen) : others.mapM other = some seen := by
  rw [mapM_eq_some_iff] at all ⊢
  induction paired generalizing seen with
  | nil =>
    cases all
    exact .nil
  | cons head _ ih =>
    cases all with
    | cons first rest => exact .cons (same _ _ _ head first) (ih rest)

theorem flatMap_eq_of_forall₂ {α β γ : Type} {pairs : α → β → Prop} {view : α → List γ} {other : β → List γ}
    {items : List α} {others : List β} (paired : List.Forall₂ pairs items others)
    (same : ∀ item item', item ∈ items → pairs item item' → view item = other item') :
    items.flatMap view = others.flatMap other := by
  induction paired with
  | nil => rfl
  | cons head _ ih =>
    rw [List.flatMap_cons, List.flatMap_cons, same _ _ List.mem_cons_self head,
      ih fun item item' member => same item item' (List.mem_cons_of_mem _ member)]

namespace Picture

theorem types_eq_map (pictures : List Picture) : types pictures = pictures.map type := by
  induction pictures with
  | nil => rfl
  | cons picture rest ih => rw [types, ih, List.map_cons]

theorem typesOfEntries_eq_map (entries : List (String × Picture)) :
    typesOfEntries entries = entries.map fun entry => (entry.1, entry.2.type) := by
  induction entries with
  | nil => rfl
  | cons entry rest ih => rw [typesOfEntries, ih, List.map_cons]

end Picture

/-! ## Views -/

/-- Two values look the same, or neither can be looked at. -/
structure Store.LooksLike (store store' : Store) (value other : Value) : Prop where
  text : store.text? value = store'.text? other
  type : store.type? value = store'.type? other
  quantity : store.quantity? value = store'.quantity? other

/-- Two stores have the same arrays and objects, and their functions look the same. -/
structure Store.SameCells (store store' : Store) : Prop where
  arrays : store'.arrays = store.arrays
  objects : store'.objects = store.objects
  names : ∀ ref : FunctionRef, store'.functions[ref]?.map Callable.name = store.functions[ref]?.map Callable.name
  sorts : ∀ ref : FunctionRef, store'.functions[ref]?.map Callable.sort = store.functions[ref]?.map Callable.sort

namespace Store.SameCells

variable {store store' : Store} (same : store.SameCells store')

include same

theorem elements_eq (ref : ArrayRef) : store'.elements ref = store.elements ref := by
  rw [Store.elements, Store.elements, same.arrays]

theorem entries_eq (ref : ObjectRef) : store'.entries ref = store.entries ref := by
  rw [Store.entries, Store.entries, same.objects]

theorem depth_eq : store'.depth = store.depth := by
  rw [Store.depth, Store.depth, same.arrays, same.objects]

theorem textWithin_eq (bound : Nat) (value : Value) :
    store'.textWithin bound value = store.textWithin bound value := by
  induction bound generalizing value with
  | zero => cases value <;> simp [textWithin, same.names]
  | succ bound ih => cases value <;> simp [textWithin, same.names, same.elements_eq, ih]

theorem integersWithin_eq (writesObjects : Bool) (bound : Nat) (value : Value) :
    store'.integersWithin writesObjects bound value = store.integersWithin writesObjects bound value := by
  induction bound generalizing value with
  | zero =>
    cases value with
    | number n => cases n <;> rfl
    | _ => rfl
  | succ bound ih =>
    have inner : store'.integersWithin writesObjects bound = store.integersWithin writesObjects bound := funext ih
    cases value with
    | number n => cases n <;> rfl
    | array | object => simp [integersWithin, same.elements_eq, same.entries_eq, inner]
    | _ => rfl

theorem pictureWithin_eq (identity : FunctionRef → Nat) (bound : Nat) (value : Value) :
    store'.pictureWithin identity bound value = store.pictureWithin identity bound value := by
  induction bound generalizing value with
  | zero => cases value <;> simp [pictureWithin, same.sorts]
  | succ bound ih =>
    have inner : store'.pictureWithin identity bound = store.pictureWithin identity bound := funext ih
    cases value <;> simp [pictureWithin, same.sorts, same.elements_eq, same.entries_eq, inner]

theorem text?_eq (value : Value) : store'.text? value = store.text? value := by
  rw [Store.text?, Store.text?, same.depth_eq, same.textWithin_eq]

theorem integers_eq (writesObjects : Bool) (value : Value) :
    store'.integers writesObjects value = store.integers writesObjects value := by
  rw [Store.integers, Store.integers, same.depth_eq, same.integersWithin_eq]

theorem picture?_eq (value : Value) (identity : FunctionRef → Nat) :
    store'.picture? value identity = store.picture? value identity := by
  rw [Store.picture?, Store.picture?, same.depth_eq, same.pictureWithin_eq]

theorem key?_eq (args : List Value) (identity : FunctionRef → Nat) :
    store'.key? args identity = store.key? args identity := by
  simp only [Store.key?, same.picture?_eq]

theorem looksLike (value : Value) : store.LooksLike store' value value where
  text := (same.text?_eq value).symm
  type := by rw [Store.type?, Store.type?, same.picture?_eq]
  quantity := by cases value <;> simp [Store.quantity?, same.elements_eq, same.text?_eq]

end Store.SameCells

/-- In linked stores paired cells have paired contents, and paired functions have one name. -/
structure Bond.Reading (bond : Bond) : Prop where
  elements : ∀ {link store store' ref other}, bond.linked link store store' →
    link.arrays ref other → Pairing.array.pairs link (store.elements ref) (store'.elements other)
  entries : ∀ {link store store' ref other}, bond.linked link store store' →
    link.objects ref other → Pairing.table.pairs link (store.entries ref) (store'.entries other)
  distinct : ∀ {link store store'}, bond.linked link store store' →
    store.NamesDistinct ∧ store'.NamesDistinct
  names : ∀ {link} {store store' : Store} {ref other : FunctionRef}, bond.linked link store store' →
    link.functions ref other →
    store.functions[ref]?.map Callable.name = store'.functions[other]?.map Callable.name
  /-- The second store is at least as large as the first. -/
  depth : ∀ {link store store'}, bond.linked link store store' → store.depth ≤ store'.depth
  /-- The first run may come to a standstill if a value contains itself, or else both do. -/
  stuck : (∀ {store value}, store.picture? value = none → bond.stuck store) ∨
    ∀ {link store store' value other}, bond.linked link store store' → link.Pairs value other →
      store.LooksLike store' value other
  /-- Both hosts write and read integers up to one length. -/
  sameLimit : bond.left.digitLimit = bond.right.digitLimit

namespace Store

theorem textWithin_array (store : Store) (bound : Nat) (ref : ArrayRef) :
    store.textWithin (bound + 1) (.array ref) =
      ((store.elements ref).toList.mapM fun (element : Value) =>
        if element.isNullish then some "" else store.textWithin bound element).map
          ",".intercalate := by
  rw [textWithin]
  exact Option.map_eq_bind.symm

variable {store : Store}

/-- What has a picture has a text. -/
theorem IsDrawn.isSome_textWithin {bound : Nat} {value : Value} (drawn : store.IsDrawn bound value) :
    (store.textWithin bound value).isSome = true := by
  induction bound generalizing value with
  | zero =>
    cases value with
    | array => cases drawn
    | _ => rfl
  | succ bound ih =>
    cases value with
    | array ref =>
      rw [textWithin_array, Option.isSome_map, isSome_mapM_iff]
      intro element member
      split
      · rfl
      · exact ih (isDrawn_succ.mp drawn element member)
    | _ => rfl

theorem picture?_eq_none_of_text? {value : Value} (textless : store.text? value = none) :
    store.picture? value = none := by
  by_contra other
  have drawn : store.IsDrawn store.depth value := Option.isSome_iff_ne_none.mpr other
  exact Option.isSome_iff_ne_none.mp drawn.isSome_textWithin textless

theorem exists_picture?_eq_none_of_quantity? {value : Value} (uncounted : store.quantity? value = none) :
    ∃ inner, store.picture? inner = none := by
  cases value with
  | array ref =>
    simp only [quantity?] at uncounted
    cases held : (store.elements ref).toList with
    | nil => simp [held] at uncounted
    | cons element rest =>
      cases rest with
      | nil =>
        rw [held] at uncounted
        exact ⟨element, picture?_eq_none_of_text? (Option.map_eq_none_iff.mp uncounted)⟩
      | cons => simp [held] at uncounted
  | _ => cases uncounted

/-- The type of a value within a bound. -/
def typeWithin (store : Store) (bound : Nat) (value : Value) : Option Ty :=
  (store.pictureWithin id bound value).map Picture.type

/-- Whatever sort of function a cell holds, its type is `any`. -/
theorem typeWithin_function (store : Store) (bound : Nat) (ref : FunctionRef) :
    store.typeWithin bound (.function ref) = some .any := by
  rw [typeWithin, pictureWithin, Option.map_some]
  cases store.functions[ref]? with
  | none => rfl
  | some function => cases function <;> rfl

theorem typeWithin_array (store : Store) (bound : Nat) (ref : ArrayRef) :
    store.typeWithin (bound + 1) (.array ref) =
      ((store.elements ref).toList.mapM (store.typeWithin bound)).map
        fun types => .array (Ty.common types) := by
  have through (values : List Value) : values.mapM (store.typeWithin bound) =
      (values.mapM (store.pictureWithin id bound)).map (List.map Picture.type) := by
    induction values with
    | nil => rfl
    | cons value rest ih =>
      simp only [List.mapM_cons, ih, typeWithin]
      cases store.pictureWithin id bound value <;> cases rest.mapM (store.pictureWithin id bound) <;> rfl
  rw [typeWithin, pictureWithin_array, through, Option.map_map, Option.map_map]
  congr 1
  funext pictures
  simp [Picture.type, Picture.types_eq_map]

end Store

namespace Bond.Reading

variable {bond : Bond} {link : Link} {store store' : Store} {value other : Value} (reading : bond.Reading)

include reading

variable (linked : bond.linked link store store')

include linked

/-- Whatever text a value has, a value paired with it has the same, however much deeper the descent
may go. -/
theorem textWithin {bound larger : Nat} (enough : bound ≤ larger) (paired : link.Pairs value other)
    {text : String} (shown : store.textWithin bound value = some text) :
    store'.textWithin larger other = some text := by
  induction bound using Nat.strongRecOn generalizing larger value other text with
  | ind bound ih =>
    cases paired with
    | array paired =>
      cases bound with
      | zero => cases shown
      | succ bound =>
        obtain ⟨larger, rfl⟩ : ∃ less, larger = less + 1 := ⟨larger - 1, by omega⟩
        rw [Store.textWithin_array] at shown ⊢
        obtain ⟨texts, all, rfl⟩ := Option.map_eq_some_iff.mp shown
        rw [mapM_eq_some_of_forall₂ (reading.elements linked paired) ?_ all]
        · rfl
        · intro element element' text paired shown
          rw [paired.isNullish_eq] at shown
          split at shown
          · next nullish => rw [if_pos nullish, shown]
          · next ordinary =>
            rw [if_neg ordinary]
            exact ih bound bound.lt_succ_self (by omega) paired shown
    | function paired =>
      rw [Store.textWithin] at shown ⊢
      rw [← shown, reading.names linked paired]
    | _ =>
      rw [Store.textWithin] at shown ⊢
      exact shown

theorem text? (paired : link.Pairs value other) {text : String} (shown : store.text? value = some text) :
    store'.text? other = some text :=
  reading.textWithin linked (reading.depth linked) paired shown

/-- Whatever integers are written out with the text of a value, those are also written with the text of a value
paired with it. -/
theorem integersWithin {bound larger : Nat} (enough : bound ≤ larger) (paired : link.Pairs value other)
    (shown : (store.textWithin bound value).isSome = true) :
    store.integersWithin false bound value = store'.integersWithin false larger other := by
  induction bound generalizing larger value other with
  | zero =>
    cases paired with
    | array paired => cases shown
    | number n => cases n <;> simp [Store.integersWithin]
    | object => cases larger <;> simp [Store.integersWithin]
    | _ => simp [Store.integersWithin]
  | succ bound ih =>
    obtain ⟨larger, rfl⟩ : ∃ less, larger = less + 1 := ⟨larger - 1, by omega⟩
    cases paired with
    | array paired =>
      rw [Store.textWithin_array, Option.isSome_map, isSome_mapM_iff] at shown
      rw [Store.integersWithin, Store.integersWithin]
      refine flatMap_eq_of_forall₂ (reading.elements linked paired) fun element element' member paired => ?_
      have shown := shown element member
      split at shown
      · cases paired with
        | undefined | null => simp [Store.integersWithin]
        | _ => contradiction
      · exact ih (by omega) paired shown
    | number n => cases n <;> simp [Store.integersWithin]
    | _ => simp [Store.integersWithin]

theorem integers (paired : link.Pairs value other) {text : String} (shown : store.text? value = some text) :
    store.integers false value = store'.integers false other :=
  reading.integersWithin linked (reading.depth linked) paired (Option.isSome_of_mem shown)

/-- The types of objects are compared name by name. -/
theorem typeWithin_object {bound larger : Nat} {ref other : ObjectRef} (paired : link.objects ref other)
    (inside : ∀ {value value' type}, link.Pairs value value' →
      store.typeWithin bound value = some type → store'.typeWithin larger value' = some type) {type : Ty}
    (typed : store.typeWithin (bound + 1) (.object ref) = some type) :
    store'.typeWithin (larger + 1) (.object other) = some type := by
  obtain ⟨distinct, otherDistinct⟩ := reading.distinct linked
  have names := reading.entries linked paired
  rw [Store.typeWithin, Store.pictureWithin_object, Option.map_map] at typed ⊢
  obtain ⟨pictures, drawn, rfl⟩ := Option.map_eq_some_iff.mp typed
  -- Under each name either both objects have nothing, or both have a value, and of one type.
  have seen (name : String) :
      (store.entries ref).get? name = none ∧ (store'.entries other).get? name = none ∨
      ∃ value value' type, (store.entries ref).get? name = some value ∧
        (store'.entries other).get? name = some value' ∧ store.typeWithin bound value = some type ∧
        store'.typeWithin larger value' = some type := by
    have known := names name
    generalize held : (store.entries ref).get? name = found at known ⊢
    generalize (store'.entries other).get? name = found' at known ⊢
    cases known with
    | none => exact .inl ⟨rfl, rfl⟩
    | @some value value' paired =>
      have member := Table.mem_of_get?_eq_some held
      have each := isSome_mapM_iff.mp (Option.isSome_of_mem drawn) _ member
      obtain ⟨type, typed⟩ : ∃ type, store.typeWithin bound value = some type :=
        Option.isSome_iff_exists.mp (by simpa [Store.typeWithin, Store.pictureOfEntry] using each)
      exact .inr ⟨value, value', type, rfl, rfl, typed, inside paired typed⟩
  obtain ⟨pictures', drawn'⟩ : ∃ pictures',
      (store'.entries other).mapM (store'.pictureOfEntry id larger) = some pictures' := by
    refine Option.isSome_iff_exists.mp (isSome_mapM_iff.mpr fun entry member => ?_)
    have held := (Table.get?_eq_some_iff_mem (otherDistinct other)).mpr member
    rcases seen entry.1 with ⟨-, absent⟩ | ⟨_, _, type, -, held', -, typed⟩
    · cases absent.symm.trans held
    · cases held'.symm.trans held
      have drawn := Option.isSome_of_mem typed
      simpa [Store.typeWithin, Store.pictureOfEntry] using drawn
  rw [drawn', Option.map_some, Option.some_inj]
  simp only [Function.comp_apply, Picture.type, Picture.typesOfEntries_eq_map]
  refine Ty.ofProperties_eq_of_get?_eq (Store.keys_map_pictures _ drawn' ▸ otherDistinct other)
    (Store.keys_map_pictures _ drawn ▸ distinct ref) fun name => ?_
  rw [Store.get?_map_pictures _ drawn', Store.get?_map_pictures _ drawn]
  rcases seen name with ⟨absent, absent'⟩ | ⟨_, _, type, held, held', typed, typed'⟩
  · rw [absent, absent']
    rfl
  · rw [held, held']
    exact typed'.trans typed.symm

/-- Whatever type a value has, a value paired with it has the same. -/
theorem typeWithin {bound larger : Nat} (enough : bound ≤ larger) (paired : link.Pairs value other)
    {type : Ty} (typed : store.typeWithin bound value = some type) :
    store'.typeWithin larger other = some type := by
  induction bound using Nat.strongRecOn generalizing larger value other type with
  | ind bound ih =>
    cases paired with
    | array paired =>
      cases bound with
      | zero => cases typed
      | succ bound =>
        obtain ⟨larger, rfl⟩ : ∃ less, larger = less + 1 := ⟨larger - 1, by omega⟩
        rw [Store.typeWithin_array] at typed ⊢
        obtain ⟨types, all, rfl⟩ := Option.map_eq_some_iff.mp typed
        rw [mapM_eq_some_of_forall₂ (reading.elements linked paired) ?_ all]
        · rfl
        · exact fun _ _ _ paired typed => ih bound bound.lt_succ_self (by omega) paired typed
    | object paired =>
      cases bound with
      | zero => cases typed
      | succ bound =>
        obtain ⟨larger, rfl⟩ : ∃ less, larger = less + 1 := ⟨larger - 1, by omega⟩
        exact reading.typeWithin_object linked paired
          (fun paired typed => ih bound bound.lt_succ_self (by omega) paired typed) typed
    | function paired =>
      rw [Store.typeWithin_function] at typed ⊢
      exact typed
    | _ =>
      rw [Store.typeWithin, Store.pictureWithin] at typed ⊢
      exact typed

theorem type? (paired : link.Pairs value other) {type : Ty} (typed : store.type? value = some type) :
    store'.type? other = some type :=
  reading.typeWithin linked (reading.depth linked) paired typed

/-- Whatever quantity a value stands for, a value paired with it stands for the same. -/
theorem quantity? (paired : link.Pairs value other) {quantity : Quantity}
    (counted : store.quantity? value = some quantity) : store'.quantity? other = some quantity := by
  cases paired with
  | @array ref other paired =>
    have elements : List.Forall₂ link.Pairs (store.elements ref).toList (store'.elements other).toList :=
      reading.elements linked paired
    rw [Store.quantity?] at counted ⊢
    generalize (store.elements ref).toList = items at elements counted
    generalize (store'.elements other).toList = others at elements
    cases elements with
    | nil => exact counted
    | cons first rest =>
      cases rest with
      | nil =>
        obtain ⟨text, shown, rfl⟩ := Option.map_eq_some_iff.mp counted
        exact Option.map_eq_some_iff.mpr ⟨text, reading.text? linked first shown, rfl⟩
      | cons => exact counted
  | _ => exact counted

/-- The integers that are written out to count are the same. -/
theorem integersOfQuantity (paired : link.Pairs value other) {quantity : Quantity}
    (counted : store.quantity? value = some quantity) :
    store.integersOfQuantity value = store'.integersOfQuantity other := by
  cases paired with
  | @array ref other paired =>
    have elements : List.Forall₂ link.Pairs (store.elements ref).toList (store'.elements other).toList :=
      reading.elements linked paired
    rw [Store.quantity?] at counted
    unfold Store.integersOfQuantity Store.soleElement?
    dsimp only
    generalize (store.elements ref).toList = items at elements counted ⊢
    generalize (store'.elements other).toList = others at elements ⊢
    cases elements with
    | nil => rfl
    | cons first rest =>
      cases rest with
      | nil =>
        obtain ⟨text, shown, -⟩ := Option.map_eq_some_iff.mp counted
        exact reading.integers linked first shown
      | cons => rfl
  | _ => rfl

end Bond.Reading

end TreeScript
