import TreeScript.Proofs.Mirror.Views

/-! # Types read off values

The type of a value is read off its picture, so it is canonical. An array or object has the type that is
made of the types of its parts. A value tells its type if it has it in the store and in every store that
adds cells to it; this is so for scalars, and for new arrays and objects whose parts tell their types.
-/

namespace TreeScript

namespace Picture

theorem isCanonical_type (picture : Picture) : picture.type.IsCanonical := by
  induction picture using inductOn with
  | array elements ih =>
    rw [type, types_eq_map]
    exact .array (Ty.isCanonical_common (List.forall_mem_map.mpr ih))
  | object entries ih =>
    rw [type, typesOfEntries_eq_map]
    exact Ty.isCanonical_ofProperties (List.forall_mem_map.mpr ih)
  | reference sort id => cases sort <;> exact .prim _
  | _ => exact .prim _

end Picture

namespace Store

variable {store later : Store} {value : Value} {type : Ty}

theorem isCanonical_type? (told : store.type? value = some type) : type.IsCanonical := by
  obtain ⟨picture, _, rfl⟩ := Option.map_eq_some_iff.mp told
  exact picture.isCanonical_type

/-- Looking deeper shows the same picture. -/
theorem pictureWithin_mono {bound larger : Nat} {picture : Picture}
    (drawn : store.pictureWithin id bound value = some picture) (within : bound ≤ larger) :
    store.pictureWithin id larger value = some picture := by
  induction bound generalizing larger value picture with
  | zero =>
    cases value with
    | array | object => cases drawn
    | _ =>
      rw [pictureWithin] at drawn ⊢
      exact drawn
  | succ bound ih =>
    cases larger with
    | zero => cases within
    | succ larger =>
      have within := Nat.le_of_succ_le_succ within
      cases value with
      | array ref =>
        rw [pictureWithin_array] at drawn ⊢
        obtain ⟨elements, each, rfl⟩ := Option.map_eq_some_iff.mp drawn
        rw [mapM_eq_some_iff] at each
        rw [mapM_eq_some_iff.mpr (each.imp fun element picture drawn => ih drawn within)]
        rfl
      | object ref =>
        rw [pictureWithin_object] at drawn ⊢
        obtain ⟨entries, each, rfl⟩ := Option.map_eq_some_iff.mp drawn
        rw [mapM_eq_some_iff] at each
        have deeper (entry : String × Value) (picture : String × Picture)
            (drawn : store.pictureOfEntry id bound entry = some picture) :
            store.pictureOfEntry id larger entry = some picture := by
          obtain ⟨inner, atEntry, rfl⟩ := Option.map_eq_some_iff.mp drawn
          exact Option.map_eq_some_iff.mpr ⟨inner, ih atEntry within, rfl⟩
        rw [mapM_eq_some_iff.mpr (each.imp deeper)]
        rfl
      | _ =>
        rw [pictureWithin] at drawn ⊢
        exact drawn

/-- A type that is found within any bound is the type of the value. -/
theorem type?_eq_of_typeWithin {bound : Nat} (told : store.typeWithin bound value = some type) :
    store.type? value = some type := by
  obtain ⟨picture, drawn, rfl⟩ := Option.map_eq_some_iff.mp told
  have isDrawn : store.IsDrawn bound value := Option.isSome_iff_exists.mpr ⟨picture, drawn⟩
  obtain ⟨other, atDepth⟩ := Option.isSome_iff_exists.mp isDrawn.within_depth
  have same : some picture = some other :=
    (pictureWithin_mono drawn (Nat.le_max_left bound store.depth)).symm.trans
      (pictureWithin_mono atDepth (Nat.le_max_right bound store.depth))
  rw [Option.some.inj same]
  exact congrArg (Option.map Picture.type) atDepth

theorem type?_array {ref : ArrayRef} {types : List Ty}
    (each : List.Forall₂ (fun value type => store.type? value = some type) (store.elements ref).toList types) :
    store.type? (.array ref) = some (.array (Ty.common types)) := by
  have told : (store.elements ref).toList.mapM (store.typeWithin store.depth) = some types :=
    mapM_eq_some_iff.mpr each
  have within : store.typeWithin (store.depth + 1) (.array ref) = some (.array (Ty.common types)) := by
    rw [typeWithin_array, told]
    rfl
  exact type?_eq_of_typeWithin within

theorem type?_object {ref : ObjectRef} {types : List (String × Ty)}
    (each : Table.Paired (fun value type => store.type? value = some type) (store.entries ref) types) :
    store.type? (.object ref) = some (Ty.ofProperties types) := by
  have drawn (entries : Table Value) (types : List (String × Ty))
      (each : Table.Paired (fun value type => store.type? value = some type) entries types) :
      ∃ pictures, entries.mapM (store.pictureOfEntry id store.depth) = some pictures ∧
        Picture.typesOfEntries pictures = types := by
    induction each with
    | nil => exact ⟨[], rfl, rfl⟩
    | @cons entry property _ _ first _ ih =>
      obtain ⟨pictures, later, rfl⟩ := ih
      obtain ⟨picture, atEntry, told⟩ := Option.map_eq_some_iff.mp first.2
      refine ⟨(entry.1, picture) :: pictures, ?_, ?_⟩
      · have atFirst : store.pictureOfEntry id store.depth entry = some (entry.1, picture) :=
          Option.map_eq_some_iff.mpr ⟨picture, atEntry, rfl⟩
        rw [List.mapM_cons, atFirst, later]
        rfl
      · rw [Picture.typesOfEntries, told, first.1]
  obtain ⟨pictures, drawn, rfl⟩ := drawn _ _ each
  have within : store.typeWithin (store.depth + 1) (.object ref) =
      some (Ty.ofProperties (Picture.typesOfEntries pictures)) := by
    rw [typeWithin, pictureWithin_object, drawn]
    rfl
  exact type?_eq_of_typeWithin within

/-- A value whose type is primitive has it. -/
theorem HasType.of_type? {tag : Primitive} (told : store.type? value = some (.prim tag)) :
    store.HasType (.prim tag) value := by
  obtain ⟨picture, drawn, same⟩ := Option.map_eq_some_iff.mp told
  unfold picture? at drawn
  generalize store.depth = bound at drawn
  cases value with
  | array ref =>
    cases bound with
    | zero => cases drawn
    | succ bound =>
      rw [pictureWithin_array] at drawn
      obtain ⟨elements, -, rfl⟩ := Option.map_eq_some_iff.mp drawn
      cases same
  | object ref =>
    cases bound with
    | zero => cases drawn
    | succ bound =>
      rw [pictureWithin_object] at drawn
      obtain ⟨entries, -, rfl⟩ := Option.map_eq_some_iff.mp drawn
      cases same
  | function ref =>
    rw [pictureWithin] at drawn
    cases drawn
    generalize store.functions[ref]? = cell at same
    cases cell with
    | none =>
      cases same
      exact .any _
    | some callable => cases callable <;> cases same <;> exact .any _
  | _ =>
    rw [pictureWithin] at drawn
    cases drawn
    cases same
    constructor

/-! ## Values that tell their types -/

/-- The value has the type, also after cells have been added to the store. -/
def Tells (store : Store) (value : Value) (type : Ty) : Prop :=
  ∀ later, store.Extends later → later.type? value = some type

theorem Tells.type? (tells : store.Tells value type) : store.type? value = some type := tells store (.refl store)

theorem Tells.extend (tells : store.Tells value type) (grown : store.Extends later) : later.Tells value type :=
  fun last more => tells last (grown.trans more)

/-- A new array tells the type that is made of the types of its elements. -/
theorem tells_addArray {values : List Value} {types : List Ty} (each : List.Forall₂ store.Tells values types) :
    (store.addArray values.toArray).2.Tells (.array store.arrays.size) (.array (Ty.common types)) := by
  intro later grown
  have found : later.elements store.arrays.size = values.toArray := by
    have held := grown.arrays store.arrays.size values.toArray (by simp [addArray])
    rw [elements, Array.getD_eq_getD_getElem?, held]
    rfl
  refine type?_array ?_
  rw [found]
  exact each.imp fun value type tells => tells later ((Extends.addArray store _).trans grown)

theorem tells_addObject {entries : Table Value} {types : List (String × Ty)}
    (each : Table.Paired store.Tells entries types) :
    (store.addObject entries).2.Tells (.object store.objects.size) (Ty.ofProperties types) := by
  intro later grown
  have found : later.entries store.objects.size = entries := by
    have held := grown.objects store.objects.size entries (by simp [addObject])
    rw [Store.entries, Array.getD_eq_getD_getElem?, held]
    rfl
  refine type?_object ?_
  rw [found]
  exact each.imp fun value type tells => ⟨tells.1, tells.2 later ((Extends.addObject store _).trans grown)⟩

end Store

end TreeScript
