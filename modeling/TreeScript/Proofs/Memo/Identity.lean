import TreeScript.Proofs.Conduct.Execution
import TreeScript.Proofs.Memo.Keys
import TreeScript.Proofs.Memo.Pictures
import TreeScript.Proofs.Scope.Tables

/-! # Keys and identity

Two values are identical when they are built alike from the same data: element by element, and name
by name whatever the order of the names. The keys of two lists of plain values, each taken in its own
store, are equal exactly if the lists are identical.
-/

namespace TreeScript

open Picture

namespace Picture

/-- Tables with distinct names are the same when put in order exactly if they agree on every name. -/
theorem insertionSort_eq_iff {left right : Table Picture} (leftDistinct : left.keys.Nodup)
    (rightDistinct : right.keys.Nodup) :
    left.insertionSort NamesInOrder = right.insertionSort NamesInOrder ↔
      ∀ name, left.get? name = right.get? name := by
  rw [← Table.perm_iff_get?_eq leftDistinct rightDistinct]
  have leftSorted := left.perm_insertionSort NamesInOrder
  have rightSorted := right.perm_insertionSort NamesInOrder
  constructor
  · intro same
    exact leftSorted.symm.trans (same ▸ rightSorted)
  · intro same
    have sorted := leftSorted.trans (same.trans rightSorted.symm)
    refine sorted.eq_of_pairwise ?_ (List.pairwise_insertionSort NamesInOrder left)
      (List.pairwise_insertionSort NamesInOrder right)
    intro entry other inside otherInside before after
    exact List.inj_on_of_nodup_map leftDistinct (leftSorted.mem_iff.mp inside)
      (same.mem_iff.mpr (rightSorted.mem_iff.mp otherInside)) (String.le_antisymm before after)

theorem canonical_array_eq_iff {pictures others : List Picture} :
    (Picture.array pictures).canonical = (Picture.array others).canonical ↔
      pictures.map canonical = others.map canonical := by
  rw [canonical, canonical, canonicalAll_eq_map, canonicalAll_eq_map, Picture.array.injEq]

end Picture

namespace Store

/-- The names in each object are distinct. -/
def NamesDistinct (store : Store) : Prop := ∀ ref, (store.entries ref).keys.Nodup

theorem initial_namesDistinct : Store.initial.NamesDistinct := fun _ => List.nodup_nil

theorem NamesDistinct.addObject {store : Store} (distinct : store.NamesDistinct) {entries : Table Value}
    (names : entries.keys.Nodup) : (store.addObject entries).2.NamesDistinct := by
  intro ref
  have old := distinct ref
  simp only [Store.entries, Store.addObject, Array.getD_eq_getD_getElem?, Array.getElem?_push] at old ⊢
  split
  · exact names
  · exact old

end Store

/-- Keep the names in each object distinct. -/
def Conduct.naming : Conduct where
  holds := Store.NamesDistinct
  writable _ := True
  makes _ := True
  allows _ := True

theorem Conduct.naming_unrestricted : naming.Unrestricted where
  define kept _ := kept
  addFrame kept := kept
  fresh _ := trivial
  addArray kept := kept
  addObject kept names := kept.addObject names
  addFunction kept _ := kept
  made _ _ := trivial
  updateArray kept := kept
  remember kept := kept
  caught kept _ := kept
  memoHit kept := kept
  fetchStarted kept := kept
  fetchFailed kept := kept
  write kept := kept
  request kept := kept
  anyFunction _ := trivial
  anyReason _ := trivial

/-- Every execution keeps the names in each object distinct, so they are in every store that a program
reaches. -/
theorem Node.exec_namesDistinct (node : Node) (effort : Nat) (frame : FrameRef) (host : Host)
    {before : Store} (distinct : before.NamesDistinct) :
    (node.exec effort frame host before).store.NamesDistinct :=
  (node.exec_follows Conduct.naming_unrestricted effort (.inl trivial)).holds_store host distinct

/-- Data, as opposed to symbols and functions, which are known by their identity only. -/
def Value.isData : Value → Bool
  | .symbol _ | .function _ => false
  | _ => true

namespace Store

/-- A value of plain data: neither it nor anything inside it is a symbol or a function, and going
inside again and again comes to an end. -/
inductive IsPlain (store : Store) : Value → Prop
  | intro {value : Value} (data : value.isData = true)
      (inside : ∀ inner ∈ store.contents value, store.IsPlain inner) : store.IsPlain value

variable {store : Store}

theorem IsPlain.isAcyclic {value : Value} (plain : store.IsPlain value) :
    store.IsAcyclic value := by
  induction plain with
  | intro _ _ ih => exact Acc.intro _ ih

/-- A value of one store and a value of another are identical: they are of one kind and the same
datum, arrays element by element and objects name by name. Integers are never identical to doubles;
doubles are the same if they are the same number with the same sign, and there is one NaN. -/
inductive Identical (left right : Store) : Value → Value → Prop
  | undefined : Identical left right .undefined .undefined
  | null : Identical left right .null .null
  | bool (value : Bool) : Identical left right (.bool value) (.bool value)
  | number (value : Number) : Identical left right (.number value) (.number value)
  | bigint (value : Int) : Identical left right (.bigint value) (.bigint value)
  | string (value : String) : Identical left right (.string value) (.string value)
  | array {ref other : ArrayRef}
      (elements : List.Forall₂ (Identical left right) (left.elements ref).toList
        (right.elements other).toList) :
      Identical left right (.array ref) (.array other)
  | object {ref other : ObjectRef}
      (names : ∀ name, name ∈ (left.entries ref).keys ↔ name ∈ (right.entries other).keys)
      (values : ∀ name value otherValue, (left.entries ref).get? name = some value →
        (right.entries other).get? name = some otherValue → Identical left right value otherValue) :
      Identical left right (.object ref) (.object other)

/-- The kind of the pictures of a value. -/
def pictureKind : Value → Picture.Kind
  | .undefined => .undefined
  | .null => .null
  | .bool _ => .bool
  | .number _ => .number
  | .bigint _ => .bigint
  | .string _ => .string
  | .array _ => .array
  | .object _ => .object
  | .symbol _ | .function _ => .reference

variable {identity : FunctionRef → Nat}

/-- The picture of an array is made of the pictures of its elements. -/
theorem eq_array_of_pictureWithin {bound : Nat} {ref : ArrayRef} {picture : Picture}
    (drawn : store.pictureWithin identity bound (.array ref) = some picture) : ∃ bound pictures,
      (store.elements ref).toList.mapM (store.pictureWithin identity bound) = some pictures ∧ .array pictures = picture := by
  cases bound with
  | zero => cases drawn
  | succ bound =>
    rw [pictureWithin_array] at drawn
    exact ⟨bound, Option.map_eq_some_iff.mp drawn⟩

theorem eq_object_of_pictureWithin {bound : Nat} {ref : ObjectRef} {picture : Picture}
    (drawn : store.pictureWithin identity bound (.object ref) = some picture) : ∃ bound pictures,
      (store.entries ref).mapM (store.pictureOfEntry identity bound) = some pictures ∧ .object pictures = picture := by
  cases bound with
  | zero => cases drawn
  | succ bound =>
    rw [pictureWithin_object] at drawn
    exact ⟨bound, Option.map_eq_some_iff.mp drawn⟩

theorem kind_of_pictureWithin {bound : Nat} {value : Value} {picture : Picture}
    (drawn : store.pictureWithin identity bound value = some picture) : picture.kind = pictureKind value := by
  cases value with
  | array ref =>
    obtain ⟨_, elements, -, rfl⟩ := eq_array_of_pictureWithin drawn
    rfl
  | object ref =>
    obtain ⟨_, entries, -, rfl⟩ := eq_object_of_pictureWithin drawn
    rfl
  | _ =>
    rw [pictureWithin] at drawn
    cases drawn
    rfl

theorem kind_canonical (picture : Picture) : picture.canonical.kind = picture.kind := by
  cases picture <;> rfl

theorem Identical.pictureKind_eq {left right : Store} {value other : Value}
    (identical : Identical left right value other) : pictureKind value = pictureKind other := by
  cases identical <;> rfl

variable {left right : Store}

/-- The pictures of a value agree with the pictures of exactly the plain values that are identical
to it. -/
def IsRecognized (identity : FunctionRef → Nat) (left right : Store) (value : Value) : Prop :=
  ∀ {bound picture other otherBound otherPicture}, left.pictureWithin identity bound value = some picture →
    right.IsPlain other → right.pictureWithin identity otherBound other = some otherPicture →
    (picture.canonical = otherPicture.canonical ↔ Identical left right value other)

/-- Lists are recognized element by element. -/
theorem canonicalAll_eq_iff {values others : List Value} {pictures otherPictures : List Picture}
    {bound otherBound : Nat} (recognized : ∀ value ∈ values, IsRecognized identity left right value)
    (plain : ∀ other ∈ others, right.IsPlain other)
    (drawn : values.mapM (left.pictureWithin identity bound) = some pictures)
    (otherDrawn : others.mapM (right.pictureWithin identity otherBound) = some otherPictures) :
    pictures.map canonical = otherPictures.map canonical ↔
      List.Forall₂ (Identical left right) values others := by
  rw [mapM_eq_some_iff] at drawn otherDrawn
  induction drawn generalizing others otherPictures with
  | nil =>
    cases otherDrawn with
    | nil | cons => simp
  | cons first later ih =>
    cases otherDrawn with
    | nil => simp
    | cons otherFirst otherLater =>
      obtain ⟨firstRecognized, laterRecognized⟩ := List.forall_mem_cons.mp recognized
      obtain ⟨firstPlain, laterPlain⟩ := List.forall_mem_cons.mp plain
      rw [List.map_cons, List.map_cons, List.cons.injEq, List.forall₂_cons,
        firstRecognized first firstPlain otherFirst, ih laterRecognized laterPlain otherLater]

/-- What is seen of the pictures of the entries of a table stands under the names of the entries. -/
theorem keys_map_pictures {α : Type} (view : Picture → α) {bound : Nat} {entries : Table Value}
    {pictures : List (String × Picture)} (drawn : entries.mapM (store.pictureOfEntry identity bound) = some pictures) :
    Table.keys (pictures.map fun entry => (entry.1, view entry.2)) = entries.keys := by
  rw [mapM_eq_some_iff] at drawn
  induction drawn with
  | nil => rfl
  | cons first later ih =>
    obtain ⟨picture, -, rfl⟩ := Option.map_eq_some_iff.mp first
    exact congrArg₂ List.cons rfl ih

theorem get?_map_pictures {α : Type} (view : Picture → α) {bound : Nat} {entries : Table Value}
    {pictures : List (String × Picture)} (drawn : entries.mapM (store.pictureOfEntry identity bound) = some pictures)
    (name : String) :
    Table.get? (pictures.map fun entry => (entry.1, view entry.2)) name =
      (entries.get? name).bind fun value => (store.pictureWithin identity bound value).map view := by
  rw [mapM_eq_some_iff] at drawn
  induction drawn with
  | nil => rfl
  | @cons entry _ entries pictures first _ ih =>
    obtain ⟨picture, drawn, rfl⟩ := Option.map_eq_some_iff.mp first
    simp only [List.map_cons, Table.get?]
    by_cases same : entry.1 = name
    · simp [same, drawn]
    · rw [if_neg same, if_neg same, ih]

theorem keys_canonicalEntries {bound : Nat} {entries : Table Value} {pictures : List (String × Picture)}
    (drawn : entries.mapM (store.pictureOfEntry identity bound) = some pictures) :
    Table.keys (canonicalEntries pictures) = entries.keys := by
  rw [canonicalEntries_eq_map, keys_map_pictures canonical drawn]

/-- Objects have the same canonical picture exactly if their members have, name by name. -/
theorem canonical_object_eq_iff {entries others : Table Value} {bound otherBound : Nat}
    {pictures otherPictures : List (String × Picture)} (distinct : entries.keys.Nodup)
    (otherDistinct : others.keys.Nodup) (drawn : entries.mapM (left.pictureOfEntry identity bound) = some pictures)
    (otherDrawn : others.mapM (right.pictureOfEntry identity otherBound) = some otherPictures) :
    (Picture.object pictures).canonical = (Picture.object otherPictures).canonical ↔
      ∀ name, Table.get? (canonicalEntries pictures) name = Table.get? (canonicalEntries otherPictures) name := by
  rw [← keys_canonicalEntries drawn] at distinct
  rw [← keys_canonicalEntries otherDrawn] at otherDistinct
  rw [canonical, canonical, Picture.object.injEq, insertionSort_eq_iff distinct otherDistinct]

theorem get?_canonicalEntries {bound : Nat} {entries : Table Value} {pictures : List (String × Picture)}
    (drawn : entries.mapM (store.pictureOfEntry identity bound) = some pictures) (name : String) :
    entries.get? name = none ∧ Table.get? (canonicalEntries pictures) name = none ∨
      ∃ value picture, entries.get? name = some value ∧
        store.pictureWithin identity bound value = some picture ∧
        Table.get? (canonicalEntries pictures) name = some picture.canonical := by
  rw [canonicalEntries_eq_map, get?_map_pictures canonical drawn]
  cases held : entries.get? name with
  | none => exact .inl ⟨rfl, rfl⟩
  | some value =>
    have each := isSome_mapM_iff.mp (Option.isSome_of_mem drawn) _ (Table.mem_of_get?_eq_some held)
    obtain ⟨picture, shown⟩ : ∃ picture, store.pictureWithin identity bound value = some picture :=
      Option.isSome_iff_exists.mp (by simpa [pictureOfEntry] using each)
    exact .inr ⟨value, picture, rfl, shown, by simp [shown]⟩

/-- Objects are recognized name by name. -/
theorem canonicalEntries_agree_iff {entries others : Table Value} {bound otherBound : Nat}
    {pictures otherPictures : List (String × Picture)}
    (recognized : ∀ entry ∈ entries, IsRecognized identity left right entry.2)
    (plain : ∀ entry ∈ others, right.IsPlain entry.2)
    (drawn : entries.mapM (left.pictureOfEntry identity bound) = some pictures)
    (otherDrawn : others.mapM (right.pictureOfEntry identity otherBound) = some otherPictures) :
    (∀ name, Table.get? (canonicalEntries pictures) name = Table.get? (canonicalEntries otherPictures) name) ↔
      (∀ name, name ∈ entries.keys ↔ name ∈ others.keys) ∧
      ∀ name value other, entries.get? name = some value → others.get? name = some other →
        Identical left right value other := by
  have identical {name : String} {value other : Value} {picture otherPicture : Picture}
      (found : entries.get? name = some value) (otherFound : others.get? name = some other)
      (shown : left.pictureWithin identity bound value = some picture)
      (otherShown : right.pictureWithin identity otherBound other = some otherPicture) :
      picture.canonical = otherPicture.canonical ↔ Identical left right value other :=
    recognized _ (Table.mem_of_get?_eq_some found) shown
      (plain _ (Table.mem_of_get?_eq_some otherFound)) otherShown
  constructor
  · intro agree
    refine ⟨fun name => ?_, fun name value other found otherFound => ?_⟩
    · rw [← keys_canonicalEntries drawn, ← keys_canonicalEntries otherDrawn, Table.mem_keys_iff,
        Table.mem_keys_iff, agree]
    · rcases get?_canonicalEntries drawn name with ⟨absent, -⟩ | ⟨_, picture, held, shown, seen⟩
      · cases found.symm.trans absent
      rcases get?_canonicalEntries otherDrawn name with
        ⟨absent, -⟩ | ⟨_, otherPicture, otherHeld, otherShown, otherSeen⟩
      · cases otherFound.symm.trans absent
      cases found.symm.trans held
      cases otherFound.symm.trans otherHeld
      have same := agree name
      rw [seen, otherSeen] at same
      exact (identical found otherFound shown otherShown).mp (Option.some.inj same)
  · rintro ⟨names, values⟩ name
    have present := names name
    rw [Table.mem_keys_iff, Table.mem_keys_iff] at present
    rcases get?_canonicalEntries drawn name with ⟨absent, unseen⟩ | ⟨value, picture, held, shown, seen⟩
    · rcases get?_canonicalEntries otherDrawn name with ⟨-, otherUnseen⟩ | ⟨other, _, otherHeld, -, -⟩
      · rw [unseen, otherUnseen]
      · obtain ⟨value, held⟩ := present.mpr ⟨other, otherHeld⟩
        cases absent.symm.trans held
    · rcases get?_canonicalEntries otherDrawn name with
        ⟨absent, -⟩ | ⟨other, otherPicture, otherHeld, otherShown, otherSeen⟩
      · obtain ⟨other, otherHeld⟩ := present.mp ⟨value, held⟩
        cases absent.symm.trans otherHeld
      · rw [seen, otherSeen]
        exact congrArg some
          ((identical held otherHeld shown otherShown).mpr (values name value other held otherHeld))

/-- Only values of the same kind need to be told from each other. -/
theorem isRecognized_of_kind {value : Value}
    (told : ∀ {bound picture other otherBound otherPicture}, pictureKind value = pictureKind other →
      left.pictureWithin identity bound value = some picture → right.IsPlain other →
      right.pictureWithin identity otherBound other = some otherPicture →
      (picture.canonical = otherPicture.canonical ↔ Identical left right value other)) :
    IsRecognized identity left right value := by
  intro bound picture other otherBound otherPicture drawn plain otherDrawn
  by_cases kinds : pictureKind value = pictureKind other
  · exact told kinds drawn plain otherDrawn
  · refine iff_of_false (fun same => kinds ?_) fun identical => kinds identical.pictureKind_eq
    rw [← kind_of_pictureWithin drawn, ← kind_of_pictureWithin otherDrawn, ← kind_canonical picture, same,
      kind_canonical]

theorem isRecognized_array {ref : ArrayRef}
    (recognized : ∀ value ∈ (left.elements ref).toList, IsRecognized identity left right value) :
    IsRecognized identity left right (.array ref) := by
  refine isRecognized_of_kind fun {_ _ other _ _} kinds drawn plain otherDrawn => ?_
  cases other with
  | array other =>
    obtain ⟨_, pictures, shown, rfl⟩ := eq_array_of_pictureWithin drawn
    obtain ⟨_, otherPictures, otherShown, rfl⟩ := eq_array_of_pictureWithin otherDrawn
    obtain ⟨-, inside⟩ := plain
    rw [canonical_array_eq_iff, canonicalAll_eq_iff recognized inside shown otherShown]
    refine ⟨.array, fun identical => ?_⟩
    cases identical with
    | array elements => exact elements
  | _ => cases kinds

theorem isRecognized_object {ref : ObjectRef} (distinct : left.NamesDistinct)
    (otherDistinct : right.NamesDistinct)
    (recognized : ∀ entry ∈ left.entries ref, IsRecognized identity left right entry.2) :
    IsRecognized identity left right (.object ref) := by
  refine isRecognized_of_kind fun {_ _ other _ _} kinds drawn plain otherDrawn => ?_
  cases other with
  | object other =>
    obtain ⟨_, pictures, shown, rfl⟩ := eq_object_of_pictureWithin drawn
    obtain ⟨_, otherPictures, otherShown, rfl⟩ := eq_object_of_pictureWithin otherDrawn
    obtain ⟨-, inside⟩ := plain
    rw [canonical_object_eq_iff (distinct ref) (otherDistinct other) shown otherShown,
      canonicalEntries_agree_iff recognized (List.forall_mem_map.mp inside) shown otherShown]
    refine ⟨fun parts => .object parts.1 parts.2, fun identical => ?_⟩
    cases identical with
    | object names values => exact ⟨names, values⟩
  | _ => cases kinds

/-- Plain values are recognized by their pictures. -/
theorem IsPlain.isRecognized (distinct : left.NamesDistinct) (otherDistinct : right.NamesDistinct)
    {value : Value} (plain : left.IsPlain value) : IsRecognized identity left right value := by
  induction plain with
  | @intro value data inside ih =>
    cases value with
    | array ref => exact isRecognized_array ih
    | object ref =>
      exact isRecognized_object distinct otherDistinct (List.forall_mem_map.mp ih)
    | symbol | function => cases data
    | undefined | null | bool | number | bigint | string =>
      refine isRecognized_of_kind fun {_ _ other _ _} kinds drawn _ otherDrawn => ?_
      cases other <;> cases kinds
      rw [pictureWithin] at drawn otherDrawn
      cases drawn
      cases otherDrawn
      constructor
      · intro same
        cases same
        constructor
      · intro identical
        cases identical
        rfl

theorem exists_pictures {values : List Value} (plain : ∀ value ∈ values, store.IsPlain value) :
    ∃ pictures, values.mapM (store.picture? · identity) = some pictures := by
  refine Option.isSome_iff_exists.mp (isSome_mapM_iff.mpr fun value member => ?_)
  exact Option.isSome_iff_exists.mpr (plain value member).isAcyclic.exists_picture

/-- The key of a list of values is the key of an array of their pictures. -/
theorem key?_eq_some {values : List Value} {pictures : List Picture}
    (drawn : values.mapM (store.picture? · identity) = some pictures) :
    store.key? values identity = some (String.ofList (Picture.array pictures).keyChars) := by
  rw [key?, drawn, Picture.keyChars, keyCharsOfAll_eq_map]
  rfl

end Store

end TreeScript
