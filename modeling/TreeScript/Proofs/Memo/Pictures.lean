import Mathlib.Data.Fintype.Sum
import Mathlib.Data.List.Forall2
import TreeScript.Store.Picture

/-! # Which values have pictures

A value without cycles has a picture. The search for it goes as deep as the store has cells, and that
is enough: if one more level lets no further cell be drawn, no number of levels does.
-/

namespace TreeScript

/-- Mapping with a partial function gives a result for each element, or none at all. -/
theorem mapM_eq_some_iff {α β : Type} {f : α → Option β} {xs : List α} {ys : List β} :
    xs.mapM f = some ys ↔ List.Forall₂ (fun x y => f x = some y) xs ys := by
  induction xs generalizing ys with
  | nil =>
    rw [List.mapM_nil, List.forall₂_nil_left_iff]
    exact Option.some_inj.trans eq_comm
  | cons x xs ih =>
    simp only [List.mapM_cons, Option.bind_eq_bind, Option.bind_eq_some_iff, Option.pure_def,
      Option.some.injEq, List.forall₂_cons_left_iff]
    constructor
    · rintro ⟨y, first, ys, later, rfl⟩
      exact ⟨y, ys, first, ih.mp later, rfl⟩
    · rintro ⟨y, ys, first, later, rfl⟩
      exact ⟨y, first, ys, ih.mpr later, rfl⟩

theorem isSome_mapM_iff {α β : Type} {f : α → Option β} {xs : List α} :
    (xs.mapM f).isSome = true ↔ ∀ x ∈ xs, (f x).isSome = true := by
  induction xs with
  | nil => simp
  | cons x xs ih =>
    simp only [List.mapM_cons, Option.bind_eq_bind, List.forall_mem_cons, ← ih]
    cases f x <;> cases xs.mapM f <;> simp

namespace Store

variable {store : Store}

/-- The values that are directly inside a value. -/
def contents (store : Store) : Value → List Value
  | .array ref => (store.elements ref).toList
  | .object ref => (store.entries ref).map (·.2)
  | _ => []

/-- A value without cycles: going inside again and again comes to an end. -/
def IsAcyclic (store : Store) (value : Value) : Prop :=
  Acc (fun inner outer => inner ∈ store.contents outer) value

/-- A value has a picture within a bound. -/
def IsDrawn (store : Store) (bound : Nat) (value : Value) : Prop :=
  (store.pictureWithin id bound value).isSome = true

instance (store : Store) (bound : Nat) : DecidablePred (store.IsDrawn bound) := fun value =>
  inferInstanceAs (Decidable ((store.pictureWithin id bound value).isSome = true))

/-- The picture of an entry of an object. -/
def pictureOfEntry (store : Store) (identity : FunctionRef → Nat) (bound : Nat) (entry : String × Value) :
    Option (String × Picture) := (store.pictureWithin identity bound entry.2).map (entry.1, ·)

variable {identity : FunctionRef → Nat}

theorem pictureWithin_array (store : Store) (bound : Nat) (ref : ArrayRef) :
    store.pictureWithin identity (bound + 1) (.array ref) =
      ((store.elements ref).toList.mapM (store.pictureWithin identity bound)).map .array := by
  rw [pictureWithin]
  exact Option.map_eq_bind.symm

theorem pictureWithin_object (store : Store) (bound : Nat) (ref : ObjectRef) :
    store.pictureWithin identity (bound + 1) (.object ref) =
      ((store.entries ref).mapM (store.pictureOfEntry identity bound)).map .object := by
  have each : (fun entry : String × Value => do
      return (entry.1, ← store.pictureWithin identity bound entry.2)) = store.pictureOfEntry identity bound := by
    funext entry
    exact Option.map_eq_bind.symm
  rw [pictureWithin, ← each]
  exact Option.map_eq_bind.symm

variable {value : Value} {bound : Nat}

/-- Whether a value can be drawn does not depend on the numbers of functions. -/
theorem isSome_pictureWithin : (store.pictureWithin identity bound value).isSome = true ↔ store.IsDrawn bound value := by
  induction bound generalizing value with
  | zero => cases value <;> rfl
  | succ bound ih =>
    cases value with
    | array ref =>
      simp only [IsDrawn, pictureWithin_array, Option.isSome_map, isSome_mapM_iff] at ih ⊢
      simp only [ih]
    | object ref =>
      simp only [IsDrawn, pictureWithin_object, pictureOfEntry, Option.isSome_map, isSome_mapM_iff] at ih ⊢
      simp only [ih]
    | _ => rfl

/-- A value is drawn one level deeper than what is inside it. -/
theorem isDrawn_succ :
    store.IsDrawn (bound + 1) value ↔ ∀ inner ∈ store.contents value, store.IsDrawn bound inner := by
  cases value with
  | array ref => simp only [IsDrawn, pictureWithin_array, Option.isSome_map, isSome_mapM_iff, contents]
  | object ref =>
    simp only [IsDrawn, pictureWithin_object, pictureOfEntry, Option.isSome_map, isSome_mapM_iff,
      contents, List.forall_mem_map]
  | _ => simp [IsDrawn, pictureWithin, contents]

theorem isDrawn_of_contents_eq_nil (empty : store.contents value = []) (bound : Nat) :
    store.IsDrawn (bound + 1) value := by
  rw [isDrawn_succ, empty]
  exact List.forall_mem_nil _

/-- Drawing deeper draws no less. -/
theorem IsDrawn.succ (drawn : store.IsDrawn bound value) : store.IsDrawn (bound + 1) value := by
  induction bound generalizing value with
  | zero =>
    cases value with
    | array | object => cases drawn
    | _ => exact isDrawn_of_contents_eq_nil rfl 0
  | succ bound ih =>
    rw [isDrawn_succ] at drawn ⊢
    exact fun inner inside => ih (drawn inner inside)

theorem IsDrawn.mono {bound larger : Nat} (drawn : store.IsDrawn bound value) (within : bound ≤ larger) :
    store.IsDrawn larger value := by
  induction within with
  | refl => exact drawn
  | step _ ih => exact ih.succ

/-- The cells of a store. -/
def cell (store : Store) : Fin store.arrays.size ⊕ Fin store.objects.size → Value
  | .inl ref => .array ref
  | .inr ref => .object ref

/-- What is inside no cell of the store has nothing inside it. -/
theorem contents_eq_nil_or_cell (store : Store) (value : Value) :
    store.contents value = [] ∨ ∃ place, value = store.cell place := by
  cases value with
  | array ref =>
    by_cases inStore : ref < store.arrays.size
    · exact .inr ⟨.inl ⟨ref, inStore⟩, rfl⟩
    · left
      simp [contents, elements, inStore]
  | object ref =>
    by_cases inStore : ref < store.objects.size
    · exact .inr ⟨.inr ⟨ref, inStore⟩, rfl⟩
    · left
      simp [contents, entries, inStore]
  | _ => exact .inl rfl

/-- The cells that are drawn within a positive bound. -/
def drawnCells (store : Store) (bound : Nat) :
    Finset (Fin store.arrays.size ⊕ Fin store.objects.size) :=
  {place | store.IsDrawn (bound + 1) (store.cell place)}

theorem mem_drawnCells {place : Fin store.arrays.size ⊕ Fin store.objects.size} :
    place ∈ store.drawnCells bound ↔ store.IsDrawn (bound + 1) (store.cell place) := by
  simp [drawnCells]

theorem drawnCells_mono : Monotone store.drawnCells := by
  intro bound larger within place
  simp only [mem_drawnCells]
  exact fun drawn => drawn.mono (Nat.succ_le_succ within)

/-- If one more level draws no further cell, then it draws no further value. -/
theorem isDrawn_of_drawnCells_eq {bound larger : Nat}
    (settled : store.drawnCells bound = store.drawnCells larger) (drawn : store.IsDrawn (larger + 1) value) :
    store.IsDrawn (bound + 1) value := by
  rcases store.contents_eq_nil_or_cell value with empty | ⟨place, rfl⟩
  · exact isDrawn_of_contents_eq_nil empty bound
  · rw [← mem_drawnCells, settled, mem_drawnCells]
    exact drawn

/-- Once a level draws no further cell, the next one draws none either. -/
theorem drawnCells_settle (settled : (store.drawnCells bound).card = (store.drawnCells (bound + 1)).card) :
    (store.drawnCells (bound + 1)).card = (store.drawnCells (bound + 2)).card := by
  have same : store.drawnCells bound = store.drawnCells (bound + 1) :=
    Finset.eq_of_subset_of_card_le (drawnCells_mono (Nat.le_succ bound)) settled.ge
  refine le_antisymm (Finset.card_le_card (drawnCells_mono (Nat.le_succ _))) (Finset.card_le_card ?_)
  intro place drawn
  rw [mem_drawnCells, isDrawn_succ] at drawn ⊢
  exact fun inner inside => isDrawn_of_drawnCells_eq same (drawn inner inside)

/-- What is drawn within any bound is drawn within the depth of the store. -/
theorem IsDrawn.within_depth (drawn : store.IsDrawn bound value) :
    store.IsDrawn store.depth value := by
  have bounded (level : Nat) :
      (store.drawnCells level).card ≤ store.arrays.size + store.objects.size := by
    simpa using Finset.card_le_univ (store.drawnCells level)
  have stable : (store.drawnCells (bound + (store.arrays.size + store.objects.size))).card =
      (store.drawnCells (store.arrays.size + store.objects.size)).card :=
    Nat.stabilises_of_monotone (fun _ _ within => Finset.card_le_card (drawnCells_mono within)) bounded
      (fun _ settled => drawnCells_settle settled) (Nat.le_add_left _ _)
  have same := Finset.eq_of_subset_of_card_le
    (drawnCells_mono (Nat.le_add_left (store.arrays.size + store.objects.size) bound)) stable.le
  exact isDrawn_of_drawnCells_eq same (drawn.mono (by omega))

/-- Values that are drawn one by one are drawn within one bound. -/
theorem exists_isDrawn_all {values : List Value} (each : ∀ value ∈ values, ∃ bound, store.IsDrawn bound value) :
    ∃ bound, ∀ value ∈ values, store.IsDrawn bound value := by
  induction values with
  | nil => exact ⟨0, List.forall_mem_nil _⟩
  | cons value values ih =>
    obtain ⟨first, others⟩ := List.forall_mem_cons.mp each
    obtain ⟨bound, drawn⟩ := first
    obtain ⟨larger, later⟩ := ih others
    refine ⟨max bound larger, List.forall_mem_cons.mpr ⟨drawn.mono (le_max_left _ _), ?_⟩⟩
    exact fun value inside => (later value inside).mono (le_max_right _ _)

theorem IsAcyclic.exists_isDrawn (acyclic : store.IsAcyclic value) :
    ∃ bound, store.IsDrawn bound value := by
  induction acyclic with
  | intro value _ ih =>
    obtain ⟨bound, drawn⟩ := exists_isDrawn_all ih
    exact ⟨bound + 1, isDrawn_succ.mpr drawn⟩

/-- Every value without cycles has a picture. -/
theorem IsAcyclic.exists_picture (acyclic : store.IsAcyclic value) :
    ∃ picture, store.picture? value identity = some picture := by
  obtain ⟨bound, drawn⟩ := acyclic.exists_isDrawn
  exact Option.isSome_iff_exists.mp (isSome_pictureWithin.mpr drawn.within_depth)

end Store

end TreeScript
