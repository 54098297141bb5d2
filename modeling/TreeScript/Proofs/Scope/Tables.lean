import Mathlib.Data.List.Forall2
import Mathlib.Data.List.Nodup
import TreeScript.Table

/-! # What a table holds

Tables that are written entry by entry hold, for each name, one of the values that were written for it.
Tables that are written side by side, with related values under the same names, hold related values.
-/

namespace TreeScript.Table

variable {α β : Type} {name : String} {table : Table α} {value : α}

theorem mem_of_get?_eq_some (found : table.get? name = some value) : (name, value) ∈ table := by
  induction table with
  | nil => cases found
  | cons entry rest ih =>
    obtain ⟨key, old⟩ := entry
    rw [get?] at found
    split at found
    · next same =>
      cases found
      exact same ▸ List.mem_cons_self
    · exact List.mem_cons_of_mem _ (ih found)

theorem mem_put {entry : String × α} (member : entry ∈ table.put name value) :
    entry.2 = value ∨ entry ∈ table := by
  induction table with
  | nil => exact .inl (List.mem_singleton.mp member ▸ rfl)
  | cons first rest ih =>
    rw [put] at member
    split at member
    · rcases List.mem_cons.mp member with same | old
      · exact .inl (same ▸ rfl)
      · exact .inr (List.mem_cons_of_mem _ old)
    · rcases List.mem_cons.mp member with same | other
      · exact .inr (same ▸ List.mem_cons_self ..)
      · exact (ih other).imp id (List.mem_cons_of_mem _)

theorem mem_keys_iff : name ∈ table.keys ↔ ∃ value, table.get? name = some value := by
  induction table with
  | nil => simp [keys]
  | cons entry rest ih =>
    obtain ⟨key, old⟩ := entry
    by_cases same : key = name
    · simp [keys, get?, same]
    · simp only [get?, if_neg same, ← ih]
      simp [keys, Ne.symm same]

/-- With distinct keys a table holds one value for each name. -/
theorem get?_eq_some_iff_mem (distinct : table.keys.Nodup) :
    table.get? name = some value ↔ (name, value) ∈ table := by
  refine ⟨mem_of_get?_eq_some, fun member => ?_⟩
  induction table with
  | nil => cases member
  | cons entry rest ih =>
    obtain ⟨key, old⟩ := entry
    obtain ⟨absent, tail⟩ := List.nodup_cons.mp distinct
    rw [get?]
    rcases List.mem_cons.mp member with same | later
    · cases same
      rw [if_pos rfl]
    · have differ : key ≠ name := fun same =>
        absent (List.mem_map.mpr ⟨(name, value), later, same.symm⟩)
      rw [if_neg differ]
      exact ih tail later

/-- Tables with distinct names hold the same entries exactly if they agree on every name. -/
theorem perm_iff_get?_eq {left right : Table α} (leftDistinct : left.keys.Nodup)
    (rightDistinct : right.keys.Nodup) :
    left.Perm right ↔ ∀ name, left.get? name = right.get? name := by
  rw [List.perm_ext_iff_of_nodup (.of_map _ leftDistinct) (.of_map _ rightDistinct)]
  constructor
  · intro same name
    refine Option.ext fun value => ?_
    rw [get?_eq_some_iff_mem leftDistinct, get?_eq_some_iff_mem rightDistinct, same]
  · rintro same ⟨name, value⟩
    rw [← get?_eq_some_iff_mem leftDistinct, ← get?_eq_some_iff_mem rightDistinct, same]

theorem get?_foldl_put (entries : List (String × α)) (table : Table α) (name : String) :
    (entries.foldl (fun table (name, value) => table.put name value) table).get? name =
      table.get? name ∧ name ∉ entries.map (·.1) ∨
    ∃ value, (name, value) ∈ entries ∧
      (entries.foldl (fun table (name, value) => table.put name value) table).get? name =
        some value := by
  induction entries generalizing table with
  | nil => exact .inl ⟨rfl, by simp⟩
  | cons entry rest ih =>
    obtain ⟨key, value⟩ := entry
    rcases ih (table.put key value) with ⟨same, absent⟩ | ⟨later, member, found⟩
    · by_cases hit : name = key
      · subst hit
        exact .inr ⟨value, List.mem_cons_self .., same.trans (get?_put_self ..)⟩
      · refine .inl ⟨same.trans (get?_put_of_ne _ _ hit), ?_⟩
        simpa [hit] using absent
    · exact .inr ⟨later, List.mem_cons_of_mem _ member, found⟩

/-- Parameters are bound to arguments. -/
theorem get?_ofList_zip {names : List String} {values : List α} (enough : values.length = names.length)
    (member : name ∈ names) :
    ∃ value ∈ values, (ofList (names.zip values)).get? name = some value := by
  rcases get?_foldl_put (names.zip values) [] name with ⟨-, absent⟩ | ⟨value, pair, found⟩
  · have all : (names.zip values).map (·.1) = names := List.map_fst_zip (Nat.le_of_eq enough.symm)
    exact absurd member (all ▸ absent)
  · exact ⟨value, (List.of_mem_zip pair).2, found⟩

theorem get?_ofList_zip_of_not_mem {names : List String} {values : List α} (absent : name ∉ names) :
    (ofList (names.zip values)).get? name = none := by
  rcases get?_foldl_put (names.zip values) [] name with ⟨same, -⟩ | ⟨value, pair, -⟩
  · exact same
  · exact absurd (List.of_mem_zip pair).1 absent

/-! ## Related tables -/

/-- Two tables have the same names in the same order, with related values. -/
def Paired (related : α → β → Prop) : Table α → Table β → Prop :=
  List.Forall₂ fun entry other => entry.1 = other.1 ∧ related entry.2 other.2

namespace Paired

variable {related : α → β → Prop} {entries : Table α} {others : Table β}

theorem put (paired : Paired related entries others) (name : String) {other : β} (item : related value other) :
    Paired related (entries.put name value) (others.put name other) := by
  induction paired with
  | nil => exact .cons ⟨rfl, item⟩ .nil
  | @cons entry entry' entries others head tail ih =>
    obtain ⟨key, old⟩ := entry
    obtain ⟨key', old'⟩ := entry'
    obtain ⟨same, old⟩ := head
    cases same
    unfold Table.put
    split
    · exact .cons ⟨rfl, item⟩ tail
    · exact .cons ⟨rfl, old⟩ ih

theorem ofList (paired : Paired related entries others) :
    Paired related (Table.ofList entries) (Table.ofList others) := by
  have writing (table : Table α) (table' : Table β) (tables : Paired related table table') :
      Paired related (entries.foldl (fun (table : Table α) (name, value) => table.put name value) table)
        (others.foldl (fun (table : Table β) (name, value) => table.put name value) table') := by
    induction paired generalizing table table' with
    | nil => exact tables
    | @cons entry entry' _ _ head _ ih =>
      obtain ⟨key, value⟩ := entry
      obtain ⟨key', value'⟩ := entry'
      obtain ⟨same, item⟩ := head
      cases same
      exact ih _ _ (tables.put key item)
  exact writing [] [] .nil

theorem get? (paired : Paired related entries others) (name : String) :
    Option.Rel related (entries.get? name) (others.get? name) := by
  induction paired with
  | nil => exact .none
  | @cons entry entry' _ _ head _ ih =>
    obtain ⟨key, value⟩ := entry
    obtain ⟨key', value'⟩ := entry'
    obtain ⟨same, item⟩ := head
    cases same
    simp only [Table.get?]
    split
    · exact .some item
    · exact ih

theorem zip (names : List String) {values : List α} {values' : List β}
    (items : List.Forall₂ related values values') :
    Paired related (names.zip values) (names.zip values') := by
  induction items generalizing names with
  | nil =>
    rw [List.zip_nil_right, List.zip_nil_right]
    exact .nil
  | cons head _ ih =>
    cases names with
    | nil => exact .nil
    | cons name names => exact .cons ⟨rfl, head⟩ (ih names)

end Paired

end TreeScript.Table
