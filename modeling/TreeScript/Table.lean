/-! # Tables keyed by text

A table lists its entries in the order in which their keys were first written. Writing a key again
keeps its place and takes the later value.
-/

namespace TreeScript

abbrev Table (α : Type) := List (String × α)

namespace Table

variable {α β : Type}

def get? : Table α → String → Option α
  | [], _ => none
  | (key, value) :: rest, name => if key = name then some value else get? rest name

def put : Table α → String → α → Table α
  | [], name, value => [(name, value)]
  | (key, old) :: rest, name, value =>
    if key = name then (key, value) :: rest else (key, old) :: put rest name value

/-- The table that results from writing the entries one after the other. -/
def ofList (entries : List (String × α)) : Table α :=
  entries.foldl (fun table (name, value) => table.put name value) []

def keys (table : Table α) : List String := table.map (·.1)

/-- The entries in increasing order of their keys. -/
def sorted (table : Table α) : Table α := table.mergeSort fun left right => left.1 ≤ right.1

@[simp] theorem get?_nil (name : String) : get? ([] : Table α) name = none := rfl

@[simp] theorem get?_put_self (table : Table α) (name : String) (value : α) :
    (table.put name value).get? name = some value := by
  induction table with
  | nil => simp [put, get?]
  | cons entry rest ih =>
    obtain ⟨key, old⟩ := entry
    by_cases same : key = name <;> simp [put, get?, same, ih]

theorem get?_put_of_ne (table : Table α) {name other : String} (value : α) (differ : other ≠ name) :
    (table.put name value).get? other = table.get? other := by
  induction table with
  | nil => simp [put, get?, differ.symm]
  | cons entry rest ih =>
    obtain ⟨key, old⟩ := entry
    by_cases same : key = name
    · subst same
      simp [put, get?, differ.symm]
    · by_cases hit : key = other
      · subst hit
        simp [put, get?, same]
      · simp [put, get?, same, hit, ih]

theorem mem_keys_put {table : Table α} {name other : String} {value : α} :
    other ∈ (table.put name value).keys ↔ other = name ∨ other ∈ table.keys := by
  induction table with
  | nil => simp [put, keys]
  | cons entry rest ih =>
    obtain ⟨key, old⟩ := entry
    by_cases same : key = name
    · subst same
      simp [put, keys]
    · simp only [put, same, if_false, keys, List.map_cons, List.mem_cons] at ih ⊢
      rw [ih]
      exact or_left_comm

/-- Writing a key never makes it occur twice. -/
theorem nodup_keys_put {table : Table α} (name : String) (value : α) (distinct : table.keys.Nodup) :
    (table.put name value).keys.Nodup := by
  induction table with
  | nil => simp [put, keys]
  | cons entry rest ih =>
    obtain ⟨key, old⟩ := entry
    obtain ⟨absent, tail⟩ := List.nodup_cons.mp distinct
    by_cases same : key = name
    · subst same
      simpa [put, keys] using distinct
    · have kept : key ∉ (put rest name value).keys := by
        rw [mem_keys_put]
        exact fun either => either.elim same absent
      simpa [put, same, keys] using List.nodup_cons.mpr ⟨kept, ih tail⟩

/-- The keys of a table written entry by entry are distinct. -/
theorem nodup_keys_ofList (entries : List (String × α)) : (ofList entries).keys.Nodup := by
  have fold (table : Table α) (distinct : table.keys.Nodup) :
      (entries.foldl (fun table (name, value) => table.put name value) table).keys.Nodup := by
    induction entries generalizing table with
    | nil => exact distinct
    | cons entry rest ih => exact ih _ (nodup_keys_put _ _ distinct)
  exact fold [] List.nodup_nil

end Table

end TreeScript
