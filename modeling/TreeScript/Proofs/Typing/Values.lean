import Mathlib.Data.List.Forall2
import TreeScript.Exec
import TreeScript.Infer

/-! # Types of values

A value has a type in a store, by the cells it refers to. Nothing is known of a value of the type
`any` or `void`. A value keeps its type as long as arrays and objects are only added, and it has
every type that equals its own.
-/

namespace TreeScript

namespace Store

/-- The arrays and objects of `before` are still there in `after`, with the same contents. -/
structure Extends (before after : Store) : Prop where
  arrays : ∀ (ref : ArrayRef) elements, before.arrays[ref]? = some elements →
    after.arrays[ref]? = some elements
  objects : ∀ (ref : ObjectRef) entries, before.objects[ref]? = some entries →
    after.objects[ref]? = some entries

namespace Extends

theorem refl (store : Store) : store.Extends store := ⟨fun _ _ found => found, fun _ _ found => found⟩

theorem trans {before middle after : Store} (first : before.Extends middle)
    (second : middle.Extends after) : before.Extends after where
  arrays ref elements found := second.arrays ref elements (first.arrays ref elements found)
  objects ref entries found := second.objects ref entries (first.objects ref entries found)

theorem addArray (store : Store) (elements : Array Value) :
    store.Extends (store.addArray elements).2 where
  arrays ref found inside := by
    have bound : ref < store.arrays.size := (Array.getElem?_eq_some_iff.mp inside).1
    simp only [Store.addArray, Array.getElem?_push, if_neg (Nat.ne_of_lt bound), inside]
  objects _ _ found := found

theorem addObject (store : Store) (entries : Table Value) :
    store.Extends (store.addObject entries).2 where
  arrays _ _ found := found
  objects ref found inside := by
    have bound : ref < store.objects.size := (Array.getElem?_eq_some_iff.mp inside).1
    simp only [Store.addObject, Array.getElem?_push, if_neg (Nat.ne_of_lt bound), inside]

end Extends

/-- The values of a type. What an object lacks reads as undefined, so a property that is not there
has a type only if undefined has. -/
inductive HasType (store : Store) : Ty → Value → Prop
  | any (value : Value) : HasType store .any value
  | void (value : Value) : HasType store .void value
  | undefined : HasType store .undefined .undefined
  | null : HasType store .null .null
  | boolean (value : Bool) : HasType store .boolean (.bool value)
  | number (value : Number) : HasType store .number (.number value)
  | string (value : String) : HasType store .string (.string value)
  | bigint (value : Int) : HasType store .bigint (.bigint value)
  | symbol (value : Symbol) : HasType store .symbol (.symbol value)
  | array {element : Ty} {ref : ArrayRef} {elements : Array Value}
      (found : store.arrays[ref]? = some elements)
      (each : ∀ value ∈ elements, HasType store element value) :
      HasType store (.array element) (.array ref)
  | object {properties : List (String × Ty)} {ref : ObjectRef} {entries : Table Value}
      (found : store.objects[ref]? = some entries)
      (each : ∀ name type, Ty.property? properties name = some type →
        HasType store type ((entries.get? name).getD .undefined)) :
      HasType store (.object properties) (.object ref)
  | function {params : List Ty} {result : Ty} {builtin : Option Builtin} (ref : FunctionRef) :
      HasType store (.function params result builtin) (.function ref)

/-- An entry of an object has the name and the type of a property. -/
def EntryHasType (store : Store) (property : String × Ty) (entry : String × Value) : Prop :=
  property.1 = entry.1 ∧ store.HasType property.2 entry.2

end Store

namespace Ty

theorem property?_cons (key name : String) (type : Ty) (rest : List (String × Ty)) :
    property? ((key, type) :: rest) name = if key = name then some type else property? rest name := by
  by_cases same : key = name <;> simp [property?, same]

/-- Each property of an object type has an equal type in an equal object type. -/
theorem sameIn_property {properties others : List (String × Ty)} {name : String} {type : Ty}
    (equal : sameIn properties others = true) (found : property? properties name = some type) :
    ∃ other, property? others name = some other ∧ type.same other = true := by
  induction properties with
  | nil => cases found
  | cons entry rest ih =>
    obtain ⟨key, first⟩ := entry
    rw [sameIn, Bool.and_eq_true] at equal
    rw [property?_cons] at found
    split at found
    · next hit =>
      subst hit
      cases found
      cases atOther : property? others key with
      | none => simp [atOther] at equal
      | some other => exact ⟨other, rfl, by simpa [atOther] using equal.1⟩
    · exact ih equal.2 found

/-- Writing a property changes what is known of that name only. -/
theorem property?_insertProperty (properties : List (String × Ty)) (name other : String) (type : Ty) :
    property? (insertProperty name type properties) other =
      if name = other then some type else property? properties other := by
  induction properties with
  | nil => rw [insertProperty, property?_cons]
  | cons entry rest ih =>
    obtain ⟨key, old⟩ := entry
    rw [insertProperty]
    split
    · rw [property?_cons]
    · split
      · next hit =>
        subst hit
        rw [property?_cons, property?_cons]
        split <;> rfl
      · next differs =>
        rw [property?_cons, property?_cons, ih]
        by_cases same : key = other
        · subst same
          simp only [if_true, if_neg differs]
        · simp only [if_neg same]

theorem eq_prim_of_same {type : Ty} {tag : Primitive} (equal : type.same (.prim tag) = true) :
    type = .prim tag := by
  cases type <;> simp only [same, beq_iff_eq, Bool.false_eq_true] at equal
  rw [equal]

end Ty

namespace Store.HasType

variable {store : Store}

/-- A value has every type that equals its own. -/
theorem of_same {type other : Ty} {value : Value} (typed : store.HasType other value)
    (equal : type.same other = true) : store.HasType type value := by
  induction typed generalizing type with
  | array found each ih =>
    cases type <;> simp only [Ty.same, Bool.false_eq_true] at equal
    exact .array found fun value member => ih value member equal
  | object found each ih =>
    cases type <;> simp only [Ty.same, Bool.and_eq_true, Bool.false_eq_true] at equal
    refine .object found fun name type known => ?_
    obtain ⟨other, atOther, equalAt⟩ := Ty.sameIn_property equal.2 known
    exact ih name other atOther equalAt
  | function ref =>
    cases type <;> simp only [Ty.same, Bool.false_eq_true] at equal
    exact .function ref
  | _ =>
    cases type <;> simp only [Ty.any, Ty.void, Ty.undefined, Ty.null, Ty.boolean, Ty.number, Ty.string,
      Ty.bigint, Ty.symbol, Ty.same, beq_iff_eq, Bool.false_eq_true] at equal
    subst equal
    constructor

/-- A value keeps its type when the store grows. -/
theorem extend {later : Store} {type : Ty} {value : Value} (typed : store.HasType type value)
    (grown : store.Extends later) : later.HasType type value := by
  induction typed with
  | array found _ ih => exact .array (grown.arrays _ _ found) ih
  | object found _ ih => exact .object (grown.objects _ _ found) ih
  | _ => constructor

/-- A value of a type that a declaration accepts is one that it admits. -/
theorem admits {kind : DeclarationKind} {actual expected : Ty} {value : Value}
    (typed : store.HasType actual value) (wanted : kind.expectedType? actual = some expected)
    (equal : actual.same expected = true) : kind.admits value = true := by
  cases kind <;> simp only [DeclarationKind.expectedType?, Option.some.injEq] at wanted
  case array =>
    cases actual <;> simp only [Ty.isArray, Bool.false_eq_true, if_false, reduceCtorEq] at wanted
    cases typed
    rfl
  case object =>
    cases actual <;> simp only [Ty.isObject, Bool.false_eq_true, if_false, reduceCtorEq] at wanted
    cases typed
    rfl
  case function =>
    cases actual <;> simp only [Ty.isFunction, Bool.false_eq_true, if_false, reduceCtorEq] at wanted
    cases typed
    rfl
  all_goals
    subst wanted
    obtain rfl := Ty.eq_prim_of_same equal
    cases typed
    rfl

/-! ## Arrays and objects made of typed parts -/

/-- Values have a type that equals each of the types that they have one by one. -/
private theorem of_all_same {type : Ty} {types : List Ty} {values : List Value}
    (typed : List.Forall₂ store.HasType types values) (equal : ∀ other ∈ types, type.same other = true) :
    ∀ value ∈ values, store.HasType type value := by
  induction typed with
  | nil => exact fun _ member => absurd member List.not_mem_nil
  | cons ofHead _ ih =>
    obtain ⟨equalHead, equalRest⟩ := List.forall_mem_cons.mp equal
    exact List.forall_mem_cons.mpr ⟨ofHead.of_same equalHead, ih equalRest⟩

/-- The common type of types is a type of all values that have them one by one. -/
theorem common {types : List Ty} {values : List Value}
    (typed : List.Forall₂ store.HasType types values) :
    ∀ value ∈ values, store.HasType (Ty.common types) value := by
  cases typed with
  | nil => exact fun _ member => absurd member List.not_mem_nil
  | cons ofHead ofRest =>
    simp only [Ty.common]
    split
    · next equal =>
      exact List.forall_mem_cons.mpr ⟨ofHead, of_all_same ofRest (List.all_eq_true.mp equal)⟩
    · exact fun value _ => .any value

/-- The table has a value of its type for every property that is known. -/
private def Describes (store : Store) (known : List (String × Ty)) (table : Table Value) : Prop :=
  ∀ name type, Ty.property? known name = some type →
    store.HasType type ((table.get? name).getD .undefined)

private theorem Describes.put {known : List (String × Ty)} {table : Table Value}
    (described : Describes store known table) {name : String} {type : Ty} {value : Value}
    (typed : store.HasType type value) :
    Describes store (Ty.insertProperty name type known) (table.put name value) := by
  intro other otherType found
  rw [Ty.property?_insertProperty] at found
  split at found
  · next same =>
    subst same
    cases found
    simpa using typed
  · next differs =>
    rw [Table.get?_put_of_ne table value (Ne.symm differs)]
    exact described other otherType found

/-- The object that is made of named values has the type that is made of their types, also where a
name is repeated. -/
theorem ofProperties {types : List (String × Ty)} {entries : List (String × Value)} {ref : ObjectRef}
    (found : store.objects[ref]? = some (Table.ofList entries))
    (typed : List.Forall₂ store.EntryHasType types entries) :
    store.HasType (Ty.ofProperties types) (.object ref) := by
  have empty : Describes store [] [] := fun _ _ found => by cases found
  refine .object found (List.rel_foldl ?_ empty typed)
  rintro known table described ⟨name, type⟩ ⟨entryName, value⟩ ⟨sameName, ofValue⟩
  cases sameName
  exact described.put ofValue

end Store.HasType

end TreeScript
