import TreeScript.Proofs.Scope.Tables
import TreeScript.Proofs.Typing.Values

/-! # When types are the same

Object types keep their properties in increasing order of names, so they can be told apart by what they
know of each name. Types that are made so throughout, and are no signatures of built-in functions, are
the same exactly if they are equal.
-/

namespace TreeScript.Ty

variable {properties others : List (String × Ty)}

/-! ## Properties in order -/

/-- The names are distinct, and in increasing order. -/
def IsSorted (properties : List (String × Ty)) : Prop :=
  properties.Pairwise fun property other => property.1 < other.1

theorem IsSorted.distinct (sorted : IsSorted properties) : (Table.keys properties).Nodup := by
  refine List.pairwise_map.mpr (sorted.imp ?_)
  intro property other before same
  rw [same] at before
  exact String.lt_irrefl _ before

theorem property?_eq_get? (properties : List (String × Ty)) (name : String) :
    property? properties name = Table.get? properties name := by
  induction properties with
  | nil => rfl
  | cons property rest ih => rw [property?_cons, Table.get?, ih]

/-- What is known of each name determines the properties. -/
theorem IsSorted.eq_of_property?_eq (sorted : IsSorted properties) (otherSorted : IsSorted others)
    (same : ∀ name, property? properties name = property? others name) : properties = others := by
  simp only [property?_eq_get?] at same
  have reordered := (Table.perm_iff_get?_eq sorted.distinct otherSorted.distinct).mpr same
  exact reordered.eq_of_pairwise (fun _ _ _ _ before after => absurd after (String.lt_asymm before)) sorted otherSorted

theorem mem_insertProperty {name : String} {type : Ty} {property : String × Ty}
    (member : property ∈ insertProperty name type properties) : property = (name, type) ∨ property ∈ properties := by
  induction properties with
  | nil => exact .inl (List.mem_singleton.mp member)
  | cons first rest ih =>
    obtain ⟨key, old⟩ := first
    rw [insertProperty] at member
    split at member
    · exact List.mem_cons.mp member
    · split at member
      · rcases List.mem_cons.mp member with new | kept
        · exact .inl new
        · exact .inr (List.mem_cons_of_mem _ kept)
      · rcases List.mem_cons.mp member with first | later
        · exact .inr (first ▸ List.mem_cons_self ..)
        · exact (ih later).imp_right (List.mem_cons_of_mem _)

theorem IsSorted.insertProperty (sorted : IsSorted properties) (name : String) (type : Ty) :
    IsSorted (insertProperty name type properties) := by
  induction properties with
  | nil => exact List.pairwise_singleton ..
  | cons first rest ih =>
    obtain ⟨key, old⟩ := first
    obtain ⟨least, sortedRest⟩ := List.pairwise_cons.mp sorted
    rw [Ty.insertProperty]
    split
    · next before =>
      refine List.pairwise_cons.mpr ⟨fun property member => ?_, sorted⟩
      rcases List.mem_cons.mp member with rfl | later
      · exact before
      · exact String.lt_trans before (least property later)
    · next notBefore =>
      split
      · next same =>
        subst same
        exact List.pairwise_cons.mpr ⟨least, sortedRest⟩
      · next differs =>
        refine List.pairwise_cons.mpr ⟨fun property member => ?_, ih sortedRest⟩
        rcases mem_insertProperty member with rfl | later
        · exact Std.lt_of_le_of_ne (String.not_lt.mp notBefore) (Ne.symm differs)
        · exact least property later

/-- The properties of the object type that is made of the given ones. -/
def inOrder (properties : List (String × Ty)) : List (String × Ty) :=
  properties.foldl (fun known (name, type) => insertProperty name type known) []

theorem ofProperties_eq (properties : List (String × Ty)) : ofProperties properties = object (inOrder properties) := rfl

/-- What holds at first and is kept by writing properties holds at the end. -/
theorem inOrder_induction {motive : List (String × Ty) → Prop} (empty : motive [])
    (insert : ∀ property ∈ properties, ∀ known, motive known → motive (insertProperty property.1 property.2 known)) :
    motive (inOrder properties) :=
  List.foldlRecOn properties _ empty fun known held property member => insert property member known held

theorem isSorted_inOrder (properties : List (String × Ty)) : IsSorted (inOrder properties) :=
  inOrder_induction .nil fun property _ _ sorted => sorted.insertProperty property.1 property.2

theorem property?_inOrder (distinct : (Table.keys properties).Nodup) (name : String) :
    property? (inOrder properties) name = Table.get? properties name := by
  have from_known (known : List (String × Ty)) :
      property? (properties.foldl (fun known (name, type) => insertProperty name type known) known) name =
        (Table.get? properties name).or (property? known name) := by
    induction properties generalizing known with
    | nil => rfl
    | cons property rest ih =>
      obtain ⟨key, type⟩ := property
      obtain ⟨absent, distinct⟩ := List.nodup_cons.mp distinct
      rw [List.foldl_cons, ih distinct, property?_insertProperty, Table.get?]
      by_cases same : key = name
      · subst same
        have missing : Table.get? rest key = none := Option.eq_none_iff_forall_ne_some.mpr fun type found =>
          absent (Table.mem_keys_iff.mpr ⟨type, found⟩)
        rw [missing, if_pos rfl, if_pos rfl]
        rfl
      · rw [if_neg same, if_neg same]
  exact (from_known []).trans (Option.or_none)

/-- The order in which the properties of an object type are given does not count. -/
theorem ofProperties_eq_of_get?_eq {properties others : Table Ty} (distinct : properties.keys.Nodup)
    (otherDistinct : others.keys.Nodup) (same : ∀ name, properties.get? name = others.get? name) :
    ofProperties properties = ofProperties others := by
  rw [ofProperties_eq, ofProperties_eq]
  refine congrArg object ((isSorted_inOrder _).eq_of_property?_eq (isSorted_inOrder _) fun name => ?_)
  rw [property?_inOrder distinct, property?_inOrder otherDistinct, same]

theorem inOrder_put {table : Table Ty} (distinct : table.keys.Nodup) (name : String) (type : Ty) :
    inOrder (table.put name type) = insertProperty name type (inOrder table) := by
  refine (isSorted_inOrder _).eq_of_property?_eq ((isSorted_inOrder _).insertProperty name type) fun other => ?_
  rw [property?_inOrder (Table.nodup_keys_put name type distinct), property?_insertProperty, property?_inOrder distinct]
  by_cases same : name = other
  · subst same
    rw [if_pos rfl, Table.get?_put_self]
  · rw [if_neg same, Table.get?_put_of_ne _ _ (Ne.symm same)]

/-- Of a repeated name the last type counts, as in a table. -/
theorem ofProperties_ofList (properties : List (String × Ty)) :
    ofProperties (Table.ofList properties) = ofProperties properties := by
  have writing (table : Table Ty) (distinct : table.keys.Nodup) :
      inOrder (properties.foldl (fun (table : Table Ty) (name, type) => table.put name type) table) =
        properties.foldl (fun known (name, type) => insertProperty name type known) (inOrder table) := by
    induction properties generalizing table with
    | nil => rfl
    | cons property rest ih =>
      rw [List.foldl_cons, List.foldl_cons, ih _ (Table.nodup_keys_put _ _ distinct), inOrder_put distinct]
  exact congrArg object (writing [] List.nodup_nil)

/-! ## Equal types -/

/-- Types whose properties are in order throughout, and which are no signatures of built-in functions. -/
inductive IsCanonical : Ty → Prop
  | prim (tag : Primitive) : IsCanonical (.prim tag)
  | array {element : Ty} (ofElement : element.IsCanonical) : IsCanonical (.array element)
  | object {properties : List (String × Ty)} (sorted : IsSorted properties)
      (each : ∀ property ∈ properties, IsCanonical property.2) : IsCanonical (.object properties)
  | function {params : List Ty} {result : Ty} (each : ∀ param ∈ params, IsCanonical param)
      (ofResult : result.IsCanonical) : IsCanonical (.function params result none)

theorem isCanonical_ofProperties (each : ∀ property ∈ properties, property.2.IsCanonical) :
    (ofProperties properties).IsCanonical := by
  refine .object (isSorted_inOrder properties) ?_
  refine inOrder_induction (motive := fun known => ∀ property ∈ known, property.2.IsCanonical)
    (List.forall_mem_nil _) ?_
  intro property member known held other inside
  rcases mem_insertProperty inside with rfl | old
  · exact each property member
  · exact held other old

theorem isCanonical_common {types : List Ty} (each : ∀ type ∈ types, type.IsCanonical) :
    (common types).IsCanonical := by
  cases types with
  | nil => exact .prim .any
  | cons first rest =>
    rw [common]
    split
    · exact each first (List.mem_cons_self ..)
    · exact .prim .any

theorem sameIn_iff : sameIn properties others = true ↔
    ∀ property ∈ properties, ∃ other, property? others property.1 = some other ∧ property.2.same other = true := by
  induction properties with
  | nil => simp [sameIn]
  | cons property rest ih =>
    rw [sameIn, Bool.and_eq_true, ih, List.forall_mem_cons]
    cases property? others property.1 <;> simp

/-- Lists of types are the same if their types are, one by one. -/
theorem sameAll_iff {types otherTypes : List Ty}
    (each : ∀ type ∈ types, ∀ other ∈ otherTypes, (type.same other = true ↔ type = other)) :
    sameAll types otherTypes = true ↔ types = otherTypes := by
  induction types generalizing otherTypes with
  | nil => cases otherTypes <;> simp [sameAll]
  | cons type rest ih =>
    cases otherTypes with
    | nil => simp [sameAll]
    | cons other others =>
      have first := each type (List.mem_cons_self ..) other (List.mem_cons_self ..)
      have later := ih fun type member other inside =>
        each type (List.mem_cons_of_mem _ member) other (List.mem_cons_of_mem _ inside)
      rw [sameAll, Bool.and_eq_true, first, later, List.cons.injEq]

theorem property?_eq_some_of_mem (sorted : IsSorted properties) {property : String × Ty}
    (member : property ∈ properties) : property? properties property.1 = some property.2 := by
  rw [property?_eq_get?, Table.get?_eq_some_iff_mem sorted.distinct]
  exact member

theorem mem_of_property?_eq_some {name : String} {type : Ty} (found : property? properties name = some type) :
    (name, type) ∈ properties := by
  rw [property?_eq_get?] at found
  exact Table.mem_of_get?_eq_some found

/-- Canonical object types are the same if their properties are, name by name. -/
theorem same_object_iff (sorted : IsSorted properties) (otherSorted : IsSorted others)
    (each : ∀ property ∈ properties, ∀ name type, (name, type) ∈ others →
      (property.2.same type = true ↔ property.2 = type)) :
    (object properties).same (object others) = true ↔ properties = others := by
  rw [same, Bool.and_eq_true, List.all_eq_true, sameIn_iff]
  constructor
  · rintro ⟨covered, included⟩
    refine sorted.eq_of_property?_eq otherSorted fun name => ?_
    cases found : property? properties name with
    | some type =>
      have member := mem_of_property?_eq_some found
      obtain ⟨other, atOther, equal⟩ := included _ member
      have same : type = other := (each _ member _ _ (mem_of_property?_eq_some atOther)).mp equal
      exact same ▸ atOther.symm
    | none =>
      refine (Option.eq_none_iff_forall_ne_some.mpr fun other atOther => ?_).symm
      obtain ⟨property, member, named⟩ := List.any_eq_true.mp (covered _ (mem_of_property?_eq_some atOther))
      have named : property.1 = name := beq_iff_eq.mp named
      rw [← named, property?_eq_some_of_mem sorted member] at found
      cases found
  · rintro rfl
    constructor
    · intro property member
      exact List.any_eq_true.mpr ⟨property, member, beq_self_eq_true _⟩
    · intro property member
      exact ⟨property.2, property?_eq_some_of_mem sorted member, (each property member _ _ member).mpr rfl⟩

/-- Canonical types are the same exactly if they are equal. -/
theorem IsCanonical.same_iff {type other : Ty} (canonical : type.IsCanonical) (otherCanonical : other.IsCanonical) :
    type.same other = true ↔ type = other := by
  induction canonical generalizing other with
  | prim tag => cases otherCanonical <;> simp [same]
  | array _ ih =>
    cases otherCanonical with
    | array ofElement => simp [same, ih ofElement]
    | _ => simp [same]
  | object sorted each ih =>
    cases otherCanonical with
    | object otherSorted otherEach =>
      rw [same_object_iff sorted otherSorted fun property member name type inside =>
        ih property member (otherEach _ inside), object.injEq]
    | _ => simp [same]
  | @function params result each _ ih ofResult =>
    cases otherCanonical with
    | @function otherParams _ otherEach otherResult =>
      have equalParams : sameAll params otherParams = true ↔ params = otherParams :=
        sameAll_iff fun param member other inside => ih param member (otherEach other inside)
      simp [same, equalParams, ofResult otherResult]
    | _ => simp [same]

end TreeScript.Ty
