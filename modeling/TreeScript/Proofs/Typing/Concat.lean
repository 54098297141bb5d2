import TreeScript.Operator.Apply
import TreeScript.Operator.Infer
import TreeScript.Proofs.Runs.Cells
import TreeScript.Proofs.Typing.Steps
import TreeScript.Proofs.Typing.ValueTypes

/-! # Joining arrays

Two arrays are joined by looking at the types of their elements, and a concatenation is accepted by
looking at the types of its operands. For arrays of values without cycles both come to the same: the
arrays are joined exactly if their types are accepted. The joined array has the type that was inferred,
except that the type of an empty array tells less than the array itself.
-/

namespace TreeScript

/-! ## Common types -/

namespace Ty

variable {types others : List Ty}

/-- Types that are all equal have their type in common. -/
theorem common_eq_of_all {shared : Ty} (canonical : shared.IsCanonical) (some : types ≠ [])
    (all : ∀ type ∈ types, type = shared) : common types = shared := by
  cases types with
  | nil => exact absurd rfl some
  | cons first rest =>
    obtain ⟨rfl, equal⟩ := List.forall_mem_cons.mp all
    rw [common, if_pos]
    refine List.all_eq_true.mpr fun type member => ?_
    rw [equal type member]
    exact (canonical.same_iff canonical).mpr rfl

/-- Types that are not all equal have nothing in common. -/
theorem common_eq_any_of_mixed (canonical : ∀ type ∈ types, type.IsCanonical)
    (mixed : ¬∃ shared, ∀ type ∈ types, type = shared) : common types = any := by
  cases types with
  | nil => rfl
  | cons first rest =>
    obtain ⟨ofFirst, ofRest⟩ := List.forall_mem_cons.mp canonical
    rw [common, if_neg]
    intro all
    refine mixed ⟨first, List.forall_mem_cons.mpr ⟨rfl, fun type member => ?_⟩⟩
    exact ((ofFirst.same_iff (ofRest type member)).mp (List.all_eq_true.mp all type member)).symm

/-- The types of two lists together have in common what both have, and nothing if that differs. -/
theorem common_append (canonical : ∀ type ∈ types ++ others, type.IsCanonical) (some : types ≠ [])
    (someOther : others ≠ []) :
    (common types = common others → common (types ++ others) = common types) ∧
      (common types ≠ common others → common (types ++ others) = any) := by
  obtain ⟨ofTypes, ofOthers⟩ := List.forall_mem_append.mp canonical
  by_cases uniform : ∃ shared, ∀ type ∈ types ++ others, type = shared
  · obtain ⟨shared, all⟩ := uniform
    obtain ⟨allTypes, allOthers⟩ := List.forall_mem_append.mp all
    have ofShared : shared.IsCanonical := by
      obtain ⟨type, member⟩ := List.exists_mem_of_ne_nil types some
      exact allTypes type member ▸ ofTypes type member
    have together := common_eq_of_all ofShared (List.append_ne_nil_of_left_ne_nil some others) all
    have left := common_eq_of_all ofShared some allTypes
    have right := common_eq_of_all ofShared someOther allOthers
    exact ⟨fun _ => together.trans left.symm, fun differ => absurd (left.trans right.symm) differ⟩
  · rw [common_eq_any_of_mixed canonical uniform]
    refine ⟨fun same => ?_, fun _ => rfl⟩
    by_cases left : ∃ shared, ∀ type ∈ types, type = shared
    · by_cases right : ∃ shared, ∀ type ∈ others, type = shared
      · obtain ⟨shared, allTypes⟩ := left
        obtain ⟨other, allOthers⟩ := right
        obtain ⟨type, member⟩ := List.exists_mem_of_ne_nil types some
        obtain ⟨otherType, otherMember⟩ := List.exists_mem_of_ne_nil others someOther
        rw [common_eq_of_all (allTypes type member ▸ ofTypes type member) some allTypes,
          common_eq_of_all (allOthers otherType otherMember ▸ ofOthers otherType otherMember) someOther
            allOthers] at same
        subst same
        exact absurd ⟨shared, List.forall_mem_append.mpr ⟨allTypes, allOthers⟩⟩ uniform
      · rw [same, common_eq_any_of_mixed ofOthers right]
    · rw [common_eq_any_of_mixed ofTypes left]

end Ty

/-! ## Values without cycles -/

theorem exists_forall₂ {α β : Type} {relates : α → β → Prop} {items : List α}
    (each : ∀ item ∈ items, ∃ result, relates item result) : ∃ results, List.Forall₂ relates items results := by
  induction items with
  | nil => exact ⟨[], .nil⟩
  | cons item rest ih =>
    obtain ⟨first, others⟩ := List.forall_mem_cons.mp each
    obtain ⟨result, related⟩ := first
    obtain ⟨results, relatedRest⟩ := ih others
    exact ⟨result :: results, .cons related relatedRest⟩

namespace Store

variable {store : Store} {value : Value}

/-- In a closed store every value without cycles tells its type. -/
theorem IsAcyclic.exists_tells (acyclic : store.IsAcyclic value) (closed : store.IsClosed) (has : store.Has value) :
    ∃ type, store.Tells value type := by
  induction acyclic with
  | intro value _ ih =>
    cases value with
    | array ref =>
      obtain ⟨types, each⟩ := exists_forall₂ fun element member =>
        ih element member (closed.elements ref element (Array.mem_toList_iff.mp member))
      refine ⟨.array (Ty.common types), fun later grown => type?_array ?_⟩
      have kept : later.elements ref = store.elements ref := by
        have found := Array.getElem?_eq_getElem has
        rw [elements, elements, Array.getD_eq_getD_getElem?, Array.getD_eq_getD_getElem?, found,
          grown.arrays _ _ found]
      rw [kept]
      exact each.imp fun element type tells => tells later grown
    | object ref =>
      have named (entry : String × Value) (member : entry ∈ store.entries ref) :
          ∃ property : String × Ty, entry.1 = property.1 ∧ store.Tells entry.2 property.2 := by
        obtain ⟨type, tells⟩ := ih entry.2 (List.mem_map.mpr ⟨entry, member, rfl⟩) (closed.entries ref entry member)
        exact ⟨(entry.1, type), rfl, tells⟩
      obtain ⟨types, each⟩ := exists_forall₂ named
      refine ⟨Ty.ofProperties types, fun later grown => type?_object ?_⟩
      have kept : later.entries ref = store.entries ref := by
        have found := Array.getElem?_eq_getElem has
        rw [entries, entries, Array.getD_eq_getD_getElem?, Array.getD_eq_getD_getElem?, found,
          grown.objects _ _ found]
      rw [kept]
      exact each.imp fun entry property tells => ⟨tells.1, tells.2 later grown⟩
    | function ref => exact ⟨.any, fun later _ => typeWithin_function later later.depth ref⟩
    | _ => exact ⟨_, fun later _ => by simp only [type?, picture?, pictureWithin, Option.map_some]; rfl⟩

theorem isCanonical_of_tells {values : List Value} {types : List Ty}
    (each : List.Forall₂ store.Tells values types) : ∀ type ∈ types, type.IsCanonical := by
  induction each with
  | nil => exact List.forall_mem_nil _
  | cons first _ ih => exact List.forall_mem_cons.mpr ⟨isCanonical_type? first.type?, ih⟩

end Store

/-! ## Concatenation -/

namespace Exec

variable {host : Host} {store : Store}

theorem each_typeOf {values : List Value} {types : List Ty}
    (each : List.Forall₂ (fun value type => store.type? value = some type) values types) :
    Exec.each typeOf values host store = .done types store := by
  induction each with
  | nil => rfl
  | @cons value type values types first _ ih =>
    have ofFirst : typeOf value host store = .done type store := by
      rw [typeOf, read?, first]
    rw [Exec.each, bind_of_done ofFirst, bind_of_done ih]
    rfl

end Exec

namespace Operator

variable {host : Host} {store : Store} {left right : ArrayRef} {types otherTypes : List Ty}

theorem elementType_eq {elements : Array Value}
    (each : List.Forall₂ (fun value type => store.type? value = some type) elements.toList types) :
    elementType elements host store = .done (Ty.common types) store :=
  Exec.bind_of_done (Exec.each_typeOf each)

/-- Arrays are joined if their elements have a type in common, or one of them has none. -/
theorem join_eq
    (leftEach : List.Forall₂ (fun value type => store.type? value = some type) (store.elements left).toList types)
    (rightEach : List.Forall₂ (fun value type => store.type? value = some type)
      (store.elements right).toList otherTypes) :
    join left right host store =
      if (Ty.common types).isAny || (Ty.common otherTypes).isAny || (Ty.common types).same (Ty.common otherTypes) then
        .done (.array store.arrays.size) (store.addArray (store.elements left ++ store.elements right)).2
      else .stopped (.failure (.badOperands (.notJoinable (Ty.common types) (Ty.common otherTypes)))) store := by
  rw [join, Exec.read_bind, Exec.read_bind, Exec.bind_of_done (elementType_eq leftEach),
    Exec.bind_of_done (elementType_eq rightEach)]
  split <;> rfl

/-- Two types of arrays are joined if their elements agree, and to an array of anything if one of them
is unknown. -/
theorem infer_concat (element otherElement : Ty) :
    Operator.concat.infer (.array element) (.array otherElement) =
      if element.same otherElement then .ok (.array element)
      else if element.isAny || otherElement.isAny then .ok (.array .any)
      else .error (.mismatch (.joined (.array element) (.array otherElement))) := rfl

theorem exists_infer_concat_iff (element otherElement : Ty) :
    (∃ type, Operator.concat.infer (.array element) (.array otherElement) = .ok type) ↔
      (element.isAny || otherElement.isAny || element.same otherElement) = true := by
  rw [infer_concat]
  cases element.same otherElement <;> cases element.isAny <;> cases otherElement.isAny <;> simp

/-- The type that is inferred is what the elements of both arrays have in common; of an empty array
nothing is known. -/
theorem infer_concat_common {type : Ty} (canonical : ∀ type ∈ types ++ otherTypes, type.IsCanonical)
    (inferred : Operator.concat.infer (.array (Ty.common types)) (.array (Ty.common otherTypes)) = .ok type) :
    type = .array (Ty.common (types ++ otherTypes)) ∨ type = .array .any ∧ (types = [] ∨ otherTypes = []) := by
  obtain ⟨ofTypes, ofOthers⟩ := List.forall_mem_append.mp canonical
  have told : Ty.common types = Ty.common otherTypes ∧ type = .array (Ty.common types) ∨
      Ty.common types ≠ Ty.common otherTypes ∧ type = .array .any := by
    have same := (Ty.isCanonical_common ofTypes).same_iff (Ty.isCanonical_common ofOthers)
    rw [infer_concat] at inferred
    split at inferred
    · next equal =>
      cases inferred
      exact .inl ⟨same.mp equal, rfl⟩
    · next differ =>
      split at inferred
      · cases inferred
        exact .inr ⟨fun equal => differ (same.mpr equal), rfl⟩
      · cases inferred
  by_cases empty : types = [] ∨ otherTypes = []
  · refine .inr ⟨?_, empty⟩
    rcases told with ⟨same, rfl⟩ | ⟨_, rfl⟩
    · rcases empty with rfl | rfl
      · rfl
      · rw [same]
        rfl
    · rfl
  · obtain ⟨some, someOther⟩ := not_or.mp empty
    obtain ⟨together, apart⟩ := Ty.common_append canonical some someOther
    left
    rcases told with ⟨same, rfl⟩ | ⟨differ, rfl⟩
    · rw [together same]
    · rw [apart differ]

/-- In a closed store, as every state of a run is one, arrays of values without cycles are joined exactly if their
types are. The joined array holds the elements of both and has the type that is inferred, unless one of them is
empty and the type that is inferred tells nothing of the elements. -/
theorem concat_apply_iff_infer (host : Host) (closed : store.IsClosed) (left right : ArrayRef)
    (acyclic : ∀ value ∈ store.elements left ++ store.elements right, store.IsAcyclic value) :
    ∃ leftType rightType, store.type? (.array left) = some leftType ∧ store.type? (.array right) = some rightType ∧
      ((∃ value later, Operator.concat.apply (.array left) (.array right) host store = .done value later) ↔
        ∃ type, Operator.concat.infer leftType rightType = .ok type) ∧
      (∀ value later type, Operator.concat.apply (.array left) (.array right) host store = .done value later →
        Operator.concat.infer leftType rightType = .ok type →
        ∃ ref, value = .array ref ∧ later.elements ref = store.elements left ++ store.elements right ∧
          (later.type? value = some type ∨
            type = .array .any ∧ (store.elements left = #[] ∨ store.elements right = #[]))) ∧
      ∀ cause, Operator.concat.infer leftType rightType = .error cause →
        ∃ operands, Operator.concat.apply (.array left) (.array right) host store =
          .stopped (.failure (.badOperands operands)) store := by
  have tells (ref : ArrayRef) (acyclic : ∀ value ∈ store.elements ref, store.IsAcyclic value) :
      ∃ types, List.Forall₂ store.Tells (store.elements ref).toList types :=
    exists_forall₂ fun value member => (acyclic value (Array.mem_toList_iff.mp member)).exists_tells closed
      (closed.elements ref value (Array.mem_toList_iff.mp member))
  obtain ⟨types, leftTells⟩ := tells left fun value member => acyclic value (Array.mem_append_left _ member)
  obtain ⟨otherTypes, rightTells⟩ := tells right fun value member => acyclic value (Array.mem_append_right _ member)
  have leftEach := leftTells.imp fun value type told => told.type?
  have rightEach := rightTells.imp fun value type told => told.type?
  have applied : Operator.concat.apply (.array left) (.array right) host store = _ := join_eq leftEach rightEach
  refine ⟨_, _, Store.type?_array leftEach, Store.type?_array rightEach, ?_, ?_, ?_⟩
  · rw [exists_infer_concat_iff, applied]
    split
    · next accepted => exact ⟨fun _ => accepted, fun _ => ⟨_, _, rfl⟩⟩
    · next refused =>
      constructor
      · rintro ⟨value, later, same⟩
        cases same
      · exact fun accepted => absurd accepted refused
  · intro value later type ends inferred
    rw [applied] at ends
    split at ends
    · cases ends
      have joined : List.Forall₂ store.Tells (store.elements left ++ store.elements right).toList
          (types ++ otherTypes) := by
        rw [Array.toList_append]
        exact List.rel_append leftTells rightTells
      have told := Store.tells_addArray joined
      rw [Array.toArray_toList] at told
      refine ⟨store.arrays.size, rfl, by simp [Store.elements, Store.addArray], ?_⟩
      rcases infer_concat_common (Store.isCanonical_of_tells joined) inferred with rfl | ⟨rfl, empty⟩
      · exact .inl told.type?
      · refine .inr ⟨rfl, ?_⟩
        rcases empty with rfl | rfl
        · exact .inl (Array.toList_eq_nil_iff.mp (List.forall₂_nil_right_iff.mp leftTells))
        · exact .inr (Array.toList_eq_nil_iff.mp (List.forall₂_nil_right_iff.mp rightTells))
    · cases ends
  · intro cause refused
    rw [applied]
    split
    · next accepted =>
      obtain ⟨type, inferred⟩ := (exists_infer_concat_iff _ _).mpr accepted
      rw [inferred] at refused
      cases refused
    · exact ⟨_, rfl⟩

/-- A number and a text are joined with a number to an array of anything. -/
theorem concat_apply_iff_infer_mixed :
    let store : Store := ⟨#[], #[#[.int 1, .string "one"], #[.int 2]], #[], #[], #[], 0⟩
    store.IsClosed ∧ (∀ value ∈ store.elements 0 ++ store.elements 1, store.IsAcyclic value) ∧
      ∃ value later, Operator.concat.apply (.array 0) (.array 1) default store = .done value later ∧
        later.type? value = some (.array .any) := by
  intro store
  have scalars (ref : ArrayRef) (value : Value) (member : value ∈ store.elements ref) :
      store.Has value ∧ store.IsAcyclic value := by
    have isLeaf : store.contents value = [] ∧ store.Has value := by
      rcases ref with _ | _ | ref
      · have inside : value = .int 1 ∨ value = .string "one" := by simpa [store, Store.elements] using member
        rcases inside with rfl | rfl <;> exact ⟨rfl, trivial⟩
      · have inside : value = .int 2 := by simpa [store, Store.elements] using member
        exact inside ▸ ⟨rfl, trivial⟩
      · simp [store, Store.elements] at member
    exact ⟨isLeaf.2, Acc.intro _ fun inner inside => by simp [isLeaf.1] at inside⟩
  have objectless (ref : ObjectRef) : store.entries ref = [] := by simp [store, Store.entries]
  have closed : store.IsClosed := by
    refine ⟨by simp [store], fun ref value member => (scalars ref value member).1, ?_, by simp [store], ?_⟩
    · simp [objectless]
    · intro ref
      rw [objectless]
      exact List.nodup_nil
  have acyclic : ∀ value ∈ store.elements 0 ++ store.elements 1, store.IsAcyclic value := by
    intro value member
    exact (Array.mem_append.mp member).elim (fun inside => (scalars 0 value inside).2)
      fun inside => (scalars 1 value inside).2
  obtain ⟨leftType, rightType, ofLeft, ofRight, accepts, joins, _⟩ := concat_apply_iff_infer default closed 0 1 acyclic
  obtain rfl : Ty.array .any = leftType := Option.some.inj ofLeft
  obtain rfl : Ty.array .number = rightType := Option.some.inj ofRight
  obtain ⟨value, later, ends⟩ := accepts.mpr ⟨.array .any, rfl⟩
  obtain ⟨ref, rfl, _, told | ⟨_, empty⟩⟩ := joins value later (.array .any) ends rfl
  · exact ⟨closed, acyclic, _, later, ends, told⟩
  · simp [store, Store.elements] at empty

end Operator

end TreeScript
