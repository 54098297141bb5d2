import TreeScript.Proofs.Scope.Lookup
import TreeScript.Proofs.Typing.Values

/-! # Scopes of types and frames of values

Inference and execution each keep a chain of scopes. A store *fits* a scope of types if every name
that has a type, seen from any scope of the chain, has a value of that type, seen from the frame in
the same place. The two chains are not bound name by name: an assignment binds the name in the
innermost frame, where inference leaves the type to the scope around.
-/

namespace TreeScript

theorem TypeScope.lookup?_define (types : TypeFrame) (scope : TypeScope) (name other : String)
    (type : Ty) :
    (TypeScope.define (types :: scope) name type).lookup? other =
      if other = name then some type else TypeScope.lookup? (types :: scope) other := by
  simp only [define, lookup?, List.findSome?_cons]
  by_cases same : other = name
  · subst same
    simp
  · simp [same, Table.get?_put_of_ne _ _ same]

namespace Store

/-- The bindings in a chain of frames, the innermost first, agree with a scope of types. -/
inductive Fits (store : Store) : TypeScope → List FrameRef → Prop
  | nil : Fits store [] []
  | cons {types : TypeFrame} {scope : TypeScope} {frame : FrameRef} {around : List FrameRef}
      (visible : store.visible frame = frame :: around) (separate : frame ∉ around)
      (bound : ∀ name type, TypeScope.lookup? (types :: scope) name = some type →
        ∃ value, store.lookup? frame name = some value ∧ store.HasType type value)
      (outer : Fits store scope around) : Fits store (types :: scope) (frame :: around)

namespace Fits

variable {store later : Store} {scope : TypeScope} {frame : FrameRef} {chain around : List FrameRef}

/-- The scopes around the innermost one fit too. -/
theorem tail (fits : store.Fits scope (frame :: around)) : store.Fits scope.tail around := by
  cases fits with
  | cons _ _ _ outer => exact outer

variable {name : String}

theorem lookup (fits : store.Fits scope (frame :: around)) {type : Ty}
    (known : scope.lookup? name = some type) :
    ∃ value, store.lookup? frame name = some value ∧ store.HasType type value := by
  cases fits with
  | cons _ _ bound _ => exact bound name type known

theorem lt_size (fits : store.Fits scope chain) : ∀ ref ∈ chain, ref < store.frames.size := by
  induction fits with
  | nil => exact fun _ member => absurd member List.not_mem_nil
  | cons visible _ _ _ ih => exact List.forall_mem_cons.mpr ⟨lt_of_visible visible, ih⟩

theorem visible (fits : store.Fits scope (frame :: around)) : store.visible frame = frame :: around := by
  cases fits with
  | cons visible _ _ _ => exact visible

theorem holds (fits : store.Fits scope (frame :: around)) : store.Holds frame :=
  ⟨fits.lt_size _ (List.mem_cons_self ..), fun ref member => fits.lt_size ref (fits.visible ▸ member)⟩

/-- What is visible from a frame of the chain is in the chain, so only the frames of the chain
matter. -/
theorem of_frames (fits : store.Fits scope chain) (grown : store.Extends later)
    (visible : ∀ ref ∈ chain, later.visible ref = store.visible ref)
    (bindings : ∀ ref ∈ chain, ∀ name, later.binding? ref name = store.binding? ref name) :
    later.Fits scope chain := by
  induction fits with
  | nil => exact .nil
  | @cons types scope frame around seen separate bound outer ih =>
    obtain ⟨sameSeen, outerVisible⟩ := List.forall_mem_cons.mp visible
    have outerBindings := (List.forall_mem_cons.mp bindings).2
    refine .cons (sameSeen.trans seen) separate (fun name type known => ?_)
      (ih outerVisible outerBindings)
    obtain ⟨value, found, typed⟩ := bound name type known
    refine ⟨value, ?_, typed.extend grown⟩
    have sameLookup : later.lookup? frame name = store.lookup? frame name := by
      rw [Store.lookup?, Store.lookup?, sameSeen, seen]
      exact findSome?_eq_of_forall fun ref member => bindings ref member name
    rw [sameLookup, found]

/-- A store that differs in its cells only, and has not lost any, fits as well. -/
theorem extend (fits : store.Fits scope chain) (grown : store.Extends later)
    (same : later.frames = store.frames) : later.Fits scope chain :=
  fits.of_frames grown (fun ref _ => by simp only [Store.visible, same])
    (fun ref _ name => by simp only [binding?, same])

/-- A new scope without bindings fits a new frame without bindings. -/
theorem addFrame (fits : store.Fits scope (frame :: around)) (label typesLabel : String) :
    (store.addFrame frame label).2.Fits (⟨typesLabel, []⟩ :: scope)
      (store.frames.size :: frame :: around) := by
  have old (ref : FrameRef) (inside : ref < store.frames.size) :
      (store.addFrame frame label).2.frames[ref]? = store.frames[ref]? := by
    simp only [Store.addFrame, Array.getElem?_push, if_neg (Nat.ne_of_lt inside)]
  have new : (store.addFrame frame label).2.frames[store.frames.size]? =
      some ⟨label, frame :: around, []⟩ := by
    simp [Store.addFrame, fits.visible]
  have outer : (store.addFrame frame label).2.Fits scope (frame :: around) := by
    refine fits.of_frames ⟨fun _ _ found => found, fun _ _ found => found⟩ ?_ ?_
    · exact fun ref member => by simp only [Store.visible, old ref (fits.lt_size ref member)]
    · exact fun ref member name => by simp only [binding?, old ref (fits.lt_size ref member)]
  have seen : (store.addFrame frame label).2.visible store.frames.size =
      store.frames.size :: frame :: around := by
    simp only [Store.visible, new]
  refine .cons seen (fun member => ?_) (fun name type known => ?_) outer
  · exact Nat.lt_irrefl _ (fits.lt_size _ member)
  · obtain ⟨value, found, typed⟩ := outer.lookup known
    refine ⟨value, ?_, typed⟩
    have unbound : (store.addFrame frame label).2.binding? store.frames.size name = none := by
      simp only [binding?, new, Option.bind_some, Table.get?_nil]
    rw [Store.lookup?, seen, List.findSome?_cons, unbound]
    rw [Store.lookup?, outer.visible] at found
    exact found

/-- Binding a name in the innermost frame: what the new scope tells of the name holds of the value,
and of other names it tells what the old one did. -/
theorem bind {types newTypes : TypeFrame} {value : Value}
    (fits : store.Fits (types :: scope) (frame :: around))
    (told : ∀ other type, TypeScope.lookup? (newTypes :: scope) other = some type →
      if other = name then store.HasType type value
      else TypeScope.lookup? (types :: scope) other = some type) :
    (store.define frame name value).Fits (newTypes :: scope) (frame :: around) := by
  have grown : store.Extends (store.define frame name value) :=
    ⟨fun _ _ found => found, fun _ _ found => found⟩
  cases fits with
  | cons visible separate bound outer =>
    have others (ref : FrameRef) (member : ref ∈ around) : frame ≠ ref :=
      fun same => separate (same ▸ member)
    have seen : (store.define frame name value).visible frame = frame :: around := by
      rw [visible_define, visible]
    refine .cons seen separate (fun other type known => ?_) (outer.of_frames grown ?_ ?_)
    · have lookedUp : (store.define frame name value).lookup? frame other =
          if other = name then some value else store.lookup? frame other := by
        rw [Store.lookup?, Store.lookup?, seen, visible, List.findSome?_cons, List.findSome?_cons,
          binding?_define_self store name other value (lt_of_visible visible),
          findSome?_eq_of_forall fun ref member =>
            binding?_define_of_ne store name other value (others ref member)]
        by_cases same : other = name
        · rw [if_pos same, if_pos same]
        · rw [if_neg same, if_neg same]
      have holds := told other type known
      rw [lookedUp]
      split at holds
      · next same => exact ⟨value, if_pos same, holds.extend grown⟩
      · next differs =>
        obtain ⟨old, found, typed⟩ := bound other type holds
        exact ⟨old, (if_neg differs).trans found, typed.extend grown⟩
    · exact fun ref _ => visible_define store frame ref name value
    · exact fun ref member known =>
        binding?_define_of_ne store name known value (others ref member)

/-- A declaration binds the name in both chains. -/
theorem declare (fits : store.Fits scope (frame :: around)) {type : Ty} {value : Value}
    (typed : store.HasType type value) :
    (store.define frame name value).Fits (scope.define name type) (frame :: around) := by
  obtain ⟨types, outer, rfl⟩ : ∃ types outer, scope = types :: outer := by
    cases fits
    exact ⟨_, _, rfl⟩
  refine fits.bind fun other known found => ?_
  have told := (TypeScope.lookup?_define types outer name other type).symm.trans found
  split
  · next same =>
    rw [if_pos same] at told
    exact Option.some.inj told ▸ typed
  · next differs => rwa [if_neg differs] at told

/-- An assignment binds the name in the frame only, to a value of the type that the scope tells. -/
theorem assign (fits : store.Fits scope (frame :: around)) {type : Ty} {value : Value}
    (known : scope.lookup? name = some type) (typed : store.HasType type value) :
    (store.define frame name value).Fits scope (frame :: around) := by
  obtain ⟨types, outer, rfl⟩ : ∃ types outer, scope = types :: outer := by
    cases fits
    exact ⟨_, _, rfl⟩
  refine fits.bind fun other type found => ?_
  split
  · next same =>
    rw [same, known] at found
    exact Option.some.inj found ▸ typed
  · exact found

/-- A scope may tell the type of a name that is bound further out. -/
theorem suppose (fits : store.Fits scope (frame :: around)) {type : Ty} {value : Value}
    (bound : store.lookup? frame name = some value) (typed : store.HasType type value) :
    store.Fits (scope.define name type) (frame :: around) := by
  cases fits with
  | cons visible separate known outer =>
    refine .cons visible separate (fun other otherType found => ?_) outer
    have told := (TypeScope.lookup?_define _ _ name other type).symm.trans found
    split at told
    · next same =>
      cases told
      exact ⟨value, same ▸ bound, typed⟩
    · exact known other otherType told

end Fits

/-- Two tables over the same items are bound at the same names. -/
private theorem get?_map_of_get?_map {ι α β : Type} {key : ι → String} {f : ι → α} {items : List ι}
    (g : ι → β) {name : String} {result : α}
    (found : Table.get? (items.map fun item => (key item, f item)) name = some result) :
    ∃ item, f item = result ∧ Table.get? (items.map fun item => (key item, g item)) name = some (g item) := by
  induction items with
  | nil => cases found
  | cons item rest ih =>
    simp only [List.map_cons, Table.get?] at found ⊢
    split at found
    · next hit =>
      cases found
      exact ⟨item, rfl, if_pos hit⟩
    · next miss =>
      simp only [if_neg miss]
      exact ih found

/-- The built-in functions fit their signatures. -/
theorem initial_fits : Store.initial.Fits .initial [root] := by
  refine .cons rfl List.not_mem_nil (fun name type known => ?_) .nil
  simp only [TypeScope.lookup?, List.findSome?_cons, List.findSome?_nil] at known
  split at known
  · next found =>
    cases known
    obtain ⟨function, isType, bound⟩ :=
      get?_map_of_get?_map (fun function => Value.function (builtinRef function)) found
    have atRoot : Store.initial.binding? root name = some (.function (builtinRef function)) := bound
    refine ⟨.function (builtinRef function), ?_, ?_⟩
    · change List.findSome? (Store.initial.binding? · name) [root] = _
      rw [List.findSome?_cons, atRoot]
    · subst isType
      exact .function _
  · cases known

end Store

end TreeScript
