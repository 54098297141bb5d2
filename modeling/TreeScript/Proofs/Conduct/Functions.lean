import TreeScript.Proofs.Conduct

/-! # Conduct that concerns functions only

A property of functions that does not depend on what they remember holds of every function in the
store as soon as it holds of the functions that are made. The steps of an execution do nothing else
to the functions of a store than make new ones and fill caches.
-/

namespace TreeScript

/-- A property of functions that holds whatever a function remembers. -/
def BlindToCaches (property : Callable → Prop) : Prop :=
  ∀ {function cache} (other : Table Value), property (.memoized function cache) →
    property (.memoized function other)

namespace Store

/-- Every function in the store has a property. -/
def EachFunction (property : Callable → Prop) (store : Store) : Prop :=
  ∀ (ref : FunctionRef) function, store.functions[ref]? = some function → property function

variable {property : Callable → Prop} {store : Store}

theorem EachFunction.addFunction (each : store.EachFunction property) {function : Callable}
    (new : property function) : (store.addFunction function).2.EachFunction property := by
  intro ref callable found
  simp only [Store.addFunction, Array.getElem?_push] at found
  split at found
  · cases found
    exact new
  · exact each ref callable found

theorem EachFunction.remember (each : store.EachFunction property) (blind : BlindToCaches property)
    (ref : FunctionRef) (key : String) (result : Value) :
    (store.remember ref key result).EachFunction property := by
  intro other callable found
  simp only [Store.remember, Array.getElem?_modify] at found
  split at found
  · obtain ⟨old, atRef, changed⟩ := Option.map_eq_some_iff.mp found
    have kept := each other old atRef
    subst changed
    cases old with
    | memoized function cache => exact blind _ kept
    | _ => exact kept
  · exact each other callable found

/-- At the start of a run there are only the built-in functions. -/
theorem initial_eachFunction (builtins : ∀ function, property (.builtin function)) :
    Store.initial.EachFunction property := by
  intro ref callable found
  obtain ⟨builtin, _, same⟩ : ∃ builtin, builtin ∈ Builtin.all ∧ Callable.builtin builtin = callable := by
    simpa [Store.initial] using Array.mem_of_getElem? found
  subst same
  exact builtins builtin

end Store

namespace Conduct

/-- Make only functions with a property, and stop only for the given reasons. -/
def overFunctions (property : Callable → Prop) (allows : Stop → Prop) : Conduct where
  holds := Store.EachFunction property
  writable _ := True
  makes := property
  allows := allows

theorem overFunctions_lawful {property : Callable → Prop} (blind : BlindToCaches property)
    (allows : Stop → Prop) : (overFunctions property allows).Lawful where
  toSturdy := .of_frames_functions fun _ functions each ref function found => each ref function (functions ▸ found)
  define each _ := each
  addFrame each := each
  fresh _ := trivial
  addFunction each makes := each.addFunction makes
  made each found := each _ _ found
  remember each := each.remember blind _ _ _
  caught each _ := each
  memoHit each := each

end Conduct

end TreeScript
