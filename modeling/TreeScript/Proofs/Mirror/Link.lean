import Mathlib.Data.List.Forall2
import Mathlib.Order.BoundedOrder.Basic
import TreeScript.Proofs.Conduct

/-! # Two runs side by side

A *link* says which cells of one store stand for which cells of another, and so which values of the
two runs are the same thing. As the runs go on they make new cells, and the link grows.

A *bond* fixes the hosts of the two runs and says when their stores are linked. It also says when the
first run has gone where the second need not follow: from such a store it never comes back, and
nothing more is claimed. The same goes for faults that only the first run comes to, until they are
caught. A step is *mirrored* by another one if, from linked stores, the two end in the same way, with
results and stores that are linked again. The effort that they are allowed may differ; the bond says which
of the two runs may be cut short by that.
-/

namespace TreeScript

variable {α β : Type}

/-! ## Links -/

/-- Which cells of a first store stand for which cells of a second, and which symbols are known. -/
structure Link where
  frames : FrameRef → FrameRef → Prop
  arrays : ArrayRef → ArrayRef → Prop
  objects : ObjectRef → ObjectRef → Prop
  functions : FunctionRef → FunctionRef → Prop
  symbols : Symbol → Prop

namespace Link

/-- Whatever one link pairs or knows, so does another. -/
structure Within (link wider : Link) : Prop where
  frames : ∀ {ref other}, link.frames ref other → wider.frames ref other
  arrays : ∀ {ref other}, link.arrays ref other → wider.arrays ref other
  objects : ∀ {ref other}, link.objects ref other → wider.objects ref other
  functions : ∀ {ref other}, link.functions ref other → wider.functions ref other
  symbols : ∀ {symbol}, link.symbols symbol → wider.symbols symbol

instance : Preorder Link where
  le := Within
  le_refl _ := ⟨id, id, id, id, id⟩
  le_trans _ _ _ first second :=
    ⟨second.frames ∘ first.frames, second.arrays ∘ first.arrays, second.objects ∘ first.objects,
      second.functions ∘ first.functions, second.symbols ∘ first.symbols⟩

/-- The link that pairs everything with everything. -/
instance : OrderTop Link where
  top := ⟨fun _ _ => True, fun _ _ => True, fun _ _ => True, fun _ _ => True, fun _ => True⟩
  le_top _ := ⟨fun _ => trivial, fun _ => trivial, fun _ => trivial, fun _ => trivial,
    fun _ => trivial⟩

/-- Two values are the same thing: the same scalar, or references to cells that are paired. -/
inductive Pairs (link : Link) : Value → Value → Prop
  | undefined : link.Pairs .undefined .undefined
  | null : link.Pairs .null .null
  | bool (value : Bool) : link.Pairs (.bool value) (.bool value)
  | number (value : Number) : link.Pairs (.number value) (.number value)
  | bigint (value : Int) : link.Pairs (.bigint value) (.bigint value)
  | string (value : String) : link.Pairs (.string value) (.string value)
  | symbol {value : Symbol} (known : link.symbols value) : link.Pairs (.symbol value) (.symbol value)
  | array {ref other : ArrayRef} (paired : link.arrays ref other) :
      link.Pairs (.array ref) (.array other)
  | object {ref other : ObjectRef} (paired : link.objects ref other) :
      link.Pairs (.object ref) (.object other)
  | function {ref other : FunctionRef} (paired : link.functions ref other) :
      link.Pairs (.function ref) (.function other)

variable {link wider : Link} {value other : Value}

theorem pairs_top (value : Value) : (⊤ : Link).Pairs value value := by
  cases value <;> constructor <;> trivial

variable (paired : link.Pairs value other)

include paired

theorem Pairs.mono (within : link ≤ wider) : wider.Pairs value other := by
  cases paired with
  | symbol known => exact .symbol (within.symbols known)
  | array paired => exact .array (within.arrays paired)
  | object paired => exact .object (within.objects paired)
  | function paired => exact .function (within.functions paired)
  | _ => constructor

theorem Pairs.kind_eq : value.kind = other.kind := by
  cases paired <;> rfl

theorem Pairs.describe_eq : value.describe = other.describe := by
  cases paired <;> rfl

theorem Pairs.isNullish_eq : value.isNullish = other.isNullish := by
  cases paired <;> rfl

theorem Pairs.isUndefined_eq : value.isUndefined = other.isUndefined := by
  cases paired <;> rfl

theorem Pairs.isTruthy_eq : value.isTruthy = other.isTruthy := by
  cases paired <;> rfl

/-- Equality comes out the same where paired cells are the same. -/
theorem Pairs.strictEquals_eq {right right' : Value} (rightPaired : link.Pairs right right')
    (arrays : ∀ {ref ref' last last'}, value = .array ref → right = .array last → link.arrays ref ref' →
      link.arrays last last' → (ref = last ↔ ref' = last'))
    (objects : ∀ {ref ref' last last'}, value = .object ref → right = .object last → link.objects ref ref' →
      link.objects last last' → (ref = last ↔ ref' = last'))
    (functions : ∀ {ref last ref' last'}, link.functions ref ref' → link.functions last last' →
      (ref = last ↔ ref' = last')) : value.strictEquals right = other.strictEquals right' := by
  cases paired with
  | array paired =>
    cases rightPaired with
    | array last => simp [Value.strictEquals, arrays rfl rfl paired last]
    | _ => rfl
  | object paired =>
    cases rightPaired with
    | object last => simp [Value.strictEquals, objects rfl rfl paired last]
    | _ => rfl
  | function paired =>
    cases rightPaired with
    | function last => simp [Value.strictEquals, functions paired last]
    | _ => rfl
  | _ => cases rightPaired <;> rfl

end Link

/-! ## Results -/

/-- When two results of one type are the same thing under a link. -/
structure Pairing (α : Type) where
  pairs : Link → α → α → Prop
  mono : ∀ {link wider result other}, pairs link result other → link ≤ wider →
    pairs wider result other
  top : ∀ result, pairs ⊤ result result

namespace Pairing

def value : Pairing Value := ⟨Link.Pairs, Link.Pairs.mono, Link.pairs_top⟩

/-- Data that refers to no cells. -/
def same : Pairing α := ⟨fun _ => Eq, fun equal _ => equal, fun _ => rfl⟩

def frame : Pairing FrameRef := ⟨Link.frames, fun paired within => within.frames paired,
  fun _ => trivial⟩

def arrayRef : Pairing ArrayRef := ⟨Link.arrays, fun paired within => within.arrays paired,
  fun _ => trivial⟩

def objectRef : Pairing ObjectRef := ⟨Link.objects, fun paired within => within.objects paired,
  fun _ => trivial⟩

def functionRef : Pairing FunctionRef := ⟨Link.functions, fun paired within => within.functions paired,
  fun _ => trivial⟩

def list (items : Pairing α) : Pairing (List α) where
  pairs link := List.Forall₂ (items.pairs link)
  mono paired within := paired.imp fun _ _ item => items.mono item within
  top _ := List.forall₂_same.mpr fun item _ => items.top item

def array : Pairing (Array Value) where
  pairs link elements others := value.list.pairs link elements.toList others.toList
  mono := value.list.mono
  top elements := value.list.top elements.toList

def option (item : Pairing α) : Pairing (Option α) where
  pairs link := Option.Rel (item.pairs link)
  mono paired within := by
    cases paired with
    | none => exact .none
    | some paired => exact .some (item.mono paired within)
  top result := by
    cases result with
    | none => exact .none
    | some result => exact .some (item.top result)

/-- Entries are looked up by name, so their order does not count. -/
def table : Pairing (Table Value) where
  pairs link entries others := ∀ name, value.option.pairs link (entries.get? name) (others.get? name)
  mono paired within name := value.option.mono (paired name) within
  top entries name := value.option.top (entries.get? name)

def prod (first : Pairing α) (second : Pairing β) : Pairing (α × β) where
  pairs link pair other := first.pairs link pair.1 other.1 ∧ second.pairs link pair.2 other.2
  mono paired within := ⟨first.mono paired.1 within, second.mono paired.2 within⟩
  top pair := ⟨first.top pair.1, second.top pair.2⟩

/-- Entries are paired one by one, under the same names. -/
def entries : Pairing (Table Value) := (same.prod value).list

end Pairing

open Exec (Round)

/-- Two rounds of a loop lead on in the same way. -/
inductive Pairing.Rounds (state : Pairing α) (link : Link) : Round α → Round α → Prop
  | again {result other : α} (paired : state.pairs link result other) :
      Rounds state link (.again result) (.again other)
  | finished {result other : α} (paired : state.pairs link result other) :
      Rounds state link (.finished result) (.finished other)

def Pairing.round (state : Pairing α) : Pairing (Round α) where
  pairs := state.Rounds
  mono paired within := by
    cases paired with
    | again paired => exact .again (state.mono paired within)
    | finished paired => exact .finished (state.mono paired within)
  top result := by
    cases result with
    | again result => exact .again (state.top result)
    | finished result => exact .finished (state.top result)

/-- Two failures that a script cannot tell apart. -/
structure Failure.Alike (cause other : Failure) : Prop where
  errorClass : cause.errorClass = other.errorClass
  code : cause.code = other.code
  message : cause.message = other.message

theorem Failure.Alike.refl (cause : Failure) : cause.Alike cause := ⟨rfl, rfl, rfl⟩

/-- Two reasons to stop that are the same thing. -/
inductive Link.Stops (link : Link) : Stop → Stop → Prop
  | failure {cause other : Failure} (alike : cause.Alike other) :
      link.Stops (.failure cause) (.failure other)
  | fault (cause : Fault) : link.Stops (.fault cause) (.fault cause)
  | returned {value other : Value} (paired : link.Pairs value other) :
      link.Stops (.signal (.returned value)) (.signal (.returned other))
  | broken : link.Stops (.signal .broken) (.signal .broken)
  | continued : link.Stops (.signal .continued) (.signal .continued)

theorem Link.Stops.mono {link wider : Link} {reason other : Stop} (paired : link.Stops reason other)
    (within : link ≤ wider) : wider.Stops reason other := by
  cases paired with
  | returned paired => exact .returned (paired.mono within)
  | failure alike => exact .failure alike
  | _ => constructor

theorem Link.stops_top (reason : Stop) : (⊤ : Link).Stops reason reason := by
  cases reason with
  | failure cause => exact .failure (.refl cause)
  | fault cause => exact .fault cause
  | signal signal =>
    cases signal with
    | returned value => exact .returned (pairs_top value)
    | broken => exact .broken
    | continued => exact .continued

/-! ## Bonds -/

/-- The effort allowed did not suffice, or there was nothing to go on with. -/
def Outcome.IsUnfinished : Outcome α → Prop
  | .unfinished _ => True
  | _ => False

instance (outcome : Outcome α) : Decidable outcome.IsUnfinished :=
  match outcome with
  | .done _ _ | .stopped _ _ => isFalse id
  | .unfinished _ => isTrue trivial

/-- A change that puts nothing new into an array. -/
def OnlyDrops (change : Array Value → Array Value) : Prop :=
  ∀ elements, ∀ value ∈ change elements, value ∈ elements

theorem onlyDrops_pop : OnlyDrops Array.pop := fun elements value member => by
  rw [← Array.mem_toList_iff, Array.toList_pop] at member
  exact Array.mem_toList_iff.mp (List.dropLast_subset _ member)

/-- What ties two runs together. -/
structure Bond where
  /-- The host of the first run. -/
  left : Host
  /-- The host of the second run. -/
  right : Host
  /-- The stores of the two runs are the same thing under a link. -/
  linked : Link → Store → Store → Prop
  /-- Where the second run need not follow the first. -/
  lost : Store → Prop
  /-- Where the first run may come to a standstill. -/
  stuck : Store → Prop
  /-- The first run may be cut short. -/
  shortLeft : Prop
  /-- The second run may be cut short. -/
  shortRight : Prop
  /-- Arrays may gain elements. -/
  gains : Prop := True
  /-- The arrays of the first run that must not be changed. -/
  frozen : Store → Value → Prop := fun _ _ => False
  /-- The arrays and objects of the first run that may be one in one of the runs and two in the other. -/
  confused : Store → Value → Value → Prop := fun _ _ _ => False
  /-- The faults that the first run may come to alone. -/
  excuses : Fault → Store → Prop := fun _ _ => False

namespace Bond

/-- Once lost, a run stays lost. -/
def losing (bond : Bond) : Conduct where
  holds := bond.lost
  writable _ := True
  makes _ := True
  allows _ := True

/-- The first run may stop for the reason alone: a fault that it may come to, or the failure that it becomes. -/
def Excused (bond : Bond) : Stop → Store → Prop
  | .fault cause, store => bond.excuses cause store
  | .failure (.host _ message), store => ∃ cause, bond.excuses cause store ∧ cause.message = message
  | _, _ => False

theorem not_excused {bond : Bond} (none : ∀ cause store, ¬bond.excuses cause store) {reason : Stop} {store : Store} :
    ¬bond.Excused reason store := by
  intro excused
  cases reason with
  | fault cause => exact none cause store excused
  | signal => exact excused
  | failure cause =>
    cases cause with
    | host =>
      obtain ⟨fault, excused, -⟩ := excused
      exact none fault store excused
    | _ => exact excused

/-- How the first run ends when it is alone. -/
def solitude (bond : Bond) : Ending α where
  done _ := bond.lost
  stopped reason store := bond.lost store ∨ bond.Excused reason store
  unfinished := bond.lost

/-- The second run was cut short. -/
def Cuts (bond : Bond) (mirror : Outcome α) : Prop := bond.shortRight ∧ mirror.IsUnfinished

/-- The effort allowed to the first run goes with that allowed to the second. -/
structure Affords (bond : Bond) (effort effort' : Nat) : Prop where
  left : bond.shortLeft ∨ effort' ≤ effort
  right : bond.shortRight ∨ effort ≤ effort'

theorem Affords.pred {bond : Bond} {effort effort' : Nat} (affords : bond.Affords (effort + 1) (effort' + 1)) :
    bond.Affords effort effort' :=
  ⟨affords.left.imp id Nat.le_of_succ_le_succ, affords.right.imp id Nat.le_of_succ_le_succ⟩

theorem Affords.short {bond : Bond} {effort : Nat} (affords : bond.Affords (effort + 1) 0) : bond.shortRight :=
  affords.right.resolve_right (Nat.not_succ_le_zero effort)

/-- How the first run ends, given how the second does. -/
def ending (bond : Bond) (pairs : Link → α → α → Prop) (link : Link) (mirror : Outcome α) :
    Ending α where
  done result store := bond.lost store ∨ bond.Cuts mirror ∨ ∃ wider, link ≤ wider ∧ ∃ other store',
    mirror = .done other store' ∧ pairs wider result other ∧ bond.linked wider store store'
  stopped reason store := (bond.lost store ∨ bond.Excused reason store) ∨ bond.Cuts mirror ∨
    ∃ wider, link ≤ wider ∧ ∃ other store', mirror = .stopped other store' ∧ wider.Stops reason other ∧ bond.linked wider store store'
  unfinished store := bond.lost store ∨ bond.shortLeft ∨ bond.stuck store ∨ bond.Cuts mirror ∨
    ∃ wider, link ≤ wider ∧ ∃ store', mirror = .unfinished store' ∧ bond.linked wider store store'

end Bond

/-- From two stores the two steps end in the same way. -/
def Exec.MirrorsAt (bond : Bond) (link : Link) (pairs : Link → α → α → Prop) (step mirror : Exec α)
    (store other : Store) : Prop :=
  (step bond.left store).Meets (bond.ending pairs link (mirror bond.right other))

/-- From stores that are linked, the two steps end in the same way; a run that is lost stays so. -/
structure Exec.Mirrors (bond : Bond) (link : Link) (pairs : Link → α → α → Prop)
    (step mirror : Exec α) : Prop where
  keeps : step.Follows bond.losing
  meets : ∀ wider, link ≤ wider → ∀ store other, bond.linked wider store other →
    (step bond.left store).Meets (bond.ending pairs wider (mirror bond.right other))

/-- The same, as long as the first store is one of those to start from. -/
structure Exec.MirrorsFrom (start : Store → Prop) (bond : Bond) (link : Link) (pairs : Link → α → α → Prop)
    (step mirror : Exec α) : Prop where
  keeps : step.Follows bond.losing
  meets : ∀ wider, link ≤ wider → ∀ store other, bond.linked wider store other → start store →
    (step bond.left store).Meets (bond.ending pairs wider (mirror bond.right other))

namespace Bond

variable {bond : Bond} {pairs : Link → α → α → Prop} {link wider : Link} {mirror : Outcome α}

theorem meets_of_lost {step : Exec α} (keeps : step.Follows bond.losing) {store : Store}
    (lost : bond.lost store) : (step bond.left store).Meets (bond.ending pairs link mirror) :=
  (keeps.meets bond.left store lost).mono (fun _ _ lost => .inl lost) (fun _ _ lost => .inl (.inl lost.2))
    (fun _ lost => .inl lost)

/-- A run that is alone stays alone. -/
theorem meets_of_solitude {outcome : Outcome α} (alone : outcome.Meets bond.solitude) :
    outcome.Meets (bond.ending pairs link mirror) :=
  alone.mono (fun _ _ => .inl) (fun _ _ => .inl) fun _ => .inl

/-- Nothing is claimed if the second run was cut short. -/
theorem meets_of_cuts (cuts : bond.Cuts mirror) (outcome : Outcome α) :
    outcome.Meets (bond.ending pairs link mirror) := by
  cases outcome with
  | done | stopped => exact .inr (.inl cuts)
  | unfinished => exact .inr (.inr (.inr (.inl cuts)))

/-- What is linked at the end is linked from the start of a longer run. -/
theorem meets_of_within {outcome : Outcome α} (meets : outcome.Meets (bond.ending pairs wider mirror))
    (within : link ≤ wider) : outcome.Meets (bond.ending pairs link mirror) := by
  refine meets.mono ?_ ?_ ?_
  · rintro result store (lost | cuts | ⟨last, after, rest⟩)
    · exact .inl lost
    · exact .inr (.inl cuts)
    · exact .inr (.inr ⟨last, within.trans after, rest⟩)
  · rintro reason store (lost | cuts | ⟨last, after, rest⟩)
    · exact .inl lost
    · exact .inr (.inl cuts)
    · exact .inr (.inr ⟨last, within.trans after, rest⟩)
  · refine fun store => .imp id (.imp id (.imp id (.imp id ?_)))
    rintro ⟨last, after, rest⟩
    exact ⟨last, within.trans after, rest⟩

theorem meets_done {result other : α} {store store' : Store} (linked : bond.linked link store store')
    (paired : pairs link result other) :
    (Outcome.done result store).Meets (bond.ending pairs link (.done other store')) :=
  .inr (.inr ⟨link, le_rfl, other, store', rfl, paired, linked⟩)

theorem meets_stopped {reason other : Stop} {store store' : Store}
    (linked : bond.linked link store store') (paired : link.Stops reason other) :
    (Outcome.stopped reason store : Outcome α).Meets (bond.ending pairs link (.stopped other store')) :=
  .inr (.inr ⟨link, le_rfl, other, store', rfl, paired, linked⟩)

end Bond

namespace Exec

variable {bond : Bond} {link wider : Link} {first : Link → α → α → Prop} {pairs : Link → β → β → Prop}
  {step mirror : Exec α}

theorem Mirrors.mono (mirrors : step.Mirrors bond link first mirror) (within : link ≤ wider) :
    step.Mirrors bond wider first mirror :=
  ⟨mirrors.keeps, fun last after => mirrors.meets last (within.trans after)⟩

/-- Steps that are mirrored as long as the stores are linked are mirrored. -/
theorem mirrors_of_linked (keeps : step.Follows bond.losing)
    (mirrors : ∀ wider, link ≤ wider → ∀ store store', bond.linked wider store store' →
      step.Mirrors bond wider first mirror) : step.Mirrors bond link first mirror :=
  ⟨keeps, fun wider within store store' linked =>
    (mirrors wider within store store' linked).meets wider le_rfl store store' linked⟩

theorem Mirrors.from (mirrors : step.Mirrors bond link first mirror) (start : Store → Prop) :
    step.MirrorsFrom start bond link first mirror :=
  ⟨mirrors.keeps, fun wider within store store' linked _ => mirrors.meets wider within store store' linked⟩

theorem MirrorsFrom.imp {start narrower : Store → Prop} (mirrors : step.MirrorsFrom start bond link first mirror)
    (starts : ∀ store, narrower store → start store) : step.MirrorsFrom narrower bond link first mirror :=
  ⟨mirrors.keeps, fun wider within store store' linked narrow =>
    mirrors.meets wider within store store' linked (starts store narrow)⟩

theorem MirrorsFrom.everywhere {start : Store → Prop} (mirrors : step.MirrorsFrom start bond link first mirror)
    (starts : ∀ store, start store) : step.Mirrors bond link first mirror :=
  ⟨mirrors.keeps, fun wider within store store' linked => mirrors.meets wider within store store' linked (starts store)⟩

/-- Steps that go on are mirrored from two stores, if the steps that they go on with are mirrored from the
stores that the first ones lead to. -/
theorem MirrorsAt.settle {store store' : Store} {onDone onDone' : α → Exec β} {onStop onStop' : Stop → Exec β}
    (steps : step.MirrorsAt bond link first mirror store store')
    (keeps : ∀ result, (onDone result).Follows bond.losing) (keepsStop : ∀ reason, (onStop reason).Follows bond.losing)
    (alone : ∀ reason after, bond.Excused reason after → (onStop reason bond.left after).Meets bond.solitude)
    (results : ∀ wider, link ≤ wider → ∀ result result' after after', step bond.left store = .done result after →
      first wider result result' → bond.linked wider after after' →
      (onDone result).MirrorsAt bond wider pairs (onDone' result') after after')
    (stops : ∀ wider, link ≤ wider → ∀ reason reason' after after', wider.Stops reason reason' →
      bond.linked wider after after' → (onStop reason).MirrorsAt bond wider pairs (onStop' reason') after after') :
    (settle step onDone onStop).MirrorsAt bond link pairs (settle mirror onDone' onStop') store store' := by
  have unfinished (cut : (mirror bond.right store').IsUnfinished) :
      (Exec.settle mirror onDone' onStop' bond.right store').IsUnfinished := by
    unfold Exec.settle
    generalize mirror bond.right store' = outcome' at cut ⊢
    cases outcome' with
    | unfinished => exact trivial
    | _ => exact cut.elim
  have cut {outcome : Outcome β} (cuts : bond.Cuts (mirror bond.right store')) : outcome.Meets
      (bond.ending pairs link (Exec.settle mirror onDone' onStop' bond.right store')) :=
    Bond.meets_of_cuts ⟨cuts.1, unfinished cuts.2⟩ outcome
  unfold MirrorsAt at steps ⊢
  rw [meets_settle]
  cases outcome : step bond.left store with
  | done result after =>
    rw [outcome] at steps
    rcases steps with lost | cuts | ⟨last, further, result', after', ends, paired, linked⟩
    · exact Bond.meets_of_lost (keeps result) lost
    · exact cut cuts
    · rw [Exec.settle, ends]
      exact Bond.meets_of_within (results last further result result' after after' outcome paired linked) further
  | stopped reason after =>
    rw [outcome] at steps
    rcases steps with (lost | excused) | cuts | ⟨last, further, reason', after', ends, paired, linked⟩
    · exact Bond.meets_of_lost (keepsStop reason) lost
    · exact Bond.meets_of_solitude (alone reason after excused)
    · exact cut cuts
    · rw [Exec.settle, ends]
      exact Bond.meets_of_within (stops last further reason reason' after after' paired linked) further
  | unfinished after =>
    rw [outcome] at steps
    refine steps.imp id (.imp id (.imp id (.imp (fun cuts => ⟨cuts.1, unfinished cuts.2⟩) ?_)))
    rintro ⟨last, further, after', ends, linked⟩
    exact ⟨last, further, after', by rw [Exec.settle, ends], linked⟩

/-- A run that is lost stops for a reason that is still paired with itself, by the link that pairs everything;
so what follows a stop is known to stay lost. -/
theorem follows_of_stops {onStop onStop' : Stop → Exec β}
    (stops : ∀ wider, link ≤ wider → ∀ reason reason', wider.Stops reason reason' →
      (onStop reason).Mirrors bond wider pairs (onStop' reason')) (reason : Stop) :
    (onStop reason).Follows bond.losing := (stops ⊤ le_top reason reason (Link.stops_top reason)).keeps

theorem Mirrors.settle_of_keeps {onDone onDone' : α → Exec β} {onStop onStop' : Stop → Exec β}
    (steps : step.Mirrors bond link first mirror) (keeps : ∀ result, (onDone result).Follows bond.losing)
    (alone : ∀ reason after, bond.Excused reason after → (onStop reason bond.left after).Meets bond.solitude)
    (results : ∀ wider, link ≤ wider → ∀ result result', first wider result result' →
      (onDone result).Mirrors bond wider pairs (onDone' result'))
    (stops : ∀ wider, link ≤ wider → ∀ reason reason', wider.Stops reason reason' →
      (onStop reason).Mirrors bond wider pairs (onStop' reason')) :
    (settle step onDone onStop).Mirrors bond link pairs (settle mirror onDone' onStop') := by
  refine ⟨steps.keeps.settle id id keeps fun reason _ => follows_of_stops stops reason,
    fun wider within store store' linked => ?_⟩
  have here : step.MirrorsAt bond wider first mirror store store' := steps.meets wider within store store' linked
  refine here.settle keeps (follows_of_stops stops) alone ?_ ?_
  · intro last further result result' after after' _ paired linked
    exact (results last (within.trans further) result result' paired).meets last le_rfl _ _ linked
  · intro last further reason reason' after after' paired linked
    exact (stops last (within.trans further) reason reason' paired).meets last le_rfl _ _ linked

theorem Mirrors.settle {pairing : Pairing α} {onDone onDone' : α → Exec β} {onStop onStop' : Stop → Exec β}
    (steps : step.Mirrors bond link pairing.pairs mirror)
    (alone : ∀ reason after, bond.Excused reason after → (onStop reason bond.left after).Meets bond.solitude)
    (results : ∀ wider, link ≤ wider → ∀ result result', pairing.pairs wider result result' →
      (onDone result).Mirrors bond wider pairs (onDone' result'))
    (stops : ∀ wider, link ≤ wider → ∀ reason reason', wider.Stops reason reason' →
      (onStop reason).Mirrors bond wider pairs (onStop' reason')) :
    (settle step onDone onStop).Mirrors bond link pairs (settle mirror onDone' onStop') :=
  steps.settle_of_keeps (fun result => (results ⊤ le_top result result (pairing.top result)).keeps) alone
    results stops

theorem mirrors_stop {reason other : Stop} (paired : link.Stops reason other) :
    (stop reason).Mirrors bond link first (stop other) :=
  ⟨follows_stop trivial, fun _ within _ _ linked =>
    Bond.meets_stopped linked (paired.mono within)⟩

theorem meets_stop_of_excused {reason : Stop} {store : Store} (excused : bond.Excused reason store) :
    (stop reason bond.left store : Outcome α).Meets bond.solitude := .inr excused

theorem Mirrors.bind_of_keeps {next other : α → Exec β} (steps : step.Mirrors bond link first mirror)
    (keeps : ∀ result, (next result).Follows bond.losing)
    (rest : ∀ wider, link ≤ wider → ∀ result result', first wider result result' →
      (next result).Mirrors bond wider pairs (other result')) :
    (step >>= next).Mirrors bond link pairs (mirror >>= other) := by
  rw [bind_eq_settle, bind_eq_settle]
  exact steps.settle_of_keeps keeps (fun _ _ => meets_stop_of_excused) rest fun _ _ _ _ paired => mirrors_stop paired

theorem Mirrors.bind {pairing : Pairing α} {next other : α → Exec β}
    (steps : step.Mirrors bond link pairing.pairs mirror)
    (rest : ∀ wider, link ≤ wider → ∀ result result', pairing.pairs wider result result' →
      (next result).Mirrors bond wider pairs (other result')) :
    (step >>= next).Mirrors bond link pairs (mirror >>= other) := by
  rw [bind_eq_settle, bind_eq_settle]
  exact steps.settle (fun _ _ => meets_stop_of_excused) rest fun _ _ _ _ paired => mirrors_stop paired

/-- What goes on starts from a store that the first step led to. -/
theorem Mirrors.bind_from {pairing : Pairing α} {start : Store → Prop} {next other : α → Exec β}
    (steps : step.Mirrors bond link pairing.pairs mirror)
    (rest : ∀ wider, link ≤ wider → ∀ result result', pairing.pairs wider result result' →
      (next result).MirrorsFrom (fun after => ∃ store, start store ∧ step bond.left store = .done result after)
        bond wider pairs (other result')) :
    (step >>= next).MirrorsFrom start bond link pairs (mirror >>= other) := by
  have keeps (result : α) := (rest ⊤ le_top result result (pairing.top result)).keeps
  refine ⟨steps.keeps.bind keeps, fun wider within store store' linked starts => ?_⟩
  have here : step.MirrorsAt bond wider pairing.pairs mirror store store' := steps.meets wider within store store' linked
  rw [bind_eq_settle, bind_eq_settle]
  refine here.settle keeps (fun _ => follows_stop trivial) (fun _ _ => meets_stop_of_excused) ?_ ?_
  · intro last further result result' after after' ends paired linked
    exact (rest last (within.trans further) result result' paired).meets last le_rfl _ _ linked ⟨store, starts, ends⟩
  · exact fun last _ _ _ after after' paired linked => (mirrors_stop paired).meets last le_rfl after after' linked

theorem Mirrors.bind_same {next other : α → Exec β} (steps : step.Mirrors bond link (Pairing.same).pairs mirror)
    (rest : ∀ wider, link ≤ wider → ∀ result, (next result).Mirrors bond wider pairs (other result)) :
    (step >>= next).Mirrors bond link pairs (mirror >>= other) := by
  refine steps.bind fun wider within result _ same => ?_
  cases same
  exact rest wider within result

/-- More can be said of the results by looking at the two steps on their own. -/
theorem Mirrors.strengthen {step mirror : Exec β} {stronger : Link → β → β → Prop}
    (mirrors : step.Mirrors bond link pairs mirror)
    (results : ∀ wider, link ≤ wider → ∀ store store', bond.linked wider store store' →
      ∀ result other after after', step bond.left store = .done result after →
        mirror bond.right store' = .done other after' → ∀ last, wider ≤ last →
          pairs last result other → stronger last result other) :
    step.Mirrors bond link stronger mirror := by
  refine ⟨mirrors.keeps, fun wider within store store' linked => ?_⟩
  have ends := mirrors.meets wider within store store' linked
  cases outcome : step bond.left store with
  | unfinished | stopped =>
    rw [outcome] at ends
    exact ends
  | done result after =>
    rw [outcome] at ends
    rcases ends with lost | cuts | ⟨last, further, other, after', mirrored, paired, linkedAfter⟩
    · exact .inl lost
    · exact .inr (.inl cuts)
    · have known := results wider within store store' linked result other after after' outcome mirrored
        last further paired
      exact .inr (.inr ⟨last, further, other, after', mirrored, known, linkedAfter⟩)

theorem Mirrors.imp {step mirror : Exec β} {weaker : Link → β → β → Prop}
    (mirrors : step.Mirrors bond link pairs mirror)
    (weakens : ∀ wider, link ≤ wider → ∀ result other, pairs wider result other →
      weaker wider result other) : step.Mirrors bond link weaker mirror :=
  mirrors.strengthen fun _ within _ _ _ result other _ _ _ _ last further =>
    weakens last (within.trans further) result other

theorem mirrors_done {result other : α}
    (paired : ∀ wider, link ≤ wider → first wider result other) :
    (done result).Mirrors bond link first (done other) :=
  ⟨follows_done result, fun wider within _ _ linked =>
    Bond.meets_done linked (paired wider within)⟩

theorem mirrors_pure {pairing : Pairing α} {result other : α} (paired : pairing.pairs link result other) :
    (pure result : Exec α).Mirrors bond link pairing.pairs (pure other) :=
  mirrors_done fun _ within => pairing.mono paired within

theorem mirrors_fail {cause other : Failure} (alike : cause.Alike other) :
    (fail cause).Mirrors bond link first (fail other) := mirrors_stop (.failure alike)

theorem mirrors_crash (cause : Fault) : (crash cause).Mirrors bond link first (crash cause) :=
  mirrors_stop (.fault cause)

theorem mirrors_unfinished {mirror : Exec α} (short : bond.shortLeft ∨ mirror = unfinished) :
    unfinished.Mirrors bond link first mirror := by
  refine ⟨follows_unfinished, fun wider within store store' linked => .inr ?_⟩
  rcases short with short | rfl
  · exact .inl short
  · exact .inr (.inr (.inr ⟨wider, le_rfl, store', rfl, linked⟩))

/-- Nothing is claimed if the second run is cut short. -/
theorem mirrors_of_short (short : bond.shortRight) {step : Exec α} (keeps : step.Follows bond.losing) :
    step.Mirrors bond link first unfinished := by
  refine ⟨keeps, fun wider within store store' linked => ?_⟩
  have cuts : bond.Cuts (unfinished bond.right store' : Outcome α) := ⟨short, trivial⟩
  exact Bond.meets_of_cuts cuts _

theorem mirrors_read {view other : Store → α}
    (paired : ∀ wider, link ≤ wider → ∀ store store', bond.linked wider store store' →
      first wider (view store) (other store')) :
    (read view).Mirrors bond link first (read other) :=
  ⟨follows_read view, fun wider within store store' linked =>
    Bond.meets_done linked (paired wider within store store' linked)⟩

theorem mirrors_read? {view other : Store → Option α}
    (paired : ∀ wider, link ≤ wider → ∀ store store', bond.linked wider store store' →
      ∀ result, view store = some result → ∃ result', other store' = some result' ∧
        first wider result result')
    (stuck : ∀ wider, link ≤ wider → ∀ store store', bond.linked wider store store' →
      view store = none → bond.stuck store ∨ other store' = none) :
    (read? view).Mirrors bond link first (read? other) := by
  refine ⟨follows_read? view, fun wider within store store' linked => ?_⟩
  unfold read?
  cases seen : view store with
  | none =>
    rcases stuck wider within store store' linked seen with stuck | none
    · exact .inr (.inr (.inl stuck))
    · rw [none]
      exact .inr (.inr (.inr (.inr ⟨wider, le_rfl, store', rfl, linked⟩)))
  | some result =>
    obtain ⟨result', seen', paired⟩ := paired wider within store store' linked result seen
    rw [seen']
    exact Bond.meets_done linked paired

theorem mirrors_change {update other : Store → Store}
    (keeps : ∀ store, bond.lost store → bond.lost (update store))
    (links : ∀ wider, link ≤ wider → ∀ store store', bond.linked wider store store' →
      bond.linked wider (update store) (other store')) :
    (change update).Mirrors bond link (Pairing.same).pairs (change other) :=
  ⟨follows_change keeps, fun wider within store store' linked =>
    Bond.meets_done (links wider within store store' linked) rfl⟩

theorem mirrors_create {add other : Store → α × Store}
    (keeps : ∀ store, bond.lost store → bond.lost (add store).2)
    (links : ∀ wider, link ≤ wider → ∀ store store', bond.linked wider store store' →
      ∃ last, wider ≤ last ∧ first last (add store).1 (other store').1 ∧
        bond.linked last (add store).2 (other store').2) :
    (create add).Mirrors bond link first (create other) := by
  refine ⟨follows_create keeps, fun wider within store store' linked => ?_⟩
  obtain ⟨last, further, paired, linked⟩ := links wider within store store' linked
  exact .inr (.inr ⟨last, further, _, _, rfl, paired, linked⟩)

/-- The two runs may see different hosts. -/
theorem mirrors_host {next other : Host → Exec β} (keeps : ∀ host, (next host).Follows bond.losing)
    (rest : (next bond.left).Mirrors bond link pairs (other bond.right)) :
    (Exec.host >>= next).Mirrors bond link pairs (Exec.host >>= other) := by
  refine ⟨follows_host.bind keeps, fun wider within store store' linked => ?_⟩
  exact rest.meets wider within store store' linked

theorem mirrors_ofArithmetic (answer : Except ArithmeticFault α) :
    (ofArithmetic answer).Mirrors bond link (Pairing.same).pairs (ofArithmetic answer) := by
  cases answer with
  | ok result => exact mirrors_done fun _ _ => rfl
  | error fault => exact mirrors_crash (.arithmetic fault)

/-- Steps for the items of two lists are mirrored item by item. -/
theorem mirrors_each {results : Pairing β} {step other : α → Exec β} {items others : List α}
    (steps : List.Forall₂ (fun item item' =>
      (step item).Mirrors bond link results.pairs (other item')) items others) :
    (each step items).Mirrors bond link results.list.pairs (each other others) := by
  induction steps with
  | nil => exact mirrors_done fun _ _ => .nil
  | cons head tail ih =>
    refine head.bind fun wider within result result' paired => ?_
    refine Mirrors.bind (ih.mono within) fun last further results' others' later => ?_
    exact mirrors_pure (.cons (results.mono paired further) later)

theorem mirrors_each_same {results : Pairing β} {step other : α → Exec β} {items : List α}
    (steps : ∀ item ∈ items, (step item).Mirrors bond link results.pairs (other item)) :
    (each step items).Mirrors bond link results.list.pairs (each other items) :=
  mirrors_each (List.forall₂_same.mpr steps)

theorem hosted_eq_settle_stop (name : String) (step : Exec α) :
    hosted name step = settle step done fun reason => hosted name (stop reason) := by
  rw [hosted_eq_settle]
  congr
  funext reason
  cases reason <;> rfl

theorem mirrors_hosted_stop (name : String) {reason reason' : Stop} (stops : link.Stops reason reason') :
    (hosted name (stop reason)).Mirrors bond link first (hosted name (stop reason')) := by
  cases stops with
  | fault cause => exact mirrors_fail (.refl _)
  | failure alike => exact mirrors_stop (.failure alike)
  | returned paired => exact mirrors_stop (.returned paired)
  | broken => exact mirrors_stop .broken
  | continued => exact mirrors_stop .continued

theorem follows_hosted_stop (name : String) (reason : Stop) : (hosted name (stop reason) : Exec α).Follows bond.losing := by
  cases reason <;> exact follows_stop trivial

theorem meets_hosted_of_excused (name : String) {reason : Stop} {store : Store} (excused : bond.Excused reason store) :
    (hosted name (stop reason) bond.left store : Outcome α).Meets bond.solitude := by
  cases reason with
  | fault cause => exact .inr ⟨cause, excused, rfl⟩
  | failure | signal => exact .inr excused

theorem MirrorsFrom.hosted {results : Pairing α} {start : Store → Prop} {name : String}
    (mirrors : step.MirrorsFrom start bond link results.pairs mirror) :
    (hosted name step).MirrorsFrom start bond link results.pairs (hosted name mirror) := by
  rw [hosted_eq_settle_stop, hosted_eq_settle_stop]
  refine ⟨mirrors.keeps.settle id id (fun _ => follows_pure _) fun reason _ => follows_hosted_stop name reason,
    fun wider within store store' linked starts => ?_⟩
  refine MirrorsAt.settle (mirrors.meets wider within store store' linked starts) (fun _ => follows_pure _)
    (follows_hosted_stop name) (fun _ _ => meets_hosted_of_excused name) (fun last _ _ _ _ _ _ paired linked => ?_)
    fun last _ _ _ _ _ stops linked => (mirrors_hosted_stop name stops).meets last le_rfl _ _ linked
  exact (mirrors_pure paired).meets last le_rfl _ _ linked

theorem Mirrors.hosted {results : Pairing α} {name : String}
    (mirrors : step.Mirrors bond link results.pairs mirror) :
    (hosted name step).Mirrors bond link results.pairs (hosted name mirror) :=
  (mirrors.from fun _ => True).hosted.everywhere fun _ => trivial

/-- Handlers receive failures that a script cannot tell apart. -/
theorem Mirrors.catching {results : Pairing α} {handler other : Failure → Exec α}
    (mirrors : step.Mirrors bond link results.pairs mirror)
    (alone : ∀ cause after, bond.Excused (.failure cause) after → (handler cause bond.left after).Meets bond.solitude)
    (handlers : ∀ wider, link ≤ wider → ∀ cause cause', cause.Alike cause' →
      (handler cause).Mirrors bond wider results.pairs (other cause')) :
    (catching step handler).Mirrors bond link results.pairs (catching mirror other) := by
  rw [catching_eq_settle, catching_eq_settle]
  refine mirrors.settle (fun reason after excused => ?_) (fun _ _ _ _ paired => mirrors_pure paired)
    fun wider within _ _ stops => ?_
  · cases reason with
    | failure cause => exact alone cause after excused
    | fault | signal => exact .inr excused
  · cases stops with
    | failure alike => exact handlers wider within _ _ alike
    | fault cause => exact mirrors_stop (.fault cause)
    | returned paired => exact mirrors_stop (.returned paired)
    | broken => exact mirrors_stop .broken
    | continued => exact mirrors_stop .continued

/-- A loop goes on in both runs, or ends in both. -/
theorem Mirrors.absorbJumps {body body' : Exec Value} {last last' : Value}
    (mirrors : body.Mirrors bond link Pairing.value.pairs body') (paired : link.Pairs last last') :
    (absorbJumps last body).Mirrors bond link Pairing.value.round.pairs (absorbJumps last' body') := by
  rw [absorbJumps_eq_settle, absorbJumps_eq_settle]
  refine mirrors.settle (fun reason _ excused => ?_) (fun _ _ _ _ value => mirrors_pure (.again value))
    fun wider within _ _ stops => ?_
  · cases reason with
    | fault | failure => exact .inr excused
    | signal => exact excused.elim
  have kept := paired.mono within
  cases stops with
  | failure alike => exact mirrors_stop (.failure alike)
  | fault cause => exact mirrors_stop (.fault cause)
  | returned value => exact mirrors_stop (.returned value)
  | broken => exact mirrors_pure (.finished kept)
  | continued => exact mirrors_pure (.again kept)

/-- A function takes the `return` of its body, whatever else its body gives. -/
theorem Mirrors.absorbReturn {results : Link → Value → Value → Prop} {body body' : Exec Value}
    (mirrors : body.Mirrors bond link results body') (name : String) :
    (absorbReturn name body).Mirrors bond link Pairing.value.pairs (absorbReturn name body') := by
  rw [absorbReturn_eq_settle, absorbReturn_eq_settle]
  refine mirrors.settle_of_keeps (fun _ => follows_done _) (fun reason _ excused => ?_)
    (fun _ _ _ _ _ => mirrors_pure .undefined) fun _ _ _ _ stops => ?_
  · cases reason with
    | fault | failure => exact .inr excused
    | signal => exact excused.elim
  cases stops with
  | failure alike => exact mirrors_stop (.failure alike)
  | fault cause => exact mirrors_stop (.fault cause)
  | returned value => exact mirrors_pure value
  | broken | continued => exact mirrors_fail (.refl _)

/-- A loop is mirrored by a loop, as far as the rounds that they are allowed go. -/
theorem mirrors_repeatRounds {states : Pairing β} {round other : β → Exec (Round β)}
    (rounds : ∀ wider, link ≤ wider → ∀ state state', states.pairs wider state state' →
      (round state).Mirrors bond wider states.round.pairs (other state'))
    {effort effort' : Nat} (affords : bond.Affords effort effort') {state state' : β}
    (paired : states.pairs link state state') :
    (repeatRounds round effort state).Mirrors bond link states.pairs
      (repeatRounds other effort' state') := by
  induction effort generalizing effort' link state state' with
  | zero =>
    refine mirrors_unfinished (affords.left.imp id fun none => ?_)
    rw [Nat.le_zero.mp none]
    rfl
  | succ effort ih =>
    cases effort' with
    | zero =>
      have keeps (state : β) : (round state).Follows bond.losing :=
        (rounds ⊤ le_top state state (states.top state)).keeps
      exact mirrors_of_short affords.short (follows_repeatRounds keeps _ state)
    | succ effort' =>
      rw [repeatRounds_succ, repeatRounds_succ]
      refine (rounds link le_rfl state state' paired).bind fun wider within result result' paired => ?_
      cases paired with
      | again paired =>
        exact ih (fun last further => rounds last (within.trans further)) affords.pred paired
      | finished paired => exact mirrors_pure paired

end Exec

end TreeScript
