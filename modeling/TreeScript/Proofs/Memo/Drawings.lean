import TreeScript.Proofs.Memo.Sharing

/-! # Values that are drawn alike

Two lists of arguments with one key are drawn alike, each argument in the store of its own time: their
pictures agree, whichever cells they are made of. Values that are drawn alike are of one kind and hold
values that are drawn alike. So a value of an early store that is drawn like a later one can stand for
it, and it can be linked to whatever the later one is linked to.
-/

namespace TreeScript

open Picture

/-! ## Pictures that agree -/

namespace Store

variable {left right : Store} {value other : Value} {identity : FunctionRef → Nat}

/-- A value of one store and a value of another have pictures that agree. -/
def DrawnAlike (left right : Store) (value other : Value) : Prop :=
  ∃ identity bound picture otherBound otherPicture, Function.Injective identity ∧
    left.pictureWithin identity bound value = some picture ∧
    right.pictureWithin identity otherBound other = some otherPicture ∧
    picture.canonical = otherPicture.canonical

theorem DrawnAlike.kind_eq (alike : left.DrawnAlike right value other) :
    pictureKind value = pictureKind other := by
  obtain ⟨_, _, picture, _, otherPicture, injective, drawn, otherDrawn, same⟩ := alike
  rw [← kind_of_pictureWithin drawn, ← kind_of_pictureWithin otherDrawn, ← kind_canonical picture, same,
    kind_canonical]

theorem DrawnAlike.eq_of_isScalar (alike : left.DrawnAlike right value other)
    (scalar : value.isScalar = true) : value = other := by
  have kinds := alike.kind_eq
  obtain ⟨_, _, picture, _, otherPicture, injective, drawn, otherDrawn, same⟩ := alike
  cases value with
  | symbol | array | object | function => cases scalar
  | undefined | null =>
    cases other <;> cases kinds
    rfl
  | _ =>
    cases other <;> cases kinds
    rw [pictureWithin] at drawn otherDrawn
    cases drawn
    cases otherDrawn
    cases same
    rfl

theorem sort_ne_symbol (function : Option Callable) : (function.map Callable.sort).getD .function ≠ .symbol := by
  rcases function with _ | _ | _ | _ | _ <;> exact nofun

/-- Symbols are drawn by their numbers. -/
theorem DrawnAlike.of_symbol {symbol : Symbol} (alike : left.DrawnAlike right (.symbol symbol) other) :
    ∃ otherSymbol : Symbol, other = .symbol otherSymbol ∧ symbol.id = otherSymbol.id := by
  have kinds := alike.kind_eq
  obtain ⟨_, _, picture, _, otherPicture, injective, drawn, otherDrawn, same⟩ := alike
  rw [pictureWithin] at drawn
  cases drawn
  cases other with
  | symbol otherSymbol =>
    rw [pictureWithin] at otherDrawn
    cases otherDrawn
    simp only [canonical, Picture.reference.injEq] at same
    exact ⟨otherSymbol, rfl, same.2⟩
  | function ref =>
    rw [pictureWithin] at otherDrawn
    cases otherDrawn
    simp only [canonical, Picture.reference.injEq] at same
    exact absurd same.1.symm (sort_ne_symbol _)
  | _ => cases kinds

/-- Functions are drawn by their cells. -/
theorem DrawnAlike.of_function {ref : FunctionRef} (alike : left.DrawnAlike right (.function ref) other) :
    other = .function ref := by
  have kinds := alike.kind_eq
  obtain ⟨_, _, picture, _, otherPicture, injective, drawn, otherDrawn, same⟩ := alike
  rw [pictureWithin] at drawn
  cases drawn
  cases other with
  | function otherRef =>
    rw [pictureWithin] at otherDrawn
    cases otherDrawn
    simp only [canonical, Picture.reference.injEq] at same
    rw [injective same.2]
  | symbol symbol =>
    rw [pictureWithin] at otherDrawn
    cases otherDrawn
    simp only [canonical, Picture.reference.injEq] at same
    exact absurd same.1 (sort_ne_symbol _)
  | _ => cases kinds

/-- Lists whose pictures agree are drawn alike item by item. -/
theorem drawnAlike_all {values others : List Value} {pictures otherPictures : List Picture}
    {bound otherBound : Nat} (injective : Function.Injective identity)
    (drawn : values.mapM (left.pictureWithin identity bound) = some pictures)
    (otherDrawn : others.mapM (right.pictureWithin identity otherBound) = some otherPictures)
    (same : pictures.map canonical = otherPictures.map canonical) :
    List.Forall₂ (left.DrawnAlike right) values others := by
  rw [mapM_eq_some_iff] at drawn otherDrawn
  induction drawn generalizing others otherPictures with
  | nil =>
    cases otherDrawn with
    | nil => exact .nil
    | cons => cases same
  | cons first _ ih =>
    cases otherDrawn with
    | nil => cases same
    | cons otherFirst otherLater =>
      rw [List.map_cons, List.map_cons, List.cons.injEq] at same
      exact .cons ⟨_, _, _, _, _, injective, first, otherFirst, same.1⟩ (ih otherLater same.2)

/-- Arrays that are drawn alike hold elements that are. -/
theorem DrawnAlike.of_array {ref : ArrayRef} (alike : left.DrawnAlike right (.array ref) other) :
    ∃ otherRef, other = .array otherRef ∧ List.Forall₂ (left.DrawnAlike right)
      (left.elements ref).toList (right.elements otherRef).toList := by
  have kinds := alike.kind_eq
  obtain ⟨_, _, picture, _, otherPicture, injective, drawn, otherDrawn, same⟩ := alike
  cases other with
  | array otherRef =>
    obtain ⟨_, pictures, shown, rfl⟩ := eq_array_of_pictureWithin drawn
    obtain ⟨_, otherPictures, otherShown, rfl⟩ := eq_array_of_pictureWithin otherDrawn
    exact ⟨otherRef, rfl, drawnAlike_all injective shown otherShown (canonical_array_eq_iff.mp same)⟩
  | _ => cases kinds

/-- Objects that are drawn alike hold members that are, name by name. -/
theorem DrawnAlike.of_object (distinct : left.NamesDistinct) (otherDistinct : right.NamesDistinct)
    {ref : ObjectRef} (alike : left.DrawnAlike right (.object ref) other) :
    ∃ otherRef, other = .object otherRef ∧ ∀ name, Option.Rel (left.DrawnAlike right)
      ((left.entries ref).get? name) ((right.entries otherRef).get? name) := by
  have kinds := alike.kind_eq
  obtain ⟨_, _, picture, _, otherPicture, injective, drawn, otherDrawn, same⟩ := alike
  cases other with
  | object otherRef =>
    obtain ⟨_, pictures, shown, rfl⟩ := eq_object_of_pictureWithin drawn
    obtain ⟨_, otherPictures, otherShown, rfl⟩ := eq_object_of_pictureWithin otherDrawn
    rw [canonical_object_eq_iff (distinct ref) (otherDistinct otherRef) shown otherShown] at same
    refine ⟨otherRef, rfl, fun name => ?_⟩
    have sameHere := same name
    rcases get?_canonicalEntries shown name with ⟨absent, unseen⟩ | ⟨value, picture, held, drawn, seen⟩
    · rcases get?_canonicalEntries otherShown name with ⟨otherAbsent, -⟩ | ⟨_, _, -, -, otherSeen⟩
      · rw [absent, otherAbsent]
        exact .none
      · cases unseen.symm.trans (sameHere.trans otherSeen)
    · rcases get?_canonicalEntries otherShown name with
        ⟨-, otherUnseen⟩ | ⟨otherValue, otherPicture, otherHeld, otherDrawn, otherSeen⟩
      · cases otherUnseen.symm.trans (sameHere.symm.trans seen)
      · rw [held, otherHeld]
        rw [seen, otherSeen] at sameHere
        exact .some ⟨_, _, _, _, _, injective, drawn, otherDrawn, Option.some.inj sameHere⟩
  | _ => cases kinds

/-- Whatever has a key has pictures that the key is made of. -/
theorem exists_pictures_of_key? {store : Store} {values : List Value} {key : String}
    (keyed : store.key? values identity = some key) :
    ∃ pictures, values.mapM (store.picture? · identity) = some pictures ∧
      key = String.ofList (Picture.array pictures).keyChars := by
  cases drawn : values.mapM (store.picture? · identity) with
  | none => simp [key?, drawn] at keyed
  | some pictures => exact ⟨pictures, rfl, Option.some.inj (keyed.symm.trans (key?_eq_some drawn))⟩

/-- Arguments with one key are drawn alike. -/
theorem drawnAlike_of_key? {values others : List Value} {key : String}
    (injective : Function.Injective identity) (keyed : left.key? values identity = some key)
    (otherKeyed : right.key? others identity = some key) :
    List.Forall₂ (left.DrawnAlike right) values others := by
  obtain ⟨pictures, drawn, rfl⟩ := exists_pictures_of_key? keyed
  obtain ⟨otherPictures, otherDrawn, same⟩ := exists_pictures_of_key? otherKeyed
  rw [String.ofList_inj, keyChars_eq_iff, canonical_array_eq_iff] at same
  exact drawnAlike_all injective drawn otherDrawn same

end Store

/-! ## Links through a drawing -/

namespace Link

/-- Link what was known in an early store to whatever a later link pairs with values that are drawn
alike and can be reached from given ones. -/
def through (known : Link) (early later : Store) (roots : Value → Prop) (link : Link) : Link where
  frames _ _ := False
  arrays ref last := (∃ seen, known.arrays ref seen) ∧ ∃ other, early.DrawnAlike later (.array ref) (.array other) ∧
    later.Reaches roots (.array other) ∧ link.arrays other last
  objects ref last := (∃ seen, known.objects ref seen) ∧ ∃ other, early.DrawnAlike later (.object ref) (.object other) ∧
    later.Reaches roots (.object other) ∧ link.objects other last
  functions ref last := (∃ seen, known.functions ref seen) ∧ link.functions ref last
  symbols := link.symbols

/-- Symbols are told apart by their numbers. -/
def TellsSymbols (link : Link) : Prop :=
  ∀ {symbol other : Symbol}, link.symbols symbol → link.symbols other → symbol.id = other.id →
    symbol = other

variable {known link : Link} {early early' later later' : Store} {roots : Value → Prop}
  {value other seen last : Value}

theorem pairs_through (within : known ≤ link) (tells : link.TellsSymbols) (knownHere : known.Pairs value seen)
    (alike : early.DrawnAlike later value other) (reached : later.Reaches roots other)
    (paired : link.Pairs other last) : (known.through early later roots link).Pairs value last := by
  cases knownHere with
  | @array ref seen knownHere =>
    obtain ⟨other, rfl, -⟩ := alike.of_array
    cases paired with
    | array paired => exact .array ⟨⟨seen, knownHere⟩, other, alike, reached, paired⟩
  | @object ref seen knownHere =>
    have kinds := alike.kind_eq
    cases paired with
    | @object other last paired => exact .object ⟨⟨seen, knownHere⟩, other, alike, reached, paired⟩
    | _ => cases kinds
  | @function ref seen knownHere =>
    cases alike.of_function
    cases paired with
    | function paired => exact .function ⟨⟨seen, knownHere⟩, paired⟩
  | symbol knownHere =>
    obtain ⟨other, rfl, ids⟩ := alike.of_symbol
    cases paired with
    | symbol paired =>
      cases tells (within.symbols knownHere) paired ids
      exact .symbol paired
  | _ =>
    cases alike.eq_of_isScalar rfl
    cases paired
    constructor

theorem pairs_through_all (within : known ≤ link) (tells : link.TellsSymbols)
    {values seen others lasts : List Value} (knownHere : Pairing.value.list.pairs known values seen)
    (alike : List.Forall₂ (early.DrawnAlike later) values others) (reached : ∀ other ∈ others, later.Reaches roots other)
    (paired : Pairing.value.list.pairs link others lasts) :
    Pairing.value.list.pairs (known.through early later roots link) values lasts := by
  induction alike generalizing seen lasts with
  | nil =>
    cases paired
    exact .nil
  | cons first _ ih =>
    cases knownHere with
    | cons firstKnown laterKnown =>
      cases paired with
      | cons firstPaired laterPaired =>
        obtain ⟨firstReached, laterReached⟩ := List.forall_mem_cons.mp reached
        exact .cons (pairs_through within tells firstKnown first firstReached firstPaired)
          (ih laterKnown laterReached laterPaired)

/-- The link through a drawing fits the early store and the last one. -/
theorem Fits.through (fits : known.Fits early early') (linked : link.Fits later later')
    (within : known ≤ link) (tells : link.TellsSymbols) (names : early.KeepsNames later)
    (depth : early.depth ≤ later.depth) : (known.through early later roots link).Fits early later' where
  arrays := by
    rintro ref last ⟨⟨seen, knownHere⟩, other, -, -, paired⟩
    exact ⟨(fits.arrays knownHere).1, (linked.arrays paired).2⟩
  elements := by
    rintro ref last ⟨⟨seen, knownHere⟩, other, alike, reached, paired⟩
    obtain ⟨_, ⟨⟩, elements⟩ := alike.of_array
    exact pairs_through_all within tells (fits.elements knownHere) elements
      (fun _ member => .element reached (Array.mem_toList_iff.mp member)) (linked.elements paired)
  objects := by
    rintro ref last ⟨⟨seen, knownHere⟩, other, -, -, paired⟩
    exact ⟨(fits.objects knownHere).1, (linked.objects paired).2⟩
  entries := by
    rintro ref last ⟨⟨seen, knownHere⟩, other, alike, reached, paired⟩ name
    obtain ⟨_, ⟨⟩, entries⟩ := alike.of_object fits.distinct.1 linked.distinct.1
    have knownEntry := fits.entries knownHere name
    have alikeEntry := entries name
    have pairedEntry := linked.entries paired name
    generalize (early.entries ref).get? name = first at knownEntry alikeEntry ⊢
    have reachedEntry (value : Value) : (later.entries other).get? name = some value → later.Reaches roots value :=
      .entry reached
    generalize (later.entries other).get? name = second at alikeEntry pairedEntry reachedEntry
    generalize (later'.entries last).get? name = third at pairedEntry ⊢
    cases alikeEntry with
    | none =>
      cases pairedEntry
      exact .none
    | some alike =>
      cases pairedEntry with
      | some paired =>
        generalize (early'.entries seen).get? name = fourth at knownEntry
        cases knownEntry with
        | some knownHere => exact .some (pairs_through within tells knownHere alike (reachedEntry _ rfl) paired)
  distinct := ⟨fits.distinct.1, linked.distinct.2⟩
  functions := by
    rintro ref last ⟨⟨seen, knownHere⟩, paired⟩
    obtain ⟨name, named, -⟩ := fits.functions knownHere
    obtain ⟨laterName, laterNamed, lastNamed⟩ := linked.functions paired
    cases (names ref name named).symm.trans laterNamed
    exact ⟨name, named, lastNamed⟩
  depth := depth.trans linked.depth

end Link

end TreeScript
