import TreeScript.Builtin.Signature
import TreeScript.Proofs.Typing.Identity

/-! # Types as trees

A type is a tree whose nodes are primitive types, arrays, objects and functions. The branches of an object go
by the names of its properties, in no order, and the mark of a built-in function is no part of the tree. Types
that are built by the constructors are the same exactly if they are the same tree, and also exactly if they
are stored in the same way, apart from the marks; so being the same is an equivalence.
-/

namespace TreeScript.Ty

variable {left right type : Ty} {properties others : List (String × Ty)} {params : List Ty}

/-! ## Trees -/

/-- A step from a type to a type inside it. -/
inductive Step where
  | element
  | property (name : String)
  | parameter (index : Nat)
  | result

/-- What a type is, apart from the types inside it. -/
inductive Shape where
  | prim (tag : Primitive)
  | array
  | object
  | function

def shape : Ty → Shape
  | prim tag => .prim tag
  | array _ => .array
  | object _ => .object
  | function _ _ _ => .function

/-- The type that a step leads to. -/
def inside? : Ty → Step → Option Ty
  | array element, .element => some element
  | object properties, .property name => property? properties name
  | function params _ _, .parameter index => params[index]?
  | function _ result _, .result => some result
  | _, _ => none

/-- The tree that a type is: the shape at the end of each path that can be followed. -/
def tree (type : Ty) : List Step → Option Shape
  | [] => some type.shape
  | step :: path => (type.inside? step).bind (tree · path)

/-! ## Marks -/

mutual

/-- A type without the marks of built-in functions. What is left is how the type is stored. -/
def unmarked : Ty → Ty
  | prim tag => prim tag
  | array element => array (unmarked element)
  | object properties => object (unmarkedProperties properties)
  | function params result _ => function (unmarkedAll params) (unmarked result) none

def unmarkedAll : List Ty → List Ty
  | [] => []
  | type :: rest => unmarked type :: unmarkedAll rest

def unmarkedProperties : List (String × Ty) → List (String × Ty)
  | [] => []
  | (name, type) :: rest => (name, unmarked type) :: unmarkedProperties rest

end

theorem unmarkedAll_eq_map (types : List Ty) : unmarkedAll types = types.map unmarked := by
  induction types with
  | nil => rfl
  | cons type rest ih => rw [unmarkedAll, ih, List.map_cons]

variable (properties : List (String × Ty))

theorem unmarkedProperties_eq_map :
    unmarkedProperties properties = properties.map fun property => (property.1, property.2.unmarked) := by
  induction properties with
  | nil => rfl
  | cons property rest ih => rw [unmarkedProperties, ih, List.map_cons]

theorem property?_unmarkedProperties (name : String) :
    property? (unmarkedProperties properties) name = (property? properties name).map unmarked := by
  induction properties with
  | nil => rfl
  | cons property rest ih =>
    rw [unmarkedProperties, property?_cons, property?_cons, ih]
    split <;> rfl

theorem shape_unmarked (type : Ty) : type.unmarked.shape = type.shape := by
  cases type <;> rfl

theorem inside?_unmarked (type : Ty) (step : Step) : type.unmarked.inside? step = (type.inside? step).map unmarked := by
  cases type with
  | prim tag => rfl
  | array element => cases step <;> rfl
  | object properties =>
    cases step with
    | property name => exact property?_unmarkedProperties properties name
    | _ => rfl
  | function params result builtin =>
    cases step with
    | parameter index =>
      rw [unmarked, inside?, inside?, unmarkedAll_eq_map, List.getElem?_map]
    | _ => rfl

/-- Marks are no part of the tree. -/
theorem tree_unmarked (type : Ty) : type.unmarked.tree = type.tree := by
  funext path
  induction path generalizing type with
  | nil => rw [tree, tree, shape_unmarked]
  | cons step path ih =>
    rw [tree, tree, inside?_unmarked]
    cases type.inside? step with
    | none => rfl
    | some inner => exact ih inner

mutual

/-- Marks do not count when types are compared. -/
theorem same_unmarked : ∀ left right : Ty, left.unmarked.same right.unmarked = left.same right
  | .prim _, right => by cases right <;> rfl
  | .array element, right => by
    cases right with
    | array other => exact same_unmarked element other
    | _ => rfl
  | .object properties, right => by
    cases right with
    | object others =>
      rw [unmarked, unmarked, same, same, sameIn_unmarked properties others]
      simp only [unmarkedProperties_eq_map, List.all_map, List.any_map, Function.comp_def]
    | _ => rfl
  | .function params result _, right => by
    cases right with
    | function others other =>
      rw [unmarked, unmarked, same, same, sameAll_unmarked params others, same_unmarked result other]
    | _ => rfl

theorem sameAll_unmarked : ∀ types others : List Ty, sameAll (unmarkedAll types) (unmarkedAll others) = sameAll types others
  | [], others => by cases others <;> rfl
  | type :: rest, others => by
    cases others with
    | nil => rfl
    | cons other others =>
      rw [unmarkedAll, unmarkedAll, sameAll, sameAll, same_unmarked type other, sameAll_unmarked rest others]

theorem sameIn_unmarked : ∀ properties others : List (String × Ty),
    sameIn (unmarkedProperties properties) (unmarkedProperties others) = sameIn properties others
  | [], _ => rfl
  | (name, type) :: rest, others => by
    rw [unmarkedProperties, sameIn, sameIn, sameIn_unmarked rest others, property?_unmarkedProperties]
    cases property? others name with
    | none => rfl
    | some other =>
      dsimp only [Option.map_some]
      rw [same_unmarked type other]

end

/-! ## Canonical types -/

theorem shape_eq_of_tree_eq (same : left.tree = right.tree) : left.shape = right.shape :=
  Option.some.inj (congrFun same [])

/-- Types with the same tree have the same trees inside them. -/
theorem tree_inside? (same : left.tree = right.tree) (step : Step) :
    (left.inside? step).map tree = (right.inside? step).map tree := by
  have at_step (path : List Step) := congrFun same (step :: path)
  simp only [tree] at at_step
  cases ofLeft : left.inside? step with
  | none =>
    cases ofRight : right.inside? step with
    | none => rfl
    | some inner =>
      have root := at_step []
      rw [ofLeft, ofRight] at root
      cases root
  | some inner =>
    cases ofRight : right.inside? step with
    | none =>
      have root := at_step []
      rw [ofLeft, ofRight] at root
      cases root
    | some other =>
      refine congrArg some (funext fun path => ?_)
      have below := at_step path
      rw [ofLeft, ofRight] at below
      exact below

/-- Types that may be missing are told apart by their trees, if the types at hand are. -/
theorem eq_of_map_tree_eq {found other : Option Ty}
    (apart : ∀ type ∈ found, ∀ another ∈ other, type.tree = another.tree → type = another)
    (same : found.map tree = other.map tree) : found = other := by
  cases found with
  | none =>
    cases other with
    | none => rfl
    | some another => cases same
  | some type =>
    cases other with
    | none => cases same
    | some another => exact congrArg some (apart type rfl another rfl (Option.some.inj same))

/-- Canonical types are determined by their trees. -/
theorem IsCanonical.eq_of_tree_eq (canonical : left.IsCanonical) (otherCanonical : right.IsCanonical)
    (same : left.tree = right.tree) : left = right := by
  induction canonical generalizing right with
  | prim tag =>
    cases otherCanonical with
    | prim other =>
      cases shape_eq_of_tree_eq same
      rfl
    | _ => cases shape_eq_of_tree_eq same
  | array _ ih =>
    cases otherCanonical with
    | array ofElement => exact congrArg Ty.array (ih ofElement (Option.some.inj (tree_inside? same .element)))
    | _ => cases shape_eq_of_tree_eq same
  | @object properties sorted _ ih =>
    cases otherCanonical with
    | @object others otherSorted otherEach =>
      refine congrArg Ty.object (sorted.eq_of_property?_eq otherSorted fun name => ?_)
      refine eq_of_map_tree_eq (fun type found other atOther => ?_) (tree_inside? same (.property name))
      exact ih _ (mem_of_property?_eq_some found) (otherEach _ (mem_of_property?_eq_some atOther))
    | _ => cases shape_eq_of_tree_eq same
  | @function params result _ _ ih ofResult =>
    cases otherCanonical with
    | @function otherParams otherResult otherEach ofOther =>
      have sameParams : params = otherParams := by
        refine List.ext_getElem? fun index => ?_
        refine eq_of_map_tree_eq (fun type found other atOther => ?_) (tree_inside? same (.parameter index))
        exact ih type (List.mem_of_getElem? found) (otherEach other (List.mem_of_getElem? atOther))
      rw [sameParams, ofResult ofOther (Option.some.inj (tree_inside? same .result))]
    | _ => cases shape_eq_of_tree_eq same

/-! ## Types that are built -/

/-- The types that can be built: an object type from properties in any order, a function type with any mark. -/
inductive IsBuilt : Ty → Prop
  | prim (tag : Primitive) : IsBuilt (.prim tag)
  | array {element : Ty} (ofElement : element.IsBuilt) : IsBuilt (.array element)
  | ofProperties {properties : List (String × Ty)} (each : ∀ property ∈ properties, IsBuilt property.2) :
      IsBuilt (.ofProperties properties)
  | function {params : List Ty} {result : Ty} (each : ∀ param ∈ params, IsBuilt param) (ofResult : result.IsBuilt)
      (builtin : Option Builtin) : IsBuilt (.function params result builtin)

theorem insertProperty_unmarked (name : String) (type : Ty) (known : List (String × Ty)) :
    unmarkedProperties (insertProperty name type known) = insertProperty name type.unmarked (unmarkedProperties known) := by
  induction known with
  | nil => rfl
  | cons property rest ih =>
    rw [insertProperty, unmarkedProperties, insertProperty]
    split
    · rfl
    · split
      · rfl
      · rw [unmarkedProperties, ih]

/-- Marks can be left out before an object type is built. -/
theorem unmarked_ofProperties :
    (ofProperties properties).unmarked = ofProperties (unmarkedProperties properties) := by
  have from_known (known : List (String × Ty)) :
      unmarkedProperties (properties.foldl (fun known entry => insertProperty entry.1 entry.2 known) known) =
        (unmarkedProperties properties).foldl (fun known entry => insertProperty entry.1 entry.2 known)
          (unmarkedProperties known) := by
    induction properties generalizing known with
    | nil => rfl
    | cons property rest ih => rw [List.foldl_cons, ih, insertProperty_unmarked, unmarkedProperties, List.foldl_cons]
  exact congrArg object (from_known [])

theorem IsBuilt.isCanonical_unmarked (built : type.IsBuilt) : type.unmarked.IsCanonical := by
  induction built with
  | prim tag => exact .prim tag
  | array _ ih => exact .array ih
  | ofProperties _ ih =>
    rw [unmarked_ofProperties, unmarkedProperties_eq_map]
    exact isCanonical_ofProperties (List.forall_mem_map.mpr ih)
  | function _ _ _ ih ofResult =>
    rw [unmarked, unmarkedAll_eq_map]
    exact .function (List.forall_mem_map.mpr ih) ofResult

/-- Types that are built are the same if they are stored in the same way. -/
theorem IsBuilt.same_iff_unmarked_eq (leftBuilt : left.IsBuilt) (rightBuilt : right.IsBuilt) :
    left.same right = true ↔ left.unmarked = right.unmarked := by
  rw [← same_unmarked]
  exact leftBuilt.isCanonical_unmarked.same_iff rightBuilt.isCanonical_unmarked

theorem IsBuilt.tree_eq_iff_unmarked_eq (leftBuilt : left.IsBuilt) (rightBuilt : right.IsBuilt) :
    left.tree = right.tree ↔ left.unmarked = right.unmarked := by
  rw [← tree_unmarked left, ← tree_unmarked right]
  constructor
  · exact leftBuilt.isCanonical_unmarked.eq_of_tree_eq rightBuilt.isCanonical_unmarked
  · exact congrArg tree

/-- A type is found to be `any` if it is the same as `any`. -/
theorem isAny_eq_same (type : Ty) : type.isAny = type.same any := by
  cases type with
  | prim tag => cases tag <;> rfl
  | _ => rfl

/-- Comparing types is telling their trees apart. Two types that are built by the constructors are the same
exactly if they are the same tree, and exactly if they are stored in the same way but for marks, which is how
`any` is recognised; so being the same is reflexive, symmetric and transitive. -/
theorem same_iff_same_tree (leftBuilt : left.IsBuilt) (rightBuilt : right.IsBuilt) :
    (left.same right = true ↔ left.tree = right.tree) ∧
      (left.same right = true ↔ left.unmarked = right.unmarked) ∧
      (left.isAny = true ↔ left.unmarked = any.unmarked) ∧
      left.same left = true ∧
      (left.same right = true → right.same left = true) ∧
      ∀ other : Ty, other.IsBuilt → left.same right = true → right.same other = true → left.same other = true := by
  have stored := leftBuilt.same_iff_unmarked_eq rightBuilt
  refine ⟨?_, stored, ?_, ?_, ?_, ?_⟩
  · rw [stored, leftBuilt.tree_eq_iff_unmarked_eq rightBuilt]
  · rw [isAny_eq_same]
    exact leftBuilt.same_iff_unmarked_eq (.prim .any)
  · rw [leftBuilt.same_iff_unmarked_eq leftBuilt]
  · rw [stored, rightBuilt.same_iff_unmarked_eq leftBuilt]
    exact Eq.symm
  · intro other otherBuilt
    rw [stored, rightBuilt.same_iff_unmarked_eq otherBuilt, leftBuilt.same_iff_unmarked_eq otherBuilt]
    exact Eq.trans

/-- The order in which properties are given does not count, nor does a mark inside them. -/
theorem same_iff_same_tree_reordered :
    (ofProperties [("log", Builtin.print.signature), ("items", array number)]).IsBuilt ∧
      (ofProperties [("items", array number), ("log", arrow [any] void)]).IsBuilt ∧
      (ofProperties [("log", Builtin.print.signature), ("items", array number)]).tree =
        (ofProperties [("items", array number), ("log", arrow [any] void)]).tree := by
  have items : (array number).IsBuilt := .array (.prim .number)
  have log (builtin : Option Builtin) : (function [any] void builtin).IsBuilt :=
    .function (List.forall_mem_singleton.mpr (.prim .any)) (.prim .void) builtin
  have leftBuilt : (ofProperties [("log", Builtin.print.signature), ("items", array number)]).IsBuilt :=
    .ofProperties (List.forall_mem_cons.mpr ⟨log _, List.forall_mem_singleton.mpr items⟩)
  have rightBuilt : (ofProperties [("items", array number), ("log", arrow [any] void)]).IsBuilt :=
    .ofProperties (List.forall_mem_cons.mpr ⟨items, List.forall_mem_singleton.mpr (log _)⟩)
  exact ⟨leftBuilt, rightBuilt, (same_iff_same_tree leftBuilt rightBuilt).1.mp (by decide)⟩

end TreeScript.Ty
