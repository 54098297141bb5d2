import TreeScript.Proofs.Memo.Keys
import TreeScript.Proofs.Typing.Trees
import TreeScript.Ty.Display

/-! # The display of types is unambiguous

No display of a type is the beginning of another, so the display of a function can stand without a mark at
its end: where the type of the result ends is seen from the display of that type itself. Commas separate
parameters and properties alike, but what is read before a comma is always complete. So a display can be read
in one way only, as long as the names of properties hold no colon, no space and no brace.
-/

namespace TreeScript

variable {rest others : List Char}

/-- The names of primitive types differ within their first three letters. -/
theorem Primitive.name_append_inj {tag other : Primitive}
    (same : tag.name.toList ++ rest = other.name.toList ++ others) : tag = other ∧ rest = others := by
  have long (tag : Primitive) (rest : List Char) : (tag.name.toList ++ rest).take 3 = tag.name.toList.take 3 := by
    cases tag <;> rfl
  have letters := congrArg (List.take 3) same
  rw [long, long] at letters
  obtain rfl : tag = other := by
    revert letters
    cases tag <;> cases other <;> decide
  exact ⟨rfl, List.append_cancel_left same⟩

namespace Ty

variable {left right type : Ty}

/-! ## How displays begin -/

/-- The character that a display begins with. -/
def Shape.opening : Shape → Char
  | prim tag => tag.name.toList.headD ' '
  | array => 'A'
  | object => '\x7b'
  | function => '('

theorem Shape.opening_prim (tag : Primitive) : opening (.prim tag) ∉ ['A', '\x7b', '('] := by
  cases tag <;> decide

theorem Shape.opening_ne_close (shape : Shape) : shape.opening ≠ ')' := by
  cases shape with
  | prim tag => cases tag <;> decide
  | _ => decide

theorem head?_chars_append (type : Ty) (rest : List Char) : (type.chars ++ rest).head? = some type.shape.opening := by
  cases type with
  | prim tag => cases tag <;> rfl
  | array element => rfl
  | object properties => cases properties <;> rfl
  | function params result builtin => rfl

theorem chars_append_ne_close (type : Ty) (rest tail : List Char) : type.chars ++ rest ≠ ')' :: tail := by
  intro same
  have opens := congrArg List.head? same
  rw [head?_chars_append, List.head?_cons, Option.some_inj] at opens
  exact type.shape.opening_ne_close opens

/-- A display tells the shape of the type. -/
theorem shape_eq_of_chars_append (same : left.chars ++ rest = right.chars ++ others) : left.shape = right.shape := by
  have opens := congrArg List.head? same
  rw [head?_chars_append, head?_chars_append, Option.some_inj] at opens
  cases left with
  | prim tag =>
    cases right with
    | prim other => exact congrArg Shape.prim (Primitive.name_append_inj same).1
    | _ => exact absurd (opens ▸ by simp [shape, Shape.opening]) (Shape.opening_prim tag)
  | _ =>
    cases right with
    | prim tag => exact absurd (opens ▸ by simp [shape, Shape.opening]) (Shape.opening_prim tag)
    | _ => simp_all [shape, Shape.opening]

/-! ## Names of properties -/

/-- The name holds no character by which the display of an object goes on or ends. -/
def IsPlainName (name : String) : Prop := ∀ mark ∈ [':', ' ', '\x7d'], mark ∉ name.toList

/-- Letters, digits and underscores make plain names. -/
theorem isPlainName_of_word {name : String} (word : ∀ c ∈ name.toList, c.isAlphanum = true ∨ c = '_') :
    IsPlainName name := by
  intro mark marks member
  rcases word mark member with alphanumeric | rfl
  · simp only [List.mem_cons, List.not_mem_nil, or_false] at marks
    rcases marks with rfl | rfl | rfl <;> cases alphanumeric
  · simp at marks

/-- A text ends at the first occurrence of a mark that it does not hold. -/
theorem append_mark_inj {mark : Char} {text other : List Char} (free : mark ∉ text) (otherFree : mark ∉ other)
    (same : text ++ mark :: rest = other ++ mark :: others) : text = other ∧ rest = others := by
  induction text generalizing other with
  | nil =>
    cases other with
    | nil => exact ⟨rfl, (List.cons.inj same).2⟩
    | cons c other => exact absurd ((List.cons.inj same).1 ▸ List.mem_cons_self) otherFree
  | cons c text ih =>
    cases other with
    | nil => exact absurd ((List.cons.inj same).1 ▸ List.mem_cons_self) free
    | cons d other =>
      obtain ⟨rfl, tails⟩ := List.cons.inj same
      obtain ⟨rfl, equal⟩ := ih (mt (List.mem_cons_of_mem c) free) (mt (List.mem_cons_of_mem c) otherFree) tails
      exact ⟨rfl, equal⟩

/-- The display of one property. -/
def propertyChars (property : String × Ty) : List Char := property.1.toList ++ ": ".toList ++ property.2.chars

theorem propertyChars_append (property : String × Ty) (rest : List Char) :
    propertyChars property ++ rest = property.1.toList ++ ':' :: ' ' :: (property.2.chars ++ rest) := by
  simp [propertyChars]

/-- A property with a plain name neither ends nor goes on the display of an object. -/
theorem propertyChars_append_ne {property : String × Ty} (plain : IsPlainName property.1) {mark : Char}
    (marks : mark ∈ [' ', '\x7d']) (tail : List Char) : propertyChars property ++ rest ≠ mark :: tail := by
  intro same
  rw [propertyChars_append] at same
  have free := plain mark (List.mem_cons_of_mem _ marks)
  cases letters : property.1.toList with
  | nil =>
    rw [letters] at same
    rw [← (List.cons.inj same).1] at marks
    simp at marks
  | cons c cs =>
    rw [letters] at same free
    exact free ((List.cons.inj same).1 ▸ List.mem_cons_self)

/-! ## How displays go on -/

/-- All names of properties inside a type are plain. -/
inductive HasPlainNames : Ty → Prop
  | prim (tag : Primitive) : HasPlainNames (.prim tag)
  | array {element : Ty} (ofElement : element.HasPlainNames) : HasPlainNames (.array element)
  | object {properties : List (String × Ty)} (names : ∀ property ∈ properties, IsPlainName property.1)
      (each : ∀ property ∈ properties, HasPlainNames property.2) : HasPlainNames (.object properties)
  | function {params : List Ty} {result : Ty} {builtin : Option Builtin}
      (each : ∀ param ∈ params, HasPlainNames param) (ofResult : result.HasPlainNames) :
      HasPlainNames (.function params result builtin)

theorem commaSeparated_eq_listed (texts : List (List Char)) : commaSeparated texts = Picture.listed texts := by
  fun_induction commaSeparated texts with
  | case1 | case2 => rfl
  | case3 text rest _ ih => simp_all [Picture.listed]

theorem charsOfAll_eq_map (types : List Ty) : charsOfAll types = types.map chars := by
  induction types with
  | nil => rfl
  | cons type rest ih => rw [charsOfAll, ih, List.map_cons]

theorem charsOfProperties_eq_map (properties : List (String × Ty)) :
    charsOfProperties properties = properties.map propertyChars := by
  induction properties with
  | nil => rfl
  | cons property rest ih => rw [charsOfProperties, ih, List.map_cons, propertyChars]

theorem chars_array_append (element : Ty) (rest : List Char) :
    (array element).chars ++ rest = ['A', 'r', 'r', 'a', 'y', '<'] ++ (element.chars ++ '>' :: rest) := by
  calc (array element).chars ++ rest
    _ = ['A', 'r', 'r', 'a', 'y', '<'] ++ element.chars ++ ['>'] ++ rest := rfl
    _ = _ := by simp

theorem chars_function_append (params : List Ty) (result : Ty) (builtin : Option Builtin) (rest : List Char) :
    (function params result builtin).chars ++ rest =
      '(' :: (Picture.listed (params.map chars) ++ ')' :: ([' ', '=', '>', ' '] ++ (result.chars ++ rest))) := by
  calc (function params result builtin).chars ++ rest
    _ = '(' :: (commaSeparated (charsOfAll params) ++ [')', ' ', '=', '>', ' '] ++ result.chars) ++ rest := rfl
    _ = _ := by simp [commaSeparated_eq_listed, charsOfAll_eq_map]

theorem chars_object_append (property : String × Ty) (properties : List (String × Ty)) (rest : List Char) :
    (object (property :: properties)).chars ++ rest = '\x7b' :: ' ' ::
      (Picture.listed ((property :: properties).map propertyChars) ++ ' ' :: '\x7d' :: rest) := by
  calc (object (property :: properties)).chars ++ rest
    _ = ['\x7b', ' '] ++ commaSeparated (charsOfProperties (property :: properties)) ++ [' ', '\x7d'] ++ rest := rfl
    _ = _ := by simp [commaSeparated_eq_listed, charsOfProperties_eq_map]

/-- An object without properties does not display as one with properties. -/
theorem chars_object_nil_ne {property : String × Ty} (plain : IsPlainName property.1)
    (properties : List (String × Ty)) :
    (object []).chars ++ rest ≠ (object (property :: properties)).chars ++ others := by
  have empty : (object []).chars ++ rest = '\x7b' :: ' ' :: '\x7d' :: rest := rfl
  have full := chars_object_append property properties others
  rw [List.map_cons, Picture.listed_cons_append] at full
  intro same
  have ends := (List.cons.inj (List.cons.inj (empty.symm.trans (same.trans full))).2).2
  exact propertyChars_append_ne plain (by simp) rest ends.symm

/-- The displays of properties are read one by one, if those of their types are. -/
theorem chars_object_inj {properties otherProperties : List (String × Ty)}
    (names : ∀ property ∈ properties, IsPlainName property.1)
    (otherNames : ∀ property ∈ otherProperties, IsPlainName property.1)
    (reads : ∀ property ∈ properties, ∀ other ∈ otherProperties, ∀ rest others,
      property.2.chars ++ rest = other.2.chars ++ others → property.2.unmarked = other.2.unmarked ∧ rest = others)
    (same : (object properties).chars ++ rest = (object otherProperties).chars ++ others) :
    (object properties).unmarked = (object otherProperties).unmarked ∧ rest = others := by
  cases properties with
  | nil =>
    cases otherProperties with
    | nil => exact ⟨rfl, List.append_cancel_left same⟩
    | cons other _ => exact absurd same (chars_object_nil_ne (otherNames other List.mem_cons_self) _)
  | cons property properties =>
    cases otherProperties with
    | nil => exact absurd same.symm (chars_object_nil_ne (names property List.mem_cons_self) _)
    | cons other otherProperties =>
      have same := (chars_object_append ..).symm.trans (same.trans (chars_object_append ..))
      have plain : ∀ entry ∈ (property :: properties) ++ (other :: otherProperties), IsPlainName entry.1 :=
        List.forall_mem_append.mpr ⟨names, otherNames⟩
      obtain ⟨members, rests⟩ := @Picture.listed_append_inj _ _ propertyChars
        (fun property => (property.1, property.2.unmarked)) ' ' (fun _ => True) (by decide) (fun _ _ => trivial)
        _ _ (fun entry member _ => propertyChars_append_ne (plain entry member) (by simp))
        (fun entry member another otherMember rest others _ _ same => by
          rw [propertyChars_append, propertyChars_append] at same
          obtain ⟨letters, types⟩ := append_mark_inj (names entry member ':' List.mem_cons_self)
            (otherNames another otherMember ':' List.mem_cons_self) same
          obtain ⟨meanings, rests⟩ := reads entry member another otherMember _ _ (List.cons.inj types).2
          exact ⟨Prod.ext (String.toList_inj.mp letters) meanings, rests⟩)
        _ _ (List.cons.inj (List.cons.inj same).2).2
      simp only [unmarked, unmarkedProperties_eq_map]
      exact ⟨congrArg Ty.object members, (List.cons.inj rests).2⟩

/-- A display is read up to its end, whatever follows it. -/
theorem HasPlainNames.chars_append_inj (plain : left.HasPlainNames) (otherPlain : right.HasPlainNames)
    (same : left.chars ++ rest = right.chars ++ others) : left.unmarked = right.unmarked ∧ rest = others := by
  have shapes := shape_eq_of_chars_append same
  induction plain generalizing right rest others with
  | prim tag =>
    cases otherPlain with
    | prim other =>
      obtain ⟨rfl, rests⟩ := Primitive.name_append_inj same
      exact ⟨rfl, rests⟩
    | _ => cases shapes
  | array _ ih =>
    cases otherPlain with
    | array ofElement =>
      have inner := List.append_cancel_left
        ((chars_array_append ..).symm.trans (same.trans (chars_array_append ..)))
      obtain ⟨elements, rests⟩ := ih ofElement inner (shape_eq_of_chars_append inner)
      exact ⟨congrArg Ty.array elements, (List.cons.inj rests).2⟩
    | _ => cases shapes
  | object names _ ih =>
    cases otherPlain with
    | object otherNames otherEach =>
      exact chars_object_inj names otherNames (fun property member other otherMember _ _ same =>
        ih property member (otherEach other otherMember) same (shape_eq_of_chars_append same)) same
    | _ => cases shapes
  | function _ _ ih ofResult =>
    cases otherPlain with
    | function otherEach ofOther =>
      have same := (chars_function_append ..).symm.trans (same.trans (chars_function_append ..))
      obtain ⟨params, tails⟩ := @Picture.listed_append_inj _ _ chars unmarked ')' (fun _ => True) (by decide)
        (fun _ _ => trivial) _ _ (fun type _ => chars_append_ne_close type)
        (fun type member other otherMember _ _ _ _ same =>
          ih type member (otherEach other otherMember) same (shape_eq_of_chars_append same)) _ _ (List.cons.inj same).2
      have results := List.append_cancel_left tails
      obtain ⟨equal, rests⟩ := ofResult ofOther results (shape_eq_of_chars_append results)
      simp only [unmarked, unmarkedAll_eq_map, params, equal, rests, and_self]
    | _ => cases shapes

mutual

/-- Marks do not show. -/
theorem chars_unmarked : ∀ type : Ty, type.unmarked.chars = type.chars
  | .prim _ => rfl
  | .array element => congrArg (fun text => "Array<".toList ++ text ++ ['>']) (chars_unmarked element)
  | .object [] => rfl
  | .object (property :: rest) =>
    congrArg (fun texts => "\x7b ".toList ++ commaSeparated texts ++ " \x7d".toList)
      (charsOfProperties_unmarked (property :: rest))
  | .function params result _ =>
    congrArg₂ (fun texts text => '(' :: (commaSeparated texts ++ ") => ".toList ++ text))
      (charsOfAll_unmarked params) (chars_unmarked result)

theorem charsOfAll_unmarked : ∀ types : List Ty, charsOfAll (unmarkedAll types) = charsOfAll types
  | [] => rfl
  | type :: rest => by rw [unmarkedAll, charsOfAll, charsOfAll, chars_unmarked type, charsOfAll_unmarked rest]

theorem charsOfProperties_unmarked : ∀ properties : List (String × Ty),
    charsOfProperties (unmarkedProperties properties) = charsOfProperties properties
  | [] => rfl
  | (name, type) :: rest => by
    rw [unmarkedProperties, charsOfProperties, charsOfProperties, chars_unmarked type, charsOfProperties_unmarked rest]

end

/-- Types that are built by the constructors and name their properties by plain names have the same display
exactly if they are the same, so no diagnostic shows two different types under one text. -/
theorem name_eq_iff_same (leftBuilt : left.IsBuilt) (rightBuilt : right.IsBuilt) (leftPlain : left.HasPlainNames)
    (rightPlain : right.HasPlainNames) : left.name = right.name ↔ left.same right = true := by
  rw [leftBuilt.same_iff_unmarked_eq rightBuilt, name, name, String.ofList_inj]
  constructor
  · intro same
    have read := leftPlain.chars_append_inj rightPlain (congrArg (· ++ []) same)
    exact read.1
  · intro stored
    rw [← chars_unmarked left, stored, chars_unmarked right]

/-- An array of functions does not display as a function that gives an array. -/
theorem name_array_arrow_ne :
    (array (arrow [] (ofProperties [("item_1", number)]))).name ≠
      (arrow [] (array (ofProperties [("item_1", number)]))).name := by
  have none {property : Ty → Prop} : ∀ param ∈ ([] : List Ty), property param := List.forall_mem_nil _
  have built : (ofProperties [("item_1", number)]).IsBuilt :=
    .ofProperties (List.forall_mem_singleton.mpr (.prim .number))
  have plain : (ofProperties [("item_1", number)]).HasPlainNames := .object
    (List.forall_mem_singleton.mpr (isPlainName_of_word (by simp))) (List.forall_mem_singleton.mpr (.prim .number))
  refine mt (name_eq_iff_same (.array (.function none built _)) (.function none (.array built) _)
    (.array (.function none plain)) (.function none (.array plain))).mp ?_
  decide

end Ty

end TreeScript
