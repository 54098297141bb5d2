import TreeScript.Node

/-! # Rules on the text of programs

Many restrictions on programs are rules for single nodes that have to hold throughout the text: at
each node, and in the bodies of the functions that are written in it. Some of them depend on
where the node stands: whether a loop of the same function is around it, and whether that function is
an arrow.
-/

namespace TreeScript

/-- Where a node stands in the function that it belongs to. The text outside of all functions counts
as that of a function literal. -/
structure Site where
  /-- Whether the node stands in the body of a loop. -/
  inLoop : Bool
  /-- Whether the function is an arrow. -/
  inArrow : Bool
  deriving DecidableEq

namespace Site

/-- The site of statements in the body of a function literal. -/
def ofFunction : Site := ⟨false, false⟩

/-- The site of the body of an arrow. -/
def ofArrow : Site := ⟨false, true⟩

/-- The site of statements in the body of a loop. -/
def looping (site : Site) : Site := { site with inLoop := true }

end Site

namespace Node

/-- The nodes that a node is made of, each with its site. The condition, the parts and the
iterable of a loop lie outside of its body. -/
def parts (site : Site) : Node → List (Site × Node)
  | literal _ | reference _ | breakLoop | continueLoop | host _ _ _ => []
  | declare _ _ initial => [(site, initial)]
  | assign _ expression => [(site, expression)]
  | giveBack expression => expression.toList.map (site, ·)
  | raise message => [(site, message)]
  | function _ _ body _ _ _ => body.map (Site.ofFunction, ·)
  | arrow _ body => [(Site.ofArrow, body)]
  | call _ args => args.map (site, ·)
  | binary _ left right => [(site, left), (site, right)]
  | method target _ args => (site, target) :: args.map (site, ·)
  | array elements => elements.map (site, ·)
  | object properties => properties.map fun entry => (site, entry.2)
  | setIndex target index value => [(site, target), (site, index), (site, value)]
  | property target _ => [(site, target)]
  | element target key => [(site, target), (site, key)]
  | block statements => statements.map (site, ·)
  | branch condition thenBranch elseBranch =>
    (site, condition) :: (thenBranch ++ elseBranch.getD []).map (site, ·)
  | select expression cases otherwise =>
    (site, expression) ::
      (cases.flatMap (fun entry => entry.1 :: entry.2) ++ otherwise.getD []).map (site, ·)
  | whileLoop condition body => (site, condition) :: body.map (site.looping, ·)
  | doWhile body condition => (site, condition) :: body.map (site.looping, ·)
  | forLoop init condition update body =>
    (init.toList ++ condition.toList ++ update.toList).map (site, ·) ++
      body.map (site.looping, ·)
  | forEach _ iterable body => (site, iterable) :: body.map (site.looping, ·)
  | tryCatch tryBlock _ catchBlock => (tryBlock ++ catchBlock).map (site, ·)

end Node

mutual

/-- Whether a rule holds at a node and throughout its parts. -/
def Node.everywhere (rule : Site → Node → Bool) (site : Site) : Node → Bool
  | .literal value => rule site (.literal value)
  | .reference name => rule site (.reference name)
  | .declare kind name initial =>
    rule site (.declare kind name initial) && initial.everywhere rule site
  | .assign name expression =>
    rule site (.assign name expression) && expression.everywhere rule site
  | .giveBack expression =>
    rule site (.giveBack expression) && maybeEverywhere rule site expression
  | .breakLoop => rule site .breakLoop
  | .continueLoop => rule site .continueLoop
  | .raise message => rule site (.raise message) && message.everywhere rule site
  | .function name params body paramTypes returnType isPure =>
    rule site (.function name params body paramTypes returnType isPure) &&
      allEverywhere rule .ofFunction body
  | .arrow params body => rule site (.arrow params body) && body.everywhere rule .ofArrow
  | .call name args => rule site (.call name args) && allEverywhere rule site args
  | .binary token left right =>
    rule site (.binary token left right) && left.everywhere rule site &&
      right.everywhere rule site
  | .method target name args =>
    rule site (.method target name args) && target.everywhere rule site &&
      allEverywhere rule site args
  | .array elements => rule site (.array elements) && allEverywhere rule site elements
  | .object properties =>
    rule site (.object properties) && entriesEverywhere rule site properties
  | .setIndex target index value =>
    rule site (.setIndex target index value) && target.everywhere rule site &&
      index.everywhere rule site && value.everywhere rule site
  | .property target name =>
    rule site (.property target name) && target.everywhere rule site
  | .element target key =>
    rule site (.element target key) && target.everywhere rule site &&
      key.everywhere rule site
  | .block statements => rule site (.block statements) && allEverywhere rule site statements
  | .branch condition thenBranch elseBranch =>
    rule site (.branch condition thenBranch elseBranch) && condition.everywhere rule site &&
      allEverywhere rule site thenBranch && optionalEverywhere rule site elseBranch
  | .select expression cases otherwise =>
    rule site (.select expression cases otherwise) && expression.everywhere rule site &&
      casesEverywhere rule site cases && optionalEverywhere rule site otherwise
  | .whileLoop condition body =>
    rule site (.whileLoop condition body) && condition.everywhere rule site &&
      allEverywhere rule site.looping body
  | .doWhile body condition =>
    rule site (.doWhile body condition) && condition.everywhere rule site &&
      allEverywhere rule site.looping body
  | .forLoop init condition update body =>
    rule site (.forLoop init condition update body) && maybeEverywhere rule site init &&
      maybeEverywhere rule site condition && maybeEverywhere rule site update &&
      allEverywhere rule site.looping body
  | .forEach item iterable body =>
    rule site (.forEach item iterable body) && iterable.everywhere rule site &&
      allEverywhere rule site.looping body
  | .tryCatch tryBlock catchVar catchBlock =>
    rule site (.tryCatch tryBlock catchVar catchBlock) && allEverywhere rule site tryBlock &&
      allEverywhere rule site catchBlock
  | .host name action type => rule site (.host name action type)

def allEverywhere (rule : Site → Node → Bool) (site : Site) : List Node → Bool
  | [] => true
  | node :: rest => node.everywhere rule site && allEverywhere rule site rest

def entriesEverywhere (rule : Site → Node → Bool) (site : Site) :
    List (String × Node) → Bool
  | [] => true
  | (_, node) :: rest => node.everywhere rule site && entriesEverywhere rule site rest

def casesEverywhere (rule : Site → Node → Bool) (site : Site) :
    List (Node × List Node) → Bool
  | [] => true
  | (candidate, body) :: rest =>
    candidate.everywhere rule site && allEverywhere rule site body &&
      casesEverywhere rule site rest

def maybeEverywhere (rule : Site → Node → Bool) (site : Site) : Option Node → Bool
  | none => true
  | some node => node.everywhere rule site

def optionalEverywhere (rule : Site → Node → Bool) (site : Site) :
    Option (List Node) → Bool
  | none => true
  | some statements => allEverywhere rule site statements

end

section Lists

variable {rule : Site → Node → Bool} {site : Site}

theorem allEverywhere_iff {nodes : List Node} :
    allEverywhere rule site nodes = true ↔
      ∀ node ∈ nodes, node.everywhere rule site = true := by
  induction nodes with
  | nil => simp [allEverywhere]
  | cons node rest ih => simp [allEverywhere, ih]

theorem entriesEverywhere_iff {entries : List (String × Node)} :
    entriesEverywhere rule site entries = true ↔
      ∀ entry ∈ entries, entry.2.everywhere rule site = true := by
  induction entries with
  | nil => simp [entriesEverywhere]
  | cons entry rest ih => simp [entriesEverywhere, ih]

theorem casesEverywhere_iff {cases : List (Node × List Node)} :
    casesEverywhere rule site cases = true ↔
      ∀ entry ∈ cases, entry.1.everywhere rule site = true ∧
        ∀ node ∈ entry.2, node.everywhere rule site = true := by
  induction cases with
  | nil => simp [casesEverywhere]
  | cons entry rest ih => simp [casesEverywhere, allEverywhere_iff, ih, and_assoc]

theorem maybeEverywhere_iff {part : Option Node} :
    maybeEverywhere rule site part = true ↔
      ∀ node ∈ part.toList, node.everywhere rule site = true := by
  cases part <;> simp [maybeEverywhere]

theorem optionalEverywhere_iff {body : Option (List Node)} :
    optionalEverywhere rule site body = true ↔
      ∀ node ∈ body.getD [], node.everywhere rule site = true := by
  cases body <;> simp [optionalEverywhere, allEverywhere_iff]

/-- A rule holds everywhere in a node if it holds at the node and everywhere in its parts. -/
theorem Node.everywhere_iff {node : Node} :
    node.everywhere rule site = true ↔
      rule site node = true ∧
        ∀ part ∈ node.parts site, part.2.everywhere rule part.1 = true := by
  cases node <;>
    simp only [Node.everywhere, Node.parts, Bool.and_eq_true, allEverywhere_iff,
      entriesEverywhere_iff, casesEverywhere_iff, maybeEverywhere_iff, optionalEverywhere_iff,
      List.forall_mem_cons, List.forall_mem_map, List.forall_mem_append, List.map_append,
      List.forall_mem_flatMap, List.not_mem_nil, false_implies, implies_true, and_true, and_assoc]

end Lists

/-! ## Parts are smaller -/

section Sizes

variable {part : Site × Node} {site : Site}

theorem sizeOf_lt_of_mem_map {nodes : List Node} (member : part ∈ nodes.map (site, ·)) :
    sizeOf part.2 < sizeOf nodes := by
  obtain ⟨node, inside, rfl⟩ := List.mem_map.mp member
  exact List.sizeOf_lt_of_mem inside

theorem sizeOf_lt_of_mem_toList {node : Option Node} (member : part ∈ node.toList.map (site, ·)) :
    sizeOf part.2 < sizeOf node := by
  cases node with
  | none => cases member
  | some node =>
    cases List.mem_singleton.mp member
    simp

theorem sizeOf_lt_of_mem_getD {nodes : Option (List Node)} (member : part ∈ (nodes.getD []).map (site, ·)) :
    sizeOf part.2 < sizeOf nodes := by
  cases nodes with
  | none => cases member
  | some nodes => exact Nat.lt_trans (sizeOf_lt_of_mem_map member) (by simp)

theorem sizeOf_lt_of_mem_entries {entries : List (String × Node)}
    (member : part ∈ entries.map fun entry => (site, entry.2)) : sizeOf part.2 < sizeOf entries := by
  obtain ⟨⟨name, node⟩, inside, rfl⟩ := List.mem_map.mp member
  refine Nat.lt_trans ?_ (List.sizeOf_lt_of_mem inside)
  simp only [Prod.mk.sizeOf_spec]
  omega

theorem sizeOf_lt_of_mem_cases {cases : List (Node × List Node)}
    (member : part ∈ (cases.flatMap fun entry => entry.1 :: entry.2).map (site, ·)) :
    sizeOf part.2 < sizeOf cases := by
  obtain ⟨node, inside, rfl⟩ := List.mem_map.mp member
  obtain ⟨⟨candidate, body⟩, known, inside⟩ := List.mem_flatMap.mp inside
  refine Nat.lt_trans ?_ (List.sizeOf_lt_of_mem known)
  rcases List.mem_cons.mp inside with rfl | inside
  · simp only [Prod.mk.sizeOf_spec]
    omega
  · refine Nat.lt_trans (List.sizeOf_lt_of_mem inside) ?_
    simp only [Prod.mk.sizeOf_spec]
    omega

theorem Node.sizeOf_part_lt {node : Node} (member : part ∈ node.parts site) : sizeOf part.2 < sizeOf node := by
  cases node
  all_goals
    simp only [parts, List.mem_cons, List.map_append, List.mem_append, List.not_mem_nil, or_false,
      or_assoc] at member
    repeat' (refine Or.elim member ?_ ?_ <;> clear member <;> intro member)
  all_goals simp
  all_goals first
    | (subst member; dsimp only; omega)
    | (have smaller := sizeOf_lt_of_mem_map member; omega)
    | (have smaller := sizeOf_lt_of_mem_toList member; omega)
    | (have smaller := sizeOf_lt_of_mem_getD member; omega)
    | (have smaller := sizeOf_lt_of_mem_entries member; omega)
    | (have smaller := sizeOf_lt_of_mem_cases member; omega)

/-- A rule that follows from another one holds wherever the other one does. -/
theorem Node.everywhere_mono {rule weaker : Site → Node → Bool}
    (follows : ∀ site node, rule site node = true → weaker site node = true) {site : Site} {node : Node}
    (holds : node.everywhere rule site = true) : node.everywhere weaker site = true := by
  obtain ⟨here, parts⟩ := everywhere_iff.mp holds
  refine everywhere_iff.mpr ⟨follows site node here, fun part member => ?_⟩
  have smaller : sizeOf part.2 < sizeOf node := sizeOf_part_lt member
  exact everywhere_mono follows (parts part member)
termination_by sizeOf node

end Sizes

end TreeScript
