import TreeScript.Yaml.Token

/-! # Trees of nodes

A tree is what the tokens of a document spell out, before its scalars are given a meaning and its
aliases are looked up. Every recursive call of the reader consumes a token, so the number of tokens
bounds its depth.
-/

namespace TreeScript.Yaml

inductive Tree where
  | scalar (text : String) (isPlain : Bool)
  | list (items : List Tree)
  | mapping (entries : List (Tree × Tree))
  | alias (name : String)
  | anchored (name : String) (tree : Tree)
  | tagged (tag : Tag) (tree : Tree)

namespace Tree

/-- What stands where a node is missing. -/
def empty : Tree := scalar "" true

/-- A tree and the tokens after it. -/
abbrev Step := Except Problem (Tree × List Token)

/-- What is wrong with tokens that cannot go on like this. -/
def unexpected {α : Type} : List Token → Except Problem α
  | .broken cause :: _ => .error (.badScalar cause)
  | _ => .error .malformed

/-- The properties before a node, and the tokens after them. -/
def properties : List Token → Option String × Option Tag × List Token
  | .anchor name :: .tag tag :: rest | .tag tag :: .anchor name :: rest =>
    (some name, some tag, rest)
  | .anchor name :: rest => (some name, none, rest)
  | .tag tag :: rest => (none, some tag, rest)
  | tokens => (none, none, tokens)

/-- A tree with the properties of its node. -/
def withProperties (anchor : Option String) (tag : Option Tag) (tree : Tree) : Tree :=
  let tree := match tag with
    | some tag => tagged tag tree
    | none => tree
  match anchor with
  | some name => anchored name tree
  | none => tree

/-- Where a node stands: inside brackets, at any other place, or as a member of a block mapping,
where a list need not be indented. -/
inductive Position where
  | flow
  | block
  | member
  deriving DecidableEq

mutual

/-- A node with its properties. -/
def node (position : Position) : Nat → List Token → Step
  | 0, _ => .error .malformed
  | effort + 1, tokens =>
    match tokens with
    | .alias name :: rest => .ok (.alias name, rest)
    | _ =>
      match properties tokens with
      | (none, none, tokens) => bareNode position effort tokens
      | (anchor, tag, rest) => do
        let (tree, rest) ← if startsNode position rest
          then bareNode position effort rest
          else match rest with
            | .broken cause :: _ => .error (.badScalar cause)
            | _ => .ok (empty, rest)
        return (tree.withProperties anchor tag, rest)

/-- Whether the content of a node starts with a token. -/
def startsNode (position : Position) : List Token → Bool
  | .scalar _ _ :: _ | .flowListStart :: _ | .flowMappingStart :: _ => true
  | .blockListStart :: _ | .blockMappingStart :: _ => position ≠ .flow
  | .blockEntry :: _ => position = .member
  | _ => false

/-- A node without properties. -/
def bareNode (position : Position) : Nat → List Token → Step
  | 0, _ => .error .malformed
  | effort + 1, tokens =>
    match tokens with
    | .scalar text isPlain :: rest => .ok (.scalar text isPlain, rest)
    | .flowListStart :: rest => flowList effort [] true rest
    | .flowMappingStart :: rest => flowMapping effort [] true rest
    | .blockListStart :: rest =>
      if position = .flow then .error .malformed else blockList effort [] rest
    | .blockMappingStart :: rest =>
      if position = .flow then .error .malformed else blockMapping effort [] rest
    | .blockEntry :: _ =>
      if position = .member then unindentedList effort [] tokens else .error .malformed
    | _ => unexpected tokens

/-- A key or value of a block mapping, which may be missing. -/
def member : Nat → List Token → Step
  | 0, _ => .error .malformed
  | effort + 1, tokens =>
    match tokens with
    | .key :: _ | .value :: _ | .blockEnd :: _ => .ok (empty, tokens)
    | _ => node .member effort tokens

/-- The items of a block list. -/
def blockList : Nat → List Tree → List Token → Step
  | 0, _, _ => .error .malformed
  | effort + 1, items, tokens =>
    match tokens with
    | .blockEnd :: rest => .ok (.list items.reverse, rest)
    | .blockEntry :: rest =>
      match rest with
      | .blockEntry :: _ | .blockEnd :: _ => blockList effort (empty :: items) rest
      | _ => do
        let (item, rest) ← node .block effort rest
        blockList effort (item :: items) rest
    | _ => unexpected tokens

/-- The items of a list that stands at the column of the mapping around it. -/
def unindentedList : Nat → List Tree → List Token → Step
  | 0, _, _ => .error .malformed
  | effort + 1, items, tokens =>
    match tokens with
    | .blockEntry :: rest =>
      match rest with
      | .blockEntry :: _ | .key :: _ | .value :: _ | .blockEnd :: _ =>
        unindentedList effort (empty :: items) rest
      | _ => do
        let (item, rest) ← node .block effort rest
        unindentedList effort (item :: items) rest
    | _ => .ok (.list items.reverse, tokens)

/-- The entries of a block mapping, the last one first. -/
def blockMapping : Nat → List (Tree × Tree) → List Token → Step
  | 0, _, _ => .error .malformed
  | effort + 1, entries, tokens =>
    match tokens with
    | .blockEnd :: rest => .ok (.mapping entries.reverse, rest)
    | .key :: rest => do
      let (key, rest) ← member effort rest
      let (value, rest) ← match rest with
        | .value :: rest => member effort rest
        | rest => .ok (empty, rest)
      blockMapping effort ((key, value) :: entries) rest
    | _ => unexpected tokens

/-- The items of a list in brackets; `isFirst` if no comma is due. -/
def flowList : Nat → List Tree → Bool → List Token → Step
  | 0, _, _, _ => .error .malformed
  | effort + 1, items, isFirst, tokens =>
    match tokens, isFirst with
    | .flowListEnd :: rest, _ => .ok (.list items.reverse, rest)
    | .flowEntry :: .flowListEnd :: rest, false => .ok (.list items.reverse, rest)
    | .flowEntry :: rest, false => flowItem effort items rest
    | tokens, false => unexpected tokens
    | tokens, true => flowItem effort items tokens

/-- An item of a list in brackets: a node, or a mapping with a single entry. -/
def flowItem : Nat → List Tree → List Token → Step
  | 0, _, _ => .error .malformed
  | effort + 1, items, tokens =>
    match tokens with
    | .key :: rest => do
      let (key, rest) ← flowKey effort rest
      let (value, rest) ← flowValue effort rest
      flowList effort (.mapping [(key, value)] :: items) false rest
    | _ => do
      let (item, rest) ← node .flow effort tokens
      flowList effort (item :: items) false rest

/-- A key inside brackets, which may be empty. -/
def flowKey : Nat → List Token → Step
  | 0, _ => .error .malformed
  | effort + 1, tokens =>
    match tokens with
    | .value :: _ | .flowEntry :: _ | .flowListEnd :: _ | .flowMappingEnd :: _ =>
      .ok (empty, tokens)
    | _ => node .flow effort tokens

/-- A value inside brackets, which may be missing or empty. -/
def flowValue : Nat → List Token → Step
  | 0, _ => .error .malformed
  | effort + 1, tokens =>
    match tokens with
    | .value :: rest =>
      match rest with
      | .flowEntry :: _ | .flowListEnd :: _ | .flowMappingEnd :: _ => .ok (empty, rest)
      | _ => node .flow effort rest
    | _ => .ok (empty, tokens)

/-- The entries of a mapping in braces, the last one first; `isFirst` if no comma is due. -/
def flowMapping : Nat → List (Tree × Tree) → Bool → List Token → Step
  | 0, _, _, _ => .error .malformed
  | effort + 1, entries, isFirst, tokens =>
    match tokens, isFirst with
    | .flowMappingEnd :: rest, _ => .ok (.mapping entries.reverse, rest)
    | .flowEntry :: .flowMappingEnd :: rest, false => .ok (.mapping entries.reverse, rest)
    | .flowEntry :: rest, false => flowMember effort entries rest
    | tokens, false => unexpected tokens
    | tokens, true => flowMember effort entries tokens

/-- An entry of a mapping in braces; a node that is no key has a null value. -/
def flowMember : Nat → List (Tree × Tree) → List Token → Step
  | 0, _, _ => .error .malformed
  | effort + 1, entries, tokens =>
    match tokens with
    | .key :: rest => do
      let (key, rest) ← flowKey effort rest
      let (value, rest) ← flowValue effort rest
      flowMapping effort ((key, value) :: entries) false rest
    | _ => do
      let (key, rest) ← node .flow effort tokens
      flowMapping effort ((key, empty) :: entries) false rest

end

end Tree

/-- A document: its tree and the handles of its tags. -/
structure Page where
  tree : Tree
  handles : List (String × String)

namespace Page

/-- The handles that need no directive. -/
def knownHandles : List (String × String) := [("!", "!"), ("!!", "tag:yaml.org,2002:")]

/-- The handles that directives introduce. The notation has version 1, which is told at most once,
as is every handle. -/
def handlesOf? : List Directive → Option (List (String × String))
  | [] => some []
  | .version major :: rest => do
    let handles ← handlesOf? rest
    let isAgain := rest.any fun
      | .version _ => true
      | _ => false
    if major = 1 ∧ !isAgain then some handles else none
  | .handle name address :: rest => do
    let handles ← handlesOf? rest
    if (handles.lookup name).isSome then none else some ((name, address) :: handles)
  | .other :: rest => handlesOf? rest

/-- The directives at the start of a document, and the tokens after them. -/
def spanDirectives : List Token → List Directive × List Token
  | .directive directive :: rest =>
    let (more, rest) := spanDirectives rest
    (directive :: more, rest)
  | tokens => ([], tokens)

/-- The tree of the one document in some tokens. -/
def content (tokens : List Token) : Except Problem Tree := do
  let (tree, rest) ← Tree.node .block (4 * tokens.length + 4) tokens
  match rest.dropWhile (· = .documentEnd) with
  | [] => return tree
  | rest => Tree.unexpected rest

/-- The one document that some tokens hold; without any tokens it is empty. -/
def ofTokens (tokens : List Token) : Except Problem Page :=
  match spanDirectives tokens with
  | ([], []) => .ok ⟨.empty, knownHandles⟩
  | (directives, .documentStart :: rest) => do
    let handles ← match handlesOf? directives with
      | some handles => pure handles
      | none => throw .malformed
    let tree ← if rest.all (· = .documentEnd) then .ok Tree.empty else content rest
    return ⟨tree, handles ++ knownHandles⟩
  | ([], tokens) => do
    return ⟨← content tokens, knownHandles⟩
  | (_, rest) => Tree.unexpected rest

end Page

end TreeScript.Yaml
