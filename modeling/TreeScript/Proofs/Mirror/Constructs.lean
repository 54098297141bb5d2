import TreeScript.Proofs.Conduct.Constructs
import TreeScript.Proofs.Mirror.Values
import TreeScript.Proofs.Tree.Sites

/-! # Constructs in two runs

Each construct is mirrored by itself, executed in a paired frame, if the nodes it is made of are. The
evaluators of the two runs may be allowed different efforts, as far as the bond goes along with them.
A node that changes a frozen array or compares what is confused is not followed.
-/

namespace TreeScript

open Exec

namespace Bond

/-- Linked stores bind the same names in paired frames, and stay linked when names are bound and
frames are made in both. -/
structure Lawful (bond : Bond) : Prop extends bond.Faithful where
  lookup : ∀ {link store store' frame frame' name}, bond.linked link store store' →
    link.frames frame frame' →
    Pairing.value.option.pairs link (store.lookup? frame name) (store'.lookup? frame' name)
  define : ∀ {link store store' frame frame' name value value'}, bond.linked link store store' →
    link.frames frame frame' → link.Pairs value value' →
    bond.linked link (store.define frame name value) (store'.define frame' name value')
  addFrame : ∀ {link store store' parent parent' label}, bond.linked link store store' →
    link.frames parent parent' → ∃ wider, link ≤ wider ∧
      wider.frames (store.addFrame parent label).1 (store'.addFrame parent' label).1 ∧
      bond.linked wider (store.addFrame parent label).2 (store'.addFrame parent' label).2
  defineLost : ∀ {store frame name value}, bond.lost store → bond.lost (store.define frame name value)
  addFrameLost : ∀ {store parent label}, bond.lost store → bond.lost (store.addFrame parent label).2
  /-- A run that catches a failure that it came to alone is lost. -/
  caughtLost : ∀ {store : Store} {cause}, bond.Excused (.failure cause) store →
    bond.lost (store.record (.caught cause))
  excusesRecord : ∀ {store : Store} {cause event}, bond.excuses cause store → bond.excuses cause (store.record event)

end Bond

variable {α β : Type} {bond : Bond} {link wider : Link} {frame frame' : FrameRef}

/-! ## Names and scopes -/

namespace Exec

variable {pairs : Link → α → α → Prop}

theorem mirrors_lookup (lawful : bond.Lawful) (frames : link.frames frame frame') (name : String) :
    (lookup frame name).Mirrors bond link Pairing.value.pairs (lookup frame' name) := by
  refine ⟨follows_lookup trivial, fun wider within store store' linked => ?_⟩
  have known : Pairing.value.option.pairs wider (store.lookup? frame name) (store'.lookup? frame' name) :=
    lawful.lookup linked (within.frames frames)
  unfold lookup
  generalize store.lookup? frame name = found at known ⊢
  generalize store'.lookup? frame' name = found' at known ⊢
  cases known with
  | none => exact Bond.meets_stopped linked (.failure (.refl _))
  | some paired => exact Bond.meets_done linked paired

theorem mirrors_define (lawful : bond.Lawful) (frames : link.frames frame frame') (name : String)
    {value value' : Value} (paired : link.Pairs value value') :
    (define frame name value).Mirrors bond link (Pairing.same).pairs (define frame' name value') :=
  mirrors_change (fun _ => lawful.defineLost) fun _ within _ _ linked =>
    lawful.define linked (within.frames frames) (paired.mono within)

theorem mirrors_child (lawful : bond.Lawful) (frames : link.frames frame frame') (label : String) :
    (child frame label).Mirrors bond link Pairing.frame.pairs (child frame' label) :=
  mirrors_create (fun _ => lawful.addFrameLost) fun _ within _ _ linked =>
    lawful.addFrame linked (within.frames frames)

end Exec

theorem mirrors_bindAll (lawful : bond.Lawful) (frames : link.frames frame frame') (names : List String)
    {values values' : List Value} (paired : Pairing.value.list.pairs link values values') :
    (bindAll frame names values).Mirrors bond link (Pairing.same).pairs (bindAll frame' names values') := by
  induction names generalizing link values values' with
  | nil => exact mirrors_done fun _ _ => rfl
  | cons name names ih =>
    cases paired with
    | nil => exact mirrors_done fun _ _ => rfl
    | cons head tail =>
      refine (mirrors_define lawful frames name head).bind fun wider within _ _ _ => ?_
      exact ih (within.frames frames) (Pairing.value.list.mono tail within)

/-! ## Nodes and functions -/

/-- The values that stand in a node itself. -/
def Node.values : Node → List Value
  | literal value => [value.toValue]
  | host _ (.constant value) _ | host _ (.define _ value) _ | host _ (.returnValue value) _ => [value]
  | _ => []

/-- Whether a node puts something new into an array: it calls `push`, or writes an element. -/
def Node.fillsArrays : Node → Bool
  | method _ name _ => name == "push"
  | setIndex _ _ _ => true
  | _ => false

/-- A value is compared with the candidates of some cases in order, and with one that it is confused with. -/
inductive Evaluator.ConfusesCase (confused : Store → Value → Value → Prop) (ev : Evaluator) (host : Host) (frame : FrameRef)
    (value : Value) : Store → List (Node × List Node) → Prop
  | here {store after : Store} {candidate : Node} {body : List Node} {rest : List (Node × List Node)} {other : Value}
      (given : ev.exec candidate frame host store = .done other after)
      (confuses : confused after value other) :
      ConfusesCase confused ev host frame value store ((candidate, body) :: rest)
  | later {store after : Store} {candidate : Node} {body : List Node} {rest : List (Node × List Node)} {other : Value}
      (given : ev.exec candidate frame host store = .done other after)
      (differs : value.strictEquals other = false) (among : ConfusesCase confused ev host frame value after rest) :
      ConfusesCase confused ev host frame value store ((candidate, body) :: rest)

/-- A node changes a frozen array, or compares arrays or objects that are confused. -/
inductive Node.Touches (frozen : Store → Value → Prop) (confused : Store → Value → Value → Prop) (ev : Evaluator) (host : Host) (frame : FrameRef)
    (store : Store) : Node → Prop
  | changes {target : Node} {name : String} {args : List Node} {ref : ArrayRef} {values : List Value}
      {found after : Store} (change : name = "push" ∨ name = "pop")
      (reached : ev.exec target frame host store = .done (.array ref) found)
      (given : Exec.each (ev.argument frame) args host found = .done values after)
      (kept : frozen after (.array ref)) : Touches frozen confused ev host frame store (.method target name args)
  | writes {target index expression : Node} {ref : ArrayRef} {key value result : Value}
      {found keyed after last : Store} (reached : ev.exec target frame host store = .done (.array ref) found)
      (keys : ev.exec index frame host found = .done key keyed)
      (given : ev.exec expression frame host keyed = .done value after)
      (written : writeElement (.array ref) key value host after = .done result last)
      (kept : frozen after (.array ref)) : Touches frozen confused ev host frame store (.setIndex target index expression)
  | compares {token : String} {left right : Node} {value other : Value} {found after : Store}
      (equality : Operator.ofToken? token = some .equal ∨ Operator.ofToken? token = some .notEqual)
      (first : ev.exec left frame host store = .done value found)
      (second : ev.exec right frame host found = .done other after)
      (confuses : confused after value other) : Touches frozen confused ev host frame store (.binary token left right)
  | selects {expression : Node} {cases : List (Node × List Node)} {otherwise : Option (List Node)} {value : Value}
      {found : Store} (given : ev.exec expression frame host store = .done value found)
      (among : ev.ConfusesCase confused host frame value found cases) :
      Touches frozen confused ev host frame store (.select expression cases otherwise)

/-- Nothing is touched if nothing is frozen or confused. -/
theorem Node.not_touches {frozen : Store → Value → Prop} {confused : Store → Value → Value → Prop}
    (unfrozen : ∀ store value, ¬ frozen store value) (told : ∀ store value other, ¬ confused store value other) {ev : Evaluator}
    {host : Host} {frame : FrameRef} {store : Store} {node : Node} : ¬ node.Touches frozen confused ev host frame store := by
  intro touches
  cases touches with
  | changes _ _ _ kept | writes _ _ _ _ kept => exact unfrozen _ _ kept
  | compares _ _ _ confuses => exact told _ _ _ confuses
  | selects given among =>
    clear given
    induction among with
    | here _ confuses => exact told _ _ _ confuses
    | later _ _ _ ih => exact ih

/-- Steps that give the same results give them item by item. -/
theorem Exec.each_eq_done_mono {α β : Type} {step other : α → Exec β} {host : Host}
    (same : ∀ {item store result after}, step item host store = .done result after →
      other item host store = .done result after) {items : List α} {results : List β} {store after : Store}
    (ends : each step items host store = .done results after) : each other items host store = .done results after := by
  induction items generalizing store results with
  | nil => exact ends
  | cons item items ih =>
    rw [each] at ends ⊢
    obtain ⟨result, middle, first, rest⟩ := bind_eq_done_iff.mp ends
    obtain ⟨others, last, rest, final⟩ := bind_eq_done_iff.mp rest
    cases final
    exact bind_eq_done_iff.mpr ⟨result, middle, same first, bind_eq_done_iff.mpr ⟨others, _, ih rest, rfl⟩⟩

/-- What is touched is also touched by an evaluator that gives at least the same results. -/
theorem Node.Touches.mono {frozen : Store → Value → Prop} {confused : Store → Value → Value → Prop} {ev other : Evaluator}
    {host : Host} (same : ∀ {node frame store value after}, ev.exec node frame host store = .done value after →
      other.exec node frame host store = .done value after) {frame : FrameRef} {store : Store} {node : Node}
    (touches : node.Touches frozen confused ev host frame store) : node.Touches frozen confused other host frame store := by
  cases touches with
  | changes change reached given kept =>
    refine .changes change (same reached) (Exec.each_eq_done_mono (fun {node store value after} ends => ?_) given) kept
    unfold Evaluator.argument at ends ⊢
    cases closure : closureOf? frame node with
    | some make =>
      rw [closure] at ends
      exact ends
    | none =>
      rw [closure] at ends
      exact same ends
  | writes reached keys given written kept => exact .writes (same reached) (same keys) (same given) written kept
  | compares equality first second confuses => exact .compares equality (same first) (same second) confuses
  | selects given among =>
    refine .selects (same given) ?_
    clear given
    induction among with
    | here given confuses => exact .here (same given) confuses
    | later given differs _ ih => exact .later (same given) differs ih

/-- A node is mirrored in all paired frames, now and later. -/
def Evaluator.MirrorsNode (bond : Bond) (link : Link) (ev ev' : Evaluator) (node : Node) : Prop :=
  ∀ wider, link ≤ wider → ∀ frame frame', wider.frames frame frame' →
    (ev.exec node frame).Mirrors bond wider Pairing.value.pairs (ev'.exec node frame')

/-- The functions that a node makes are paired, now and later. -/
def Bond.PairsMade (bond : Bond) (link : Link) (node : Node) : Prop :=
  ∀ wider, link ≤ wider → ∀ frame frame', wider.frames frame frame' →
    ∀ make make', closureOf? frame node = some make → closureOf? frame' node = some make' →
      make.Mirrors bond wider Pairing.value.pairs make'

/-- Whether a node makes a function does not depend on the frame. -/
theorem closureOf?_eq_none_iff (frame frame' : FrameRef) (node : Node) :
    closureOf? frame node = none ↔ closureOf? frame' node = none := by
  cases node <;> simp [closureOf?]

namespace Evaluator

variable {ev ev' : Evaluator} {node : Node} {nodes : List Node}

theorem MirrorsNode.mono (mirrors : MirrorsNode bond link ev ev' node) (within : link ≤ wider) :
    MirrorsNode bond wider ev ev' node := fun last further => mirrors last (within.trans further)

theorem MirrorsNode.mono_all (mirrors : ∀ node ∈ nodes, MirrorsNode bond link ev ev' node) (within : link ≤ wider) :
    ∀ node ∈ nodes, MirrorsNode bond wider ev ev' node := fun node member => (mirrors node member).mono within

theorem MirrorsNode.here (mirrors : MirrorsNode bond link ev ev' node) (frames : link.frames frame frame') :
    (ev.exec node frame).Mirrors bond link Pairing.value.pairs (ev'.exec node frame') :=
  mirrors link le_rfl frame frame' frames

theorem mirrors_argument (exec : MirrorsNode bond link ev ev' node) (made : bond.PairsMade link node)
    (frames : link.frames frame frame') :
    (ev.argument frame node).Mirrors bond link Pairing.value.pairs (ev'.argument frame' node) := by
  unfold argument
  cases closure : closureOf? frame node with
  | none =>
    rw [(closureOf?_eq_none_iff frame frame' node).mp closure]
    exact exec.here frames
  | some make =>
    cases closure' : closureOf? frame' node with
    | none => cases ((closureOf?_eq_none_iff frame frame' node).mpr closure').symm.trans closure
    | some make' => exact made link le_rfl frame frame' frames make make' closure closure'

theorem mirrors_arguments (exec : ∀ node ∈ nodes, MirrorsNode bond link ev ev' node)
    (made : ∀ node ∈ nodes, bond.PairsMade link node) (frames : link.frames frame frame') :
    (Exec.each (ev.argument frame) nodes).Mirrors bond link Pairing.value.list.pairs
      (Exec.each (ev'.argument frame') nodes) :=
  mirrors_each_same fun node member => mirrors_argument (exec node member) (made node member) frames

theorem mirrors_runFrom (exec : ∀ node ∈ nodes, MirrorsNode bond link ev ev' node)
    (frames : link.frames frame frame') {last last' : Value} (paired : link.Pairs last last') :
    (ev.runFrom frame last nodes).Mirrors bond link Pairing.value.pairs
      (ev'.runFrom frame' last' nodes) := by
  induction nodes generalizing link last last' with
  | nil => exact mirrors_pure paired
  | cons node rest ih =>
    obtain ⟨first, others⟩ := List.forall_mem_cons.mp exec
    refine (first.here frames).bind fun wider within value value' paired => ?_
    exact ih (.mono_all others within) (within.frames frames) paired

theorem mirrors_run (exec : ∀ node ∈ nodes, MirrorsNode bond link ev ev' node)
    (frames : link.frames frame frame') :
    (ev.run frame nodes).Mirrors bond link Pairing.value.pairs (ev'.run frame' nodes) :=
  mirrors_runFrom exec frames .undefined

theorem mirrors_runInside (lawful : bond.Lawful) (exec : ∀ node ∈ nodes, MirrorsNode bond link ev ev' node)
    (frames : link.frames frame frame') (label : String) :
    (ev.runInside frame label nodes).Mirrors bond link Pairing.value.pairs
      (ev'.runInside frame' label nodes) :=
  (mirrors_child lawful frames label).bind fun _ within _ _ scopes =>
    mirrors_run (.mono_all exec within) scopes

theorem mirrors_condition (exec : MirrorsNode bond link ev ev' node) (frames : link.frames frame frame') :
    (ev.condition node frame).Mirrors bond link (Pairing.same).pairs (ev'.condition node frame') := by
  refine (exec.here frames).bind fun wider _ value value' paired => ?_
  have alike := paired.conditionNotBoolean
  cases paired with
  | bool verdict => exact mirrors_pure rfl
  | _ => exact mirrors_fail alike

/-! ## Names -/

theorem mirrors_declare (lawful : bond.Lawful) (exec : MirrorsNode bond link ev ev' node)
    (made : bond.PairsMade link node) (frames : link.frames frame frame') (kind name : String) :
    (ev.declare frame kind name node).Mirrors bond link Pairing.value.pairs
      (ev'.declare frame' kind name node) := by
  have bound (wider : Link) (within : link ≤ wider) (value value' : Value)
      (paired : wider.Pairs value value') : (do
      Exec.define frame name value
      return value).Mirrors bond wider Pairing.value.pairs (do
      Exec.define frame' name value'
      return value') :=
    (mirrors_define lawful (within.frames frames) name paired).bind fun _ further _ _ _ =>
      mirrors_pure (paired.mono further)
  unfold declare
  split
  · exact mirrors_fail (.refl _)
  · cases closure : closureOf? frame node with
    | none =>
      rw [(closureOf?_eq_none_iff frame frame' node).mp closure]
      exact mirrors_fail (.refl _)
    | some make =>
      cases closure' : closureOf? frame' node with
      | none => cases ((closureOf?_eq_none_iff frame frame' node).mpr closure').symm.trans closure
      | some make' =>
        exact (made link le_rfl frame frame' frames make make' closure closure').bind bound
  · next known _ _ =>
    refine (exec.here frames).bind fun wider within value value' paired => ?_
    have admits : known.admits value = known.admits value' := by cases paired <;> cases known <;> rfl
    rw [admits, paired.describe_eq]
    split
    · exact bound wider within value value' paired
    · exact mirrors_fail (.refl _)

theorem mirrors_assign (lawful : bond.Lawful) (exec : MirrorsNode bond link ev ev' node)
    (frames : link.frames frame frame') (name : String) :
    (ev.assign frame name node).Mirrors bond link Pairing.value.pairs (ev'.assign frame' name node) := by
  refine (mirrors_lookup lawful frames name).bind fun first to₁ _ _ _ => ?_
  refine ((exec.mono to₁).here (to₁.frames frames)).bind fun second to₂ value value' paired => ?_
  refine (mirrors_define lawful ((to₁.trans to₂).frames frames) name paired).bind fun last to₃ _ _ _ => ?_
  exact mirrors_pure (paired.mono to₃)

/-! ## Calls -/

theorem mirrors_callNamed (lawful : bond.Lawful) (exec : ∀ node ∈ nodes, MirrorsNode bond link ev ev' node)
    (made : ∀ node ∈ nodes, bond.PairsMade link node) (calls : Caller.Mirrors bond link ev.call ev'.call)
    (frames : link.frames frame frame') (name : String) :
    (ev.callNamed frame name nodes).Mirrors bond link Pairing.value.pairs
      (ev'.callNamed frame' name nodes) := by
  refine (mirrors_lookup lawful frames name).bind fun first to₁ callee callee' paired => ?_
  cases paired with
  | function functions =>
    have arguments := mirrors_arguments exec made frames
    refine (arguments.mono to₁).bind fun second to₂ values values' args => ?_
    exact (calls second (to₁.trans to₂) _ _ _ _ (to₂.functions functions) args).hosted
  | _ => exact mirrors_fail (.refl _)

theorem mirrors_callMethod (lawful : bond.Lawful) (target : MirrorsNode bond link ev ev' node)
    (exec : ∀ node ∈ nodes, MirrorsNode bond link ev ev' node)
    (made : ∀ node ∈ nodes, bond.PairsMade link node) (calls : Caller.Mirrors bond link ev.call ev'.call)
    (frames : link.frames frame frame') (name : String) (may : bond.gains ∨ name ≠ "push") :
    (ev.callMethod frame node name nodes).MirrorsFrom
      (fun store => ¬ (Node.method node name nodes).Touches bond.frozen bond.confused ev bond.left frame store)
      bond link Pairing.value.pairs (ev'.callMethod frame' node name nodes) := by
  refine (target.here frames).bind_from fun first to₁ receiver receiver' paired => ?_
  rw [paired.isNullish_eq]
  split
  · exact (mirrors_fail (.refl _)).from _
  · have arguments := mirrors_arguments exec made frames
    refine (arguments.mono to₁).bind_from fun second to₂ values values' args => ?_
    have later : Caller.Mirrors bond second ev.call ev'.call := fun wider within =>
      calls wider ((to₁.trans to₂).trans within)
    refine ((mirrors_applyMethod lawful.toFaithful later (paired.mono to₂) name may args).imp ?_).hosted
    rintro after ⟨found, ⟨store, untouched, reached⟩, given⟩ ref rfl change kept
    exact untouched (.changes change reached given kept)

/-- A function is called in paired frames of its own. -/
theorem mirrors_callClosure (lawful : bond.Lawful) {function : Closure} {scope' : FrameRef}
    (scopes : link.frames function.scope scope')
    (exec : ∀ node ∈ function.body, MirrorsNode bond link ev ev' node) {args args' : List Value}
    (paired : Pairing.value.list.pairs link args args') :
    (ev.callClosure function args).Mirrors bond link Pairing.value.pairs
      (ev'.callClosure { function with scope := scope' } args') := by
  unfold callClosure
  rw [paired.length_eq]
  split
  · refine (mirrors_child lawful scopes _).bind fun first to₁ frame frame' frames => ?_
    refine (mirrors_bindAll lawful frames _ (Pairing.value.list.mono paired to₁)).bind
      fun second to₂ _ _ _ => ?_
    have whole := to₁.trans to₂
    exact (mirrors_run (.mono_all exec whole) (to₂.frames frames)).absorbReturn _
  · exact mirrors_fail (.refl _)

theorem mirrors_callArrow (lawful : bond.Lawful) {scope scope' : FrameRef} (scopes : link.frames scope scope')
    (exec : MirrorsNode bond link ev ev' node) (params : List String) {args args' : List Value}
    (paired : Pairing.value.list.pairs link args args') :
    (ev.callArrow params node scope args).Mirrors bond link Pairing.value.pairs
      (ev'.callArrow params node scope' args') := by
  refine (mirrors_child lawful scopes _).bind fun first to₁ frame frame' frames => ?_
  have filled : Pairing.value.list.pairs first (args ++ List.replicate params.length .undefined)
      (args' ++ List.replicate params.length .undefined) :=
    List.rel_append (Pairing.value.list.mono paired to₁) (pairs_replicate_undefined _)
  refine (mirrors_bindAll lawful frames _ filled).bind fun second to₂ _ _ _ => ?_
  exact (exec.mono (to₁.trans to₂)).here (to₂.frames frames)

/-! ## Expressions -/

variable {effort effort' : Nat}

theorem mirrors_operate (faithful : bond.Faithful) {left right : Node}
    (leftExec : MirrorsNode bond link ev ev' left) (rightExec : MirrorsNode bond link ev ev' right)
    (frames : link.frames frame frame') (token : String) :
    (ev.operate frame token left right).MirrorsFrom
      (fun store => ¬ (Node.binary token left right).Touches bond.frozen bond.confused ev bond.left frame store)
      bond link Pairing.value.pairs (ev'.operate frame' token left right) := by
  refine (leftExec.here frames).bind_from fun first to₁ value value' paired => ?_
  refine ((rightExec.mono to₁).here (to₁.frames frames)).bind_from fun second to₂ other other' otherPaired => ?_
  cases known : Operator.ofToken? token with
  | none => exact (mirrors_fail (.refl _)).from _
  | some operator =>
    refine ⟨operator.follows_apply faithful.sturdy bond.losing_permissive.tolerant.operating value other, ?_⟩
    rintro last to₃ after after' linked ⟨found, ⟨store, untouched, given⟩, otherGiven⟩
    replace paired := paired.mono (to₂.trans to₃)
    replace otherPaired := otherPaired.mono to₃
    refine (operator.mirrors_apply faithful.toGrowing paired otherPaired fun equality => ?_).meets last le_rfl _ _ linked
    refine faithful.strictEquals_eq linked paired otherPaired fun confuses => untouched ?_
    exact .compares (known ▸ equality.imp (congrArg some) (congrArg some)) given otherGiven confuses

theorem mirrors_setIndex (faithful : bond.Faithful) (gains : bond.gains) {target index expression : Node}
    (targetExec : MirrorsNode bond link ev ev' target) (indexExec : MirrorsNode bond link ev ev' index)
    (exec : MirrorsNode bond link ev ev' expression) (frames : link.frames frame frame') :
    (ev.execNode effort (.setIndex target index expression) frame).MirrorsFrom
      (fun store => ¬ (Node.setIndex target index expression).Touches bond.frozen bond.confused ev bond.left frame store)
      bond link Pairing.value.pairs (ev'.execNode effort' (.setIndex target index expression) frame') := by
  refine (targetExec.here frames).bind_from fun first to₁ target target' paired => ?_
  refine ((indexExec.mono to₁).here (to₁.frames frames)).bind_from fun second to₂ key key' keyPaired => ?_
  have whole := to₁.trans to₂
  refine ((exec.mono whole).here (whole.frames frames)).bind_from fun last to₃ value value' newPaired => ?_
  refine (mirrors_writeElement faithful gains (paired.mono (to₂.trans to₃)) (keyPaired.mono to₃) newPaired).imp ?_
  rintro after ⟨keyed, ⟨found, ⟨store, untouched, reached⟩, keys⟩, given⟩ ref result final rfl written kept
  exact untouched (.writes reached keys given written kept)

theorem mirrors_properties {properties : List (String × Node)}
    (exec : ∀ entry ∈ properties, MirrorsNode bond link ev ev' entry.2)
    (made : ∀ entry ∈ properties, bond.PairsMade link entry.2) (frames : link.frames frame frame') :
    (Exec.each (fun (name, node) => do
      return (name, ← ev.argument frame node)) properties).Mirrors bond link
      Pairing.entries.pairs (Exec.each (fun (name, node) => do
      return (name, ← ev'.argument frame' node)) properties) := by
  refine mirrors_each_same fun entry member => ?_
  refine (mirrors_argument (exec entry member) (made entry member) frames).bind
    fun _ _ value value' paired => ?_
  exact mirrors_pure ⟨rfl, paired⟩

theorem mirrors_object (growing : bond.Growing) {properties : List (String × Node)}
    (exec : ∀ entry ∈ properties, MirrorsNode bond link ev ev' entry.2)
    (made : ∀ entry ∈ properties, bond.PairsMade link entry.2) (frames : link.frames frame frame') :
    (ev.object frame properties).Mirrors bond link Pairing.value.pairs (ev'.object frame' properties) :=
  (mirrors_properties exec made frames).bind fun _ _ entries others paired => mirrors_newObject growing
    (Table.nodup_keys_ofList entries) (Table.nodup_keys_ofList others) (Table.Paired.ofList paired)

theorem mirrors_access (reading : bond.Reading) (target : MirrorsNode bond link ev ev' node)
    (frames : link.frames frame frame') (member : Member) {key key' : Exec Value}
    (keys : key.Mirrors bond link Pairing.value.pairs key') :
    (ev.access frame node member key).Mirrors bond link Pairing.value.pairs
      (ev'.access frame' node member key') := by
  refine (target.here frames).bind fun first to₁ receiver receiver' paired => ?_
  rw [paired.isNullish_eq]
  split
  · exact mirrors_fail (.refl _)
  · exact (keys.mono to₁).bind fun last to₂ key key' keyPaired =>
      mirrors_readProperty reading (paired.mono to₂) keyPaired

/-! ## Choices -/

theorem mirrors_branch (lawful : bond.Lawful) {thenBranch : List Node} {elseBranch : Option (List Node)}
    (test : MirrorsNode bond link ev ev' node)
    (thenExec : ∀ part ∈ thenBranch, MirrorsNode bond link ev ev' part)
    (elseExec : ∀ part ∈ elseBranch.getD [], MirrorsNode bond link ev ev' part)
    (frames : link.frames frame frame') :
    (ev.branch frame node thenBranch elseBranch).Mirrors bond link Pairing.value.pairs
      (ev'.branch frame' node thenBranch elseBranch) := by
  refine (mirrors_condition test frames).bind_same fun wider within holds => ?_
  have inside {statements : List Node}
      (exec : ∀ part ∈ statements, MirrorsNode bond link ev ev' part) :=
    (mirrors_runInside lawful exec frames "if").mono within
  cases holds with
  | true => exact inside thenExec
  | false =>
    cases elseBranch with
    | some statements => exact inside elseExec
    | none => exact mirrors_pure .undefined

/-- What follows the choice among cases is mirrored, if it is for each of the bodies that can be
chosen. -/
theorem mirrors_matchingCase {pairs : Link → β → β → Prop} (faithful : bond.Faithful)
    {cases : List (Node × List Node)} {next next' : Option (List Node) → Exec β}
    (tests : ∀ entry ∈ cases, MirrorsNode bond link ev ev' entry.1) (frames : link.frames frame frame')
    {value value' : Value} (paired : link.Pairs value value')
    (chosen : ∀ body, (∀ statements, body = some statements → ∃ entry ∈ cases, entry.2 = statements) →
      (next body).Mirrors bond link pairs (next' body)) :
    (ev.matchingCase frame value cases >>= next).MirrorsFrom
      (fun store => ¬ ev.ConfusesCase bond.confused bond.left frame value store cases) bond link pairs
      (ev'.matchingCase frame' value' cases >>= next') := by
  induction cases with
  | nil => exact (chosen none (by simp)).from _
  | cons entry rest ih =>
    obtain ⟨candidate, body⟩ := entry
    obtain ⟨first, others⟩ := List.forall_mem_cons.mp tests
    have hit := chosen (some body) fun statements same => ⟨_, List.mem_cons_self .., Option.some.inj same⟩
    have miss := ih others fun body known => chosen body fun statements same =>
      (known statements same).imp fun entry found => ⟨List.mem_cons_of_mem _ found.1, found.2⟩
    unfold matchingCase
    rw [Exec.bind_assoc, Exec.bind_assoc]
    refine (first.here frames).bind_from fun second to₂ result result' candidates => ?_
    refine ⟨?_, ?_⟩
    · split
      · exact hit.keeps
      · exact miss.keeps
    · rintro last to₃ after after' linked ⟨store, apart, given⟩
      have within := to₂.trans to₃
      rw [← faithful.strictEquals_eq linked (paired.mono within) (candidates.mono to₃) fun confuses =>
        apart (.here given confuses)]
      cases same : value.strictEquals result with
      | true => exact hit.meets last within after after' linked
      | false => exact miss.meets last within after after' linked fun among => apart (.later given same among)

theorem mirrors_select (lawful : bond.Lawful) {cases : List (Node × List Node)}
    {otherwise : Option (List Node)} (control : MirrorsNode bond link ev ev' node)
    (exec : ∀ entry ∈ cases, MirrorsNode bond link ev ev' entry.1 ∧
      ∀ part ∈ entry.2, MirrorsNode bond link ev ev' part)
    (default : ∀ part ∈ otherwise.getD [], MirrorsNode bond link ev ev' part)
    (frames : link.frames frame frame') :
    (ev.select frame node cases otherwise).MirrorsFrom
      (fun store => ¬ (Node.select node cases otherwise).Touches bond.frozen bond.confused ev bond.left frame store)
      bond link Pairing.value.pairs (ev'.select frame' node cases otherwise) := by
  refine (control.here frames).bind_from fun wider within value value' paired => ?_
  refine (mirrors_matchingCase lawful.toFaithful (fun entry member => (exec entry member).1.mono within)
    (within.frames frames) paired fun body chosen => ?_).imp ?_
  · cases body with
    | some statements =>
      obtain ⟨entry, member, rfl⟩ := chosen statements rfl
      exact (mirrors_runInside lawful (exec entry member).2 frames "case").mono within
    | none =>
      cases otherwise with
      | some statements => exact (mirrors_runInside lawful default frames "default").mono within
      | none => exact mirrors_pure .undefined
  · rintro found ⟨store, untouched, given⟩ among
    exact untouched (.selects given among)

/-! ## Loops and handlers -/

variable {body : List Node}

theorem mirrors_perform {part : Option Node}
    (exec : ∀ node ∈ part.toList, MirrorsNode bond link ev ev' node) (frames : link.frames frame frame') :
    (ev.perform frame part).Mirrors bond link (Pairing.same).pairs (ev'.perform frame' part) := by
  cases part with
  | none => exact mirrors_pure rfl
  | some node =>
    exact ((exec node (by simp)).here frames).bind fun _ _ _ _ _ => mirrors_pure rfl

theorem mirrors_proceeds {condition : Option Node}
    (exec : ∀ node ∈ condition.toList, MirrorsNode bond link ev ev' node)
    (frames : link.frames frame frame') :
    (ev.proceeds frame condition).Mirrors bond link (Pairing.same).pairs
      (ev'.proceeds frame' condition) := by
  cases condition with
  | none => exact mirrors_pure rfl
  | some node => exact mirrors_condition (exec node (by simp)) frames

section Loops

variable (lawful : bond.Lawful) (affords : bond.Affords effort effort')
  (exec : ∀ part ∈ body, MirrorsNode bond link ev ev' part) (frames : link.frames frame frame')

include lawful affords exec frames

theorem mirrors_whileLoop (test : MirrorsNode bond link ev ev' node) :
    (ev.whileLoop effort frame node body).Mirrors bond link Pairing.value.pairs
      (ev'.whileLoop effort' frame' node body) := by
  refine (mirrors_child lawful frames _).bind fun first to₁ scope scope' scopes => ?_
  refine mirrors_repeatRounds (fun second to₂ last last' paired => ?_) affords .undefined
  have whole := to₁.trans to₂
  refine (mirrors_condition (test.mono whole) (to₂.frames scopes)).bind_same fun third to₃ holds => ?_
  split
  · have run := mirrors_run (.mono_all exec whole) (to₂.frames scopes)
    exact (run.mono to₃).absorbJumps (paired.mono to₃)
  · exact mirrors_pure (.finished (paired.mono to₃))

theorem mirrors_doWhile (test : MirrorsNode bond link ev ev' node) :
    (ev.doWhile effort frame body node).Mirrors bond link Pairing.value.pairs
      (ev'.doWhile effort' frame' body node) := by
  refine (mirrors_child lawful frames _).bind fun first to₁ scope scope' scopes => ?_
  refine mirrors_repeatRounds (fun second to₂ last last' paired => ?_) affords .undefined
  have whole := to₁.trans to₂
  have run := mirrors_run (.mono_all exec whole) (to₂.frames scopes)
  refine (run.absorbJumps paired).bind fun third to₃ round round' rounds => ?_
  cases rounds with
  | finished paired => exact mirrors_pure (.finished paired)
  | again paired =>
    refine (mirrors_condition (test.mono (whole.trans to₃)) ((to₂.trans to₃).frames scopes)).bind_same
      fun fourth to₄ holds => ?_
    split
    · exact mirrors_pure (.again (paired.mono to₄))
    · exact mirrors_pure (.finished (paired.mono to₄))

theorem mirrors_forLoop {init condition update : Option Node}
    (initial : ∀ node ∈ init.toList, MirrorsNode bond link ev ev' node)
    (test : ∀ node ∈ condition.toList, MirrorsNode bond link ev ev' node)
    (step : ∀ node ∈ update.toList, MirrorsNode bond link ev ev' node) :
    (ev.forLoop effort frame init condition update body).Mirrors bond link Pairing.value.pairs
      (ev'.forLoop effort' frame' init condition update body) := by
  refine (mirrors_child lawful frames _).bind fun first to₁ scope scope' scopes => ?_
  refine (mirrors_perform (.mono_all initial to₁) scopes).bind fun second to₂ _ _ _ => ?_
  refine mirrors_repeatRounds (fun third to₃ last last' paired => ?_) affords .undefined
  have whole := to₁.trans (to₂.trans to₃)
  have scopes := (to₂.trans to₃).frames scopes
  refine (mirrors_proceeds (.mono_all test whole) scopes).bind_same fun fourth to₄ holds => ?_
  split
  · have run := mirrors_runInside lawful (.mono_all exec whole) scopes "for body"
    refine ((run.mono to₄).absorbJumps (paired.mono to₄)).bind fun fifth to₅ round round' rounds => ?_
    cases rounds with
    | finished paired => exact mirrors_pure (.finished paired)
    | again paired =>
      have onwards := to₄.trans to₅
      refine (mirrors_perform (.mono_all step (whole.trans onwards)) (onwards.frames scopes)).bind
        fun sixth to₆ _ _ _ => ?_
      exact mirrors_pure (.again (paired.mono to₆))
  · exact mirrors_pure (.finished (paired.mono to₄))

omit affords in
theorem mirrors_forEachRound {ref ref' : ArrayRef} (arrays : link.arrays ref ref') (item : String) {state state' : Nat × Value}
    (paired : (Pairing.same.prod Pairing.value).pairs link state state') :
    (ev.forEachRound frame item ref body state).Mirrors bond link
      (Pairing.same.prod Pairing.value).round.pairs (ev'.forEachRound frame' item ref' body state') := by
  obtain ⟨index, last⟩ := state
  obtain ⟨index', last'⟩ := state'
  obtain ⟨same, paired⟩ := paired
  cases same
  refine (mirrors_elements lawful.toReading arrays).bind fun first to₁ elements elements' items => ?_
  have item := pairs_getElem? items index
  rw [Array.getElem?_toList, Array.getElem?_toList] at item
  -- The arrays are read anew in every round, and end in both runs at the same index.
  generalize elements[index]? = found at item ⊢
  generalize elements'[index]? = found' at item ⊢
  cases item with
  | none => exact mirrors_pure (.finished ⟨rfl, paired.mono to₁⟩)
  | @some element element' elements =>
    have body : (do
        let scope ← Exec.child frame "for-each"
        Exec.define scope item element
        ev.run scope body).Mirrors bond first Pairing.value.pairs (do
        let scope ← Exec.child frame' "for-each"
        Exec.define scope item element'
        ev'.run scope body) := by
      refine (mirrors_child lawful (to₁.frames frames) _).bind fun second to₂ scope scope' scopes => ?_
      refine (mirrors_define lawful scopes _ (elements.mono to₂)).bind fun third to₃ _ _ _ => ?_
      have whole := to₁.trans (to₂.trans to₃)
      exact mirrors_run (.mono_all exec whole) (to₃.frames scopes)
    refine (body.absorbJumps (paired.mono to₁)).bind fun second _ round round' rounds => ?_
    cases rounds with
    | again paired => exact mirrors_pure (.again ⟨rfl, paired⟩)
    | finished paired => exact mirrors_pure (.finished ⟨rfl, paired⟩)

theorem mirrors_forEach (array : MirrorsNode bond link ev ev' node) (item : String) :
    (ev.forEach effort frame item node body).Mirrors bond link Pairing.value.pairs
      (ev'.forEach effort' frame' item node body) := by
  refine (array.here frames).bind fun first to₁ value value' paired => ?_
  have alike := paired.notAnArray
  cases paired with
  | @array ref ref' arrays =>
    have rounds : (Exec.repeatRounds (ev.forEachRound frame item ref body) effort (0, .undefined)).Mirrors
        bond first (Pairing.same.prod Pairing.value).pairs
        (Exec.repeatRounds (ev'.forEachRound frame' item ref' body) effort' (0, .undefined)) :=
      mirrors_repeatRounds (fun second to₂ state state' paired =>
        mirrors_forEachRound lawful (.mono_all exec (to₁.trans to₂)) ((to₁.trans to₂).frames frames)
          (to₂.arrays arrays) item paired) affords ⟨rfl, .undefined⟩
    exact rounds.bind fun _ _ state state' paired => mirrors_pure paired.2
  | _ => exact mirrors_fail alike

end Loops

/-- A handler gets the description of a failure in a new scope. -/
theorem mirrors_respond (lawful : bond.Lawful) (exec : ∀ part ∈ nodes, MirrorsNode bond link ev ev' part)
    (frames : link.frames frame frame') (catchVar : String) {cause cause' : Failure} (alike : cause.Alike cause') :
    (do
      let scope ← Exec.child frame "catch"
      let description ← Exec.newObject cause.entries
      Exec.define scope catchVar description
      ev.run scope nodes).Mirrors bond link Pairing.value.pairs (do
      let scope ← Exec.child frame' "catch"
      let description ← Exec.newObject cause'.entries
      Exec.define scope catchVar description
      ev'.run scope nodes) := by
  refine (mirrors_child lawful frames _).bind fun first to₁ scope scope' scopes => ?_
  have entries : Pairing.entries.pairs first cause.entries cause'.entries := by
    unfold Failure.entries
    rw [alike.errorClass, alike.code, alike.message]
    exact .cons ⟨rfl, .string _⟩ (.cons ⟨rfl, .string _⟩ (.cons ⟨rfl, .string _⟩ .nil))
  refine (mirrors_newObject lawful.toGrowing cause.nodup_keys_entries cause'.nodup_keys_entries
    entries).bind fun second to₂ description description' paired => ?_
  refine (mirrors_define lawful (to₂.frames scopes) catchVar paired).bind fun third to₃ _ _ _ => ?_
  exact mirrors_run (.mono_all exec (to₁.trans (to₂.trans to₃))) ((to₂.trans to₃).frames scopes)

theorem mirrors_tryCatch (lawful : bond.Lawful) {tryBlock catchBlock : List Node}
    (tried : ∀ part ∈ tryBlock, MirrorsNode bond link ev ev' part)
    (exec : ∀ part ∈ catchBlock, MirrorsNode bond link ev ev' part) (frames : link.frames frame frame')
    (catchVar : String) :
    (Exec.catching (ev.runInside frame "try" tryBlock) (ev.handle frame catchVar catchBlock)).Mirrors
      bond link Pairing.value.pairs
      (Exec.catching (ev'.runInside frame' "try" tryBlock) (ev'.handle frame' catchVar catchBlock)) := by
  refine (mirrors_runInside lawful tried frames "try").catching (fun cause after excused => ?_)
    fun first to₁ cause cause' alike => ?_
  · have keeps := (mirrors_respond lawful exec frames catchVar (.refl cause)).keeps
    exact (keeps.meets bond.left _ (lawful.caughtLost excused)).mono (fun _ _ => id) (fun _ _ lost => .inl lost.2)
      fun _ => id
  · refine (mirrors_change (fun _ => lawful.recordLost) fun _ _ _ _ linked => lawful.record linked rfl).bind fun second to₂ _ _ _ => ?_
    have whole := to₁.trans to₂
    exact mirrors_respond lawful (.mono_all exec whole) (whole.frames frames) catchVar alike

/-! ## Nodes -/

theorem mirrors_perform_host (lawful : bond.Lawful) {name : Option String} {action : HostAction}
    {type : HostType} (known : ∀ value ∈ (Node.host name action type).values, link.Pairs value value)
    (frames : link.frames frame frame') (shown : String) :
    (action.perform shown frame).Mirrors bond link Pairing.value.pairs (action.perform shown frame') := by
  cases action with
  | constant value => exact mirrors_pure (known value (by simp [Node.values]))
  | lookup bound => exact mirrors_lookup lawful frames bound
  | define bound value =>
    have paired := known value (by simp [Node.values])
    exact (mirrors_define lawful frames bound paired).bind fun _ within _ _ _ =>
      mirrors_pure (paired.mono within)
  | crash | scriptError => exact mirrors_fail (.refl _)
  | breakLoop => exact mirrors_stop .broken
  | continueLoop => exact mirrors_stop .continued
  | returnValue value => exact mirrors_stop (.returned (known value (by simp [Node.values])))

/-- A node is mirrored if its parts are and the values that stand in it are paired with themselves. Nodes
that put something new into an array need a bond that goes along with it. Nodes that touch what is frozen or
confused are left out. -/
theorem mirrors_execNode (lawful : bond.Lawful) (affords : bond.Affords effort effort') (site : Site)
    (may : bond.gains ∨ node.fillsArrays = false)
    (exec : ∀ part ∈ node.parts site, MirrorsNode bond link ev ev' part.2)
    (made : ∀ part ∈ node.parts site, bond.PairsMade link part.2)
    (calls : Caller.Mirrors bond link ev.call ev'.call)
    (known : ∀ value ∈ node.values, link.Pairs value value) (frames : link.frames frame frame') :
    (ev.execNode effort node frame).MirrorsFrom (fun store => ¬ node.Touches bond.frozen bond.confused ev bond.left frame store)
      bond link Pairing.value.pairs (ev'.execNode effort' node frame') := by
  cases node <;>
    simp only [Node.parts, List.forall_mem_cons, List.forall_mem_map, List.forall_mem_append, List.map_append,
      List.forall_mem_flatMap, List.not_mem_nil, false_implies, implies_true, and_true] at exec made
  case literal value => exact (mirrors_pure (known _ (List.mem_singleton_self _))).from _
  case reference name => exact (mirrors_lookup lawful frames name).from _
  case declare kind name initial => exact (mirrors_declare lawful exec made frames kind name).from _
  case assign name expression => exact (mirrors_assign lawful exec frames name).from _
  case giveBack expression =>
    cases expression with
    | none => exact (mirrors_stop (.returned .undefined)).from _
    | some expression =>
      exact (((exec expression List.mem_cons_self).here frames).bind fun _ _ _ _ paired =>
        mirrors_stop (.returned paired)).from _
  case breakLoop => exact (mirrors_stop .broken).from _
  case continueLoop => exact (mirrors_stop .continued).from _
  case raise message =>
    refine Mirrors.from ((exec.here frames).bind fun _ _ _ _ paired => ?_) _
    exact (mirrors_textOf lawful.toReading paired).bind_same fun _ _ _ => mirrors_fail (.refl _)
  case function => exact (mirrors_fail (.refl _)).from _
  case arrow => exact (mirrors_fail (.refl _)).from _
  case call name args => exact (mirrors_callNamed lawful exec made calls frames name).from _
  case binary token left right => exact mirrors_operate lawful.toFaithful exec.1 exec.2 frames token
  case method target name args =>
    refine mirrors_callMethod lawful exec.1 exec.2 made.2 calls frames name (may.imp id ?_)
    exact fun keeps push => by simp [Node.fillsArrays, push] at keeps
  case array elements =>
    have values := mirrors_each_same fun element member => (exec element member).here frames
    exact (values.bind fun _ _ values values' paired => mirrors_newArray lawful.toGrowing paired).from _
  case object properties => exact (mirrors_object lawful.toGrowing exec made frames).from _
  case setIndex target index value =>
    have gains : bond.gains := may.resolve_right (by simp [Node.fillsArrays])
    exact mirrors_setIndex lawful.toFaithful gains exec.1 exec.2.1 exec.2.2 frames
  case property target name => exact (mirrors_access lawful.toReading exec frames _ (mirrors_pure (.string name))).from _
  case element target key => exact (mirrors_access lawful.toReading exec.1 frames _ (exec.2.here frames)).from _
  case block statements => exact (mirrors_runInside lawful exec frames _).from _
  case branch condition thenBranch elseBranch => exact (mirrors_branch lawful exec.1 exec.2.1 exec.2.2 frames).from _
  case select expression cases otherwise => exact mirrors_select lawful exec.1 exec.2.1 exec.2.2 frames
  case whileLoop condition body => exact (mirrors_whileLoop lawful affords exec.2 frames exec.1).from _
  case doWhile body condition => exact (mirrors_doWhile lawful affords exec.2 frames exec.1).from _
  case forLoop init condition update body =>
    obtain ⟨⟨⟨initial, test⟩, step⟩, parts⟩ := exec
    exact (mirrors_forLoop lawful affords parts frames initial test step).from _
  case forEach item iterable body => exact (mirrors_forEach lawful affords exec.2 frames exec.1 item).from _
  case tryCatch tryBlock catchVar catchBlock => exact (mirrors_tryCatch lawful exec.1 exec.2 frames catchVar).from _
  case host name action type => exact (mirrors_perform_host lawful known frames _).from _

end Evaluator

end TreeScript
