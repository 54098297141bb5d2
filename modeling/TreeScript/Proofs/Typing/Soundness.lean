import TreeScript.Program.Check
import TreeScript.Program.Run
import TreeScript.Proofs.Typing.Statements

/-! # Soundness of inference for the core language

A core program that the check accepts does not stop for a reason that the check looks for, nor does a
handler receive one: no name is unbound, no declaration meets a value of another kind, conditions are truth
values, iterables are arrays, and arithmetic has numbers to work on. The execution of a node and its
inference are followed side by side. The frames stay in step with the scopes of types through declarations
and assignments.
-/

namespace TreeScript

open Inference

variable {host : Host} {store : Store} {scope after : TypeScope} {frame : FrameRef} {around : List FrameRef}
  {type : Ty} {mayDeclare : Bool} {node : Node}

/-- A core node makes no function. -/
theorem Node.closureOf?_of_isCore (core : node.IsCore mayDeclare) (frame : FrameRef) :
    closureOf? frame node = none := by
  cases node <;> first | rfl | cases core.here .ofFunction

theorem DeclarationKind.ofName?_ne_function {kind : String} {known : DeclarationKind}
    (found : ofName? kind = some known) (other : (kind != "function") = true) : known ≠ .function := by
  rintro rfl
  have named := List.find?_some found
  simp only [name, beq_iff_eq] at named
  simp [← named] at other

theorem staying_lookup {name : String} (known : scope.lookup? name = some type)
    (fits : store.Fits scope (frame :: around)) :
    (Exec.lookup frame name host store).Meets
      (store.staying scope (frame :: around) fun value later => later.HasType type value) := by
  obtain ⟨value, found, typed⟩ := fits.lookup known
  unfold Exec.lookup
  rw [found]
  exact ⟨.refl store, fits, typed⟩

/-- The evaluator gives core nodes values of the types that are inferred. -/
def Evaluator.Sound (ev : Evaluator) : Prop :=
  ∀ {node : Node} {mayDeclare : Bool} {scope after : TypeScope} {type : Ty} {frame : FrameRef}
    {around : List FrameRef} (host : Host) (store : Store), node.IsCore mayDeclare →
    node.infer scope = (.ok type, after) → store.Fits scope (frame :: around) →
    (ev.exec node frame host store).Meets
      (store.leading scope after (frame :: around) fun value later => later.HasType type value)

namespace Evaluator.Sound

variable {ev : Evaluator} (sound : ev.Sound)

include sound

theorem staying_exec (typed : node.HasType scope type) (fits : store.Fits scope (frame :: around)) :
    (ev.exec node frame host store).Meets
      (store.staying scope (frame :: around) fun value later => later.HasType type value) :=
  sound host store typed.1 typed.2 fits

theorem soundAt (core : node.IsCore mayDeclare) (scope : TypeScope) :
    ev.SoundAt Stop.Expected mayDeclare scope node where
  leads inferred :=
    ⟨Node.infer_tail_eq core inferred, fun host store fits => sound host store core inferred fits⟩

theorem soundAll {statements : List Node} (core : ∀ node ∈ statements, node.IsCore mayDeclare) (scope : TypeScope) :
    ev.SoundAll Stop.Expected mayDeclare scope statements := by
  induction statements generalizing scope with
  | nil => trivial
  | cons node rest ih =>
    obtain ⟨first, others⟩ := List.forall_mem_cons.mp core
    exact ⟨sound.soundAt first scope, fun _ after _ => ih others after⟩

theorem soundOptional {body : Option (List Node)} (core : ∀ node ∈ body.getD [], node.IsCore true) (scope : TypeScope) :
    ∀ statements ∈ body, ev.SoundAll Stop.Expected true scope statements := by
  rintro statements rfl
  exact sound.soundAll core scope

theorem soundMaybe {part : Option Node} (core : ∀ node ∈ part.toList, node.IsCore mayDeclare) (scope : TypeScope) :
    ∀ node ∈ part, ev.SoundAt Stop.Expected mayDeclare scope node :=
  fun node member => sound.soundAt (core node (Option.mem_toList.mpr member)) scope

/-! ## Expressions -/

/-- A declaration is the one node that leads to another scope. -/
theorem leading_declare {kind name : String} {initial : Node}
    (core : (Node.declare kind name initial).IsCore mayDeclare)
    (inferred : (Node.declare kind name initial).infer scope = (.ok type, after))
    (fits : store.Fits scope (frame :: around)) :
    (ev.declare frame kind name initial host store).Meets
      (store.leading scope after (frame :: around) fun value later => later.HasType type value) := by
  obtain ⟨known, middle, expected, named, ofInitial, wanted, equal, rfl⟩ :=
    Node.of_infer_declare inferred
  obtain ⟨typed, rfl⟩ := Node.hasType_of_infer (core.operands _ List.mem_cons_self) ofInitial
  have notFunction := DeclarationKind.ofName?_ne_function named (Bool.and_eq_true_iff.mp (core.here .ofFunction)).2
  unfold declare
  rw [named]
  cases known with
  | function => exact absurd rfl notFunction
  | _ =>
    refine Exec.leading_bind (sound.staying_exec typed fits) fun value later _ fits ofValue => ?_
    rw [if_pos (ofValue.admits wanted equal)]
    have grown : later.Extends (later.define frame name value) :=
      ⟨fun _ _ found => found, fun _ _ found => found⟩
    exact ⟨⟨grown, fun _ => .inl⟩, fits.declare ofValue, ofValue.extend grown⟩

theorem staying_assign {name : String} {expression : Node} (core : expression.IsCore false)
    (inferred : (Node.assign name expression).infer scope = (.ok type, after))
    (fits : store.Fits scope (frame :: around)) :
    (ev.assign frame name expression host store).Meets
      (store.staying scope (frame :: around) fun value later => later.HasType type value) := by
  obtain ⟨new, known, ofExpression, equal⟩ := Node.of_infer_assign inferred
  obtain ⟨typed, rfl⟩ := Node.hasType_of_infer core ofExpression
  refine Exec.leading_bind (staying_lookup known fits) fun old first _ fits _ => ?_
  refine Exec.leading_bind (sound.staying_exec typed fits) fun value later _ fits ofValue => ?_
  have grown : later.Extends (later.define frame name value) :=
    ⟨fun _ _ found => found, fun _ _ found => found⟩
  have ofName := ofValue.of_same equal
  exact ⟨⟨grown, fun _ => .inl⟩, fits.assign known ofName, ofName.extend grown⟩

theorem staying_operate {token : String} {left right : Node} (coreLeft : left.IsCore false)
    (coreRight : right.IsCore false)
    (inferred : (Node.binary token left right).infer scope = (.ok type, after))
    (fits : store.Fits scope (frame :: around)) :
    (ev.operate frame token left right host store).Meets
      (store.staying scope (frame :: around) fun value later => later.HasType type value) := by
  obtain ⟨leftType, middle, rightType, operator, ofLeft, ofRight, named, result⟩ :=
    Node.of_infer_binary inferred
  obtain ⟨leftTyped, rfl⟩ := Node.hasType_of_infer coreLeft ofLeft
  obtain ⟨rightTyped, rfl⟩ := Node.hasType_of_infer coreRight ofRight
  refine Exec.leading_bind (sound.staying_exec leftTyped fits) fun leftValue first _ fits ofLeft => ?_
  refine Exec.leading_bind (sound.staying_exec rightTyped fits)
    fun rightValue last grown fits ofRight => ?_
  rw [named]
  exact Operator.staying_apply result fits (ofLeft.extend grown) ofRight

theorem staying_object {properties : List (String × Node)} {types : List (String × Ty)}
    (typed : List.Forall₂ (fun entry property =>
      property.1 = entry.1 ∧ entry.2.HasType scope property.2) properties types)
    (fits : store.Fits scope (frame :: around)) :
    (ev.object frame properties host store).Meets (store.staying scope (frame :: around)
      fun value later => later.HasType (.ofProperties types) value) := by
  refine Exec.leading_bind (Exec.staying_each Store.EntryHasType ?_ ?_ typed fits)
    fun entries later _ fits given => ?_
  · exact fun _ _ _ _ grown known => ⟨known.1, known.2.extend grown⟩
  · rintro ⟨name, node⟩ ⟨propertyName, type⟩ ⟨sameName, ofNode⟩ store fits
    have argument : ev.argument frame node = ev.exec node frame := by
      rw [Evaluator.argument, Node.closureOf?_of_isCore ofNode.1 frame]
    dsimp only
    rw [argument]
    refine Exec.leading_bind (sound.staying_exec ofNode fits) fun value later _ fits ofValue => ?_
    exact Exec.staying_pure fits ⟨sameName, ofValue⟩
  · exact Exec.staying_newObject fits given

theorem staying_access {target : Node} {name : String} (core : target.IsCore false)
    (inferred : (Node.property target name).infer scope = (.ok type, after))
    (fits : store.Fits scope (frame :: around)) :
    (ev.access frame target (.property name) (Exec.done (.string name)) host store).Meets
      (store.staying scope (frame :: around) fun value later => later.HasType type value) := by
  obtain ⟨targetType, ofTarget, told⟩ := Node.of_infer_property inferred
  obtain ⟨typed, rfl⟩ := Node.hasType_of_infer core ofTarget
  refine Exec.leading_bind (sound.staying_exec typed fits) fun receiver later _ fits ofReceiver => ?_
  split
  · exact Exec.staying_stop fits rfl
  · change (readProperty receiver (.string name) host later).Meets _
    rcases told with rfl | ⟨properties, rfl, rfl⟩
    · exact ((follows_readProperty Store.typing_numeric receiver _).staying fits).weaken
        fun value _ _ _ => .any value
    · exact staying_readProperty fits ofReceiver

/-! ## Nodes -/

/-- A core node other than a declaration, in a place where none may stand. -/
theorem staying_execNode (effort : Nat) (core : node.IsCore false)
    (inferred : node.infer scope = (.ok type, after)) (fits : store.Fits scope (frame :: around)) :
    (ev.execNode effort node frame host store).Meets
      (store.staying scope (frame :: around) fun value later => later.HasType type value) := by
  have of_sound (sound : node.SoundBy Stop.Expected false scope (ev.execNode effort node)) :
      (ev.execNode effort node frame host store).Meets _ := (sound.staying inferred).2 host store fits
  have noDeclaration := core.place
  have operands := core.operands
  obtain ⟨_, parts⟩ := core.parts
  -- One case for each kind of node: what is known of the operands and the parts becomes one fact for each.
  cases node <;>
    simp only [Node.operands, Node.parts, List.forall_mem_cons, List.forall_mem_map, List.forall_mem_append,
      List.map_append, List.forall_mem_flatMap, List.not_mem_nil, false_implies, implies_true, and_true]
      at operands parts
  case literal value =>
    obtain ⟨rfl, _⟩ := pure_eq_ok.mp inferred
    refine Exec.staying_pure fits ?_
    cases value <;> constructor
  case reference name =>
    obtain ⟨known, _⟩ := lookup_eq_ok.mp inferred
    change (Exec.lookup frame name host store).Meets _
    exact staying_lookup known fits
  case assign name expression => exact sound.staying_assign operands inferred fits
  case breakLoop =>
    change (Exec.jump .broken host store).Meets _
    exact Exec.staying_stop fits rfl
  case continueLoop =>
    change (Exec.jump .continued host store).Meets _
    exact Exec.staying_stop fits rfl
  case raise message =>
    simp only [Node.infer, bind_eq_ok] at inferred
    obtain ⟨_, _, ofMessage, _⟩ := inferred
    obtain ⟨typed, _⟩ := Node.hasType_of_infer operands ofMessage
    refine Exec.leading_bind (sound.staying_exec typed fits) fun value later _ fits _ => ?_
    refine Exec.leading_bind (Exec.staying_textOf value fits) fun text later _ fits _ => ?_
    exact Exec.staying_stop fits rfl
  case binary token left right => exact sound.staying_operate operands.1 operands.2 inferred fits
  case array elements =>
    simp only [Node.infer, bind_eq_ok, pure_eq_ok] at inferred
    obtain ⟨types, _, ofElements, rfl, _⟩ := inferred
    have typed : List.Forall₂ (Node.HasType scope) elements types :=
      (of_inferEach Node.IsCore.keeps_scope operands rfl ofElements).2.imp fun _ _ => Node.HasType.of_place
    refine Exec.leading_bind (Exec.staying_each Store.HasType (fun _ _ _ _ grown known =>
      known.extend grown) (fun node type typed store fits => sound.staying_exec typed fits)
      typed fits) fun values later _ fits typed => ?_
    exact Exec.staying_newArray fits (by simpa using Store.HasType.common typed)
  case object properties =>
    simp only [Node.infer, bind_eq_ok, pure_eq_ok] at inferred
    obtain ⟨types, _, ofProperties, rfl, _⟩ := inferred
    refine sound.staying_object ?_ fits
    exact (of_inferProperties Node.IsCore.keeps_scope operands rfl ofProperties).2.imp
      fun _ _ known => ⟨known.1, .of_place known.2⟩
  case property target name => exact sound.staying_access operands inferred fits
  case block statements => exact of_sound (soundBy_block (sound.soundAll parts _))
  case branch condition thenBranch elseBranch =>
    exact of_sound (soundBy_branch (sound.soundAt operands scope) (sound.soundAll parts.2.1 _)
      (sound.soundOptional parts.2.2 _))
  case select expression cases otherwise =>
    exact of_sound (soundBy_select (sound.soundAt operands.1 scope) (fun entry member =>
      ⟨sound.soundAt (operands.2 entry member) scope, sound.soundAll (parts.2.1 entry member).2 _⟩)
      (sound.soundOptional parts.2.2 _))
  case whileLoop condition body =>
    exact of_sound (soundBy_whileLoop effort (sound.soundAt operands.1 _) (sound.soundAll operands.2 _))
  case doWhile body condition =>
    exact of_sound (soundBy_doWhile effort (sound.soundAll operands.2 _) (sound.soundAt operands.1 _))
  case forLoop init condition update body =>
    exact of_sound (soundBy_forLoop effort (sound.soundMaybe parts.1.1.1 _) fun _ first _ =>
      ⟨sound.soundMaybe operands.1 first, sound.soundMaybe operands.2 first, sound.soundAll parts.2 _⟩)
  case forEach item iterable body =>
    exact of_sound (soundBy_forEach effort (sound.soundAt operands scope) fun _ _ => sound.soundAll parts.2 _)
  case tryCatch tryBlock catchVar catchBlock =>
    exact of_sound (soundBy_tryCatch (sound.soundAll parts.1 _) (sound.soundAll parts.2 _))
  case declare => cases noDeclaration
  all_goals cases core.here .ofFunction

/-- One level of execution is sound if the levels below it are. -/
theorem leading_execNode (effort : Nat) (core : node.IsCore mayDeclare)
    (inferred : node.infer scope = (.ok type, after)) (fits : store.Fits scope (frame :: around)) :
    (ev.execNode effort node frame host store).Meets
      (store.leading scope after (frame :: around) fun value later => later.HasType type value) := by
  by_cases declares : node.isDeclaration = true
  · cases node with
    | declare => exact sound.leading_declare core inferred fits
    | _ => cases declares
  · have plain : node.IsCore false := ⟨by simpa using declares, core.text⟩
    obtain rfl := Node.infer_scope_eq plain inferred
    exact sound.staying_execNode effort plain inferred fits

theorem soundBy_execNode (effort : Nat) (core : node.IsCore mayDeclare) (scope : TypeScope) :
    node.SoundBy Stop.Expected mayDeclare scope (ev.execNode effort node) where
  leads inferred := ⟨Node.infer_tail_eq core inferred,
    fun _ _ fits => sound.leading_execNode effort core inferred fits⟩

end Evaluator.Sound

theorem evaluator_sound (effort : Nat) : (evaluator effort).Sound := by
  induction effort with
  | zero => exact fun _ store _ _ _ => .refl store
  | succ effort ih => exact fun _ _ core inferred fits => ih.leading_execNode effort core inferred fits

/-! ## Programs -/

/-- A check only ever adds diagnostics. -/
theorem diagnostics_of_checkFrom {index : Nat} {scope : TypeScope} {collector : Collector}
    {nodes : List Node} (clean : (checkFrom index scope collector nodes).diagnostics = []) :
    collector.diagnostics = [] := by
  induction nodes generalizing index scope collector with
  | nil => exact clean
  | cons node rest ih =>
    unfold checkFrom at clean
    split at clean
    · exact ih clean
    · dsimp only at clean
      split at clean
      · simp [Collector.add] at clean
      · have added := ih clean
        simp [Collector.add] at added

theorem of_checkFrom_cons {index : Nat} {scope : TypeScope} {collector : Collector} {rest : List Node}
    (clean : (checkFrom index scope collector (node :: rest)).diagnostics = []) :
    ∃ type after, node.infer scope = (.ok type, after) ∧
      (checkFrom (index + 1) after collector rest).diagnostics = [] := by
  unfold checkFrom at clean
  split at clean
  · next type after inferred => exact ⟨type, after, inferred, clean⟩
  · dsimp only at clean
    split at clean
    · simp [Collector.add] at clean
    · have added := diagnostics_of_checkFrom clean
      simp [Collector.add] at added

/-- The end of top-level nodes: they stop, if at all, for a reason that the check does not exclude, and
not by a signal. Handlers receive no other failures either. -/
private def checkedEnding (store : Store) : Ending Unit where
  done _ later := store.Continues Stop.Expected later
  stopped reason later := (reason.isExpected = true ∧ ∀ signal, reason ≠ .signal signal) ∧
    store.Continues Stop.Expected later
  unfinished := store.Continues Stop.Expected

private theorem Outcome.Meets.checked_from_earlier {outcome : Outcome Unit} {later : Store}
    (meets : outcome.Meets (checkedEnding later)) (grown : store.Continues Stop.Expected later) :
    outcome.Meets (checkedEnding store) :=
  meets.mono (fun _ _ => grown.trans) (fun _ _ ends => ⟨ends.1, grown.trans ends.2⟩) fun _ => grown.trans

theorem Node.execTopLevel_checked (core : node.IsCore true)
    (inferred : node.infer scope = (.ok type, after)) (fits : store.Fits scope [Store.root])
    (effort index : Nat) :
    (node.execTopLevel effort index host store).Meets
      { checkedEnding store with
        done := fun _ later => store.Continues Stop.Expected later ∧ later.Fits after [Store.root] } := by
  have ends := evaluator_sound effort host store core inferred fits
  unfold execTopLevel
  change (node.exec effort Store.root host store).Meets _ at ends
  cases outcome : node.exec effort Store.root host store with
  | done value later =>
    rw [outcome] at ends
    exact ⟨ends.1, ends.2.1⟩
  | unfinished later =>
    rw [outcome] at ends
    exact ends
  | stopped reason later =>
    rw [outcome] at ends
    cases reason with
    | failure => exact ⟨⟨ends.1, by simp⟩, ends.2.1.trans (.record _ _ fun _ => nofun)⟩
    | fault => exact ⟨⟨ends.1, by simp⟩, ends.2.1⟩
    | signal signal => exact ⟨⟨rfl, by simp⟩, ends.2.1⟩

theorem execAll_checked {collector : Collector} {nodes : List Node} {index : Nat}
    (core : ∀ node ∈ nodes, node.IsCore true)
    (clean : (checkFrom index scope collector nodes).diagnostics = [])
    (fits : store.Fits scope [Store.root]) (effort : Nat) :
    (execAll effort index nodes host store).Meets (checkedEnding store) := by
  induction nodes generalizing index scope store with
  | nil => exact .refl store
  | cons node rest ih =>
    obtain ⟨first, others⟩ := List.forall_mem_cons.mp core
    obtain ⟨type, after, inferred, cleanRest⟩ := of_checkFrom_cons clean
    unfold execAll
    rw [Exec.record_bind]
    refine Outcome.Meets.checked_from_earlier ?_ (.record store (.nodeStarted index node.kindName) fun _ => nofun)
    rw [Exec.meets_bind]
    refine (Node.execTopLevel_checked first inferred (fits.record _) effort index).mono ?_
      (fun _ _ ends => ends) fun _ ends => ends
    exact fun _ later ⟨grown, fits⟩ => (ih others cleanRest fits).checked_from_earlier grown

theorem runProgram_checked {nodes : List Node} {limit : Option Int}
    (core : allEverywhere Node.isCore .ofFunction nodes = true)
    (checked : (check nodes limit).diagnostics = []) (host : Host) (effort : Nat) :
    (runProgram host effort nodes).Meets (checkedEnding .initial) := by
  unfold runProgram execProgram
  rw [Exec.record_bind]
  have core node member : Node.IsCore true node := ⟨rfl, _, allEverywhere_iff.mp core node member⟩
  exact (execAll_checked core checked (Store.initial_fits.record _) effort).checked_from_earlier
    (.record .initial (.started nodes.length) fun _ => nofun)

/-- A core program that the check accepts stops only for a property of null or undefined, for an
error that it raises itself, for a jump that no construct takes, for values that cannot be ordered or
joined, or for a number that is too large or no number. In particular no failure is one that the check
looks for, and none is about the operands of arithmetic. -/
theorem runProgram_checked_stops_only {nodes : List Node} {limit : Option Int}
    (core : allEverywhere Node.isCore .ofFunction nodes = true) (checked : (check nodes limit).diagnostics = [])
    (host : Host) (effort : Nat) {reason : Stop} {store : Store}
    (stopped : runProgram host effort nodes = .stopped reason store) :
    ((∃ cause, reason = .failure cause ∧ cause.code ∈ ["E305", "E401", "E310"]) ∨
      (∃ operator left right, reason = .failure (.badOperands (.notComparable operator left right)) ∧
        operator ∈ [.less, .lessEqual, .greater, .greaterEqual]) ∨
      (∃ left right, reason = .failure (.badOperands (.notJoinable left right))) ∨
      (∃ fault, reason = .fault (.arithmetic fault)) ∨
      ∃ text, reason = .fault (.invalidInteger text)) ∧
    ∀ cause, reason = .failure cause →
      cause.code ∉ ["E201", "E202", "E203", "E301", "E302", "E307"] ∧
      ∀ operator left right, cause ≠ .badOperands (.notNumeric operator left right) := by
  have ends := runProgram_checked core checked host effort
  rw [stopped] at ends
  obtain ⟨⟨expected, noSignal⟩, _⟩ := ends
  cases reason with
  | signal signal => exact absurd rfl (noSignal signal)
  | fault cause =>
    refine ⟨?_, by simp⟩
    cases cause with
    | arithmetic fault => exact .inr (.inr (.inr (.inl ⟨fault, rfl⟩)))
    | invalidInteger text => exact .inr (.inr (.inr (.inr ⟨text, rfl⟩)))
    | _ => cases expected
  | failure cause =>
    simp only [Stop.failure.injEq, forall_eq']
    cases cause with
    | nullAccess member =>
      exact ⟨.inl ⟨_, rfl, by simp [Failure.code]⟩, by simp [Failure.code], by simp⟩
    | script message =>
      exact ⟨.inl ⟨_, rfl, by simp [Failure.code]⟩, by simp [Failure.code], by simp⟩
    | straySignal keyword place =>
      exact ⟨.inl ⟨_, rfl, by simp [Failure.code]⟩, by simp [Failure.code], by simp⟩
    | badOperands cause =>
      cases cause with
      | notComparable operator left right =>
        have ordered : operator ∈ [Operator.less, .lessEqual, .greater, .greaterEqual] :=
          List.contains_iff_mem.mp expected
        exact ⟨.inr (.inl ⟨operator, left, right, rfl, ordered⟩), by simp [Failure.code], by simp⟩
      | notJoinable left right =>
        exact ⟨.inr (.inr (.inl ⟨left, right, rfl⟩)), by simp [Failure.code], by simp⟩
      | notNumeric operator left right => cases expected
    | _ => cases expected

/-- Of an array that mixes null with a number only so much is known that its elements may be
compared with each other. The failure of that is caught, and its description is raised again. -/
theorem runProgram_stops_in_handler :
    let program : List Node := [
      .declare "number" "count" (.literal (.number (.int 0))),
      .whileLoop (.binary "<" (.reference "count") (.literal (.number (.int 2))))
        [.assign "count" (.binary "+" (.reference "count") (.literal (.number (.int 1))))],
      .forEach "item" (.array [.literal (.number (.int 1)), .literal .null])
        [.tryCatch [.declare "boolean" "less" (.binary "<" (.reference "item") (.reference "item"))]
          "error" [.raise (.property (.reference "error") "message")]]]
    allEverywhere Node.isCore .ofFunction program = true ∧ (check program none).diagnostics = [] ∧
      ∃ reason store, runProgram default 9 program = .stopped reason store ∧
        ∃ cause, reason = .failure cause ∧ cause.code = "E401" ∧
          cause.code ∉ ["E201", "E202", "E203", "E301", "E302", "E307"] := by
  intro program
  have core : allEverywhere Node.isCore .ofFunction program = true := by decide +kernel
  have checked : (check program none).diagnostics = [] := by
    rw [← List.isEmpty_iff]
    decide +kernel
  obtain ⟨reason, store, stopped, raised⟩ := Outcome.exists_of_isStopped (runProgram default 9 program)
    (·.isFailure (·.code == "E401")) (by decide +kernel)
  have only := runProgram_checked_stops_only core checked default 9 stopped
  refine ⟨core, checked, reason, store, stopped, ?_⟩
  cases reason with
  | failure cause => exact ⟨cause, rfl, eq_of_beq raised, (only.2 cause rfl).1⟩
  | _ => cases raised

/-! ## Names -/

theorem Failure.code_ne_of_isExpected {cause : Failure} (expected : cause.isExpected = true) :
    cause.code ≠ "E202" := by
  cases cause <;> first | (simp [code]; done) | cases expected

end TreeScript
