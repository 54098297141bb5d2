import TreeScript.Eval
import TreeScript.Proofs.Typing.Steps

/-! # Statements over sound parts

A node is executed *soundly* in a scope of types if its execution leads to the scope that inference
leaves, with a value of the type that is inferred. Statements are sound if their parts are, whatever
is known of the reasons for which these stop. The frames stay in step with the scopes of types through
the scopes that are entered and left, and through jumps and failures, which leave a list of statements
in the middle, with some of its declarations made and others not. Such a list stands in a frame of its
own, which is left as well.
-/

namespace TreeScript

open Inference

variable {host : Host} {store : Store} {scope after : TypeScope} {frame : FrameRef}
  {around chain : List FrameRef} {type : Ty} {stops : Stop → Store → Prop}

namespace Outcome.Meets

variable {α : Type} {outcome : Outcome α} {holds : α → Store → Prop}

/-- What stays in the innermost scope stays in the scope around it. -/
theorem outside (meets : outcome.Meets (store.staying scope (frame :: around) holds stops)) :
    outcome.Meets (store.staying scope.tail around holds stops) :=
  meets.mono (fun _ _ ends => ⟨ends.1, ends.2.1.tail, ends.2.2⟩)
    (fun _ _ ends => ⟨ends.1, ends.2.1, ends.2.2.tail⟩) fun _ ends => ends

/-- A step that stops for expected reasons only stops for any reasons that include them. -/
theorem allow (meets : outcome.Meets (store.leading scope after chain holds))
    (expected : ∀ reason later, reason.isExpected = true → stops reason later) :
    outcome.Meets (store.leading scope after chain holds stops) :=
  meets.mono (fun _ _ ends => ⟨ends.1.allow expected, ends.2⟩)
    (fun _ _ ends => ⟨expected _ _ ends.1, ends.2.1.allow expected, ends.2.2⟩) fun _ ends => ends.allow expected

end Outcome.Meets

theorem Exec.staying_child {α : Type} {holds : α → Store → Prop} {next : FrameRef → Exec α}
    {label : String} (typesLabel : String) (fits : store.Fits scope (frame :: around))
    (rest : ∀ inner start, store.Extends start →
      start.Fits (⟨typesLabel, []⟩ :: scope) (inner :: frame :: around) →
      (next inner host start).Meets (start.staying scope (frame :: around) holds stops)) :
    ((child frame label >>= next) host store).Meets
      (store.staying scope (frame :: around) holds stops) := by
  have grown : store.Extends (store.addFrame frame label).2 :=
    ⟨fun _ _ found => found, fun _ _ found => found⟩
  exact (rest _ _ grown (fits.addFrame label typesLabel)).from_earlier ⟨grown, fun _ => .inl⟩

/-! ## Sound nodes -/

/-- The node is executed soundly by a step. Only the innermost scope may change, and that only where
the node may declare. -/
structure Node.SoundBy (node : Node) (stops : Stop → Store → Prop) (mayDeclare : Bool)
    (scope : TypeScope) (step : FrameRef → Exec Value) : Prop where
  leads : ∀ {type : Ty} {after : TypeScope}, node.infer scope = (.ok type, after) →
    (scope.tail = after.tail ∧ (mayDeclare = false → scope = after)) ∧
    ∀ {frame : FrameRef} {around : List FrameRef} (host : Host) (store : Store),
      store.Fits scope (frame :: around) →
      (step frame host store).Meets (store.leading scope after (frame :: around)
        (fun value later => later.HasType type value) stops)

namespace Node.SoundBy

variable {node : Node} {step : FrameRef → Exec Value}

/-- A node that may not declare stays in its scope. -/
theorem staying (sound : node.SoundBy stops false scope step)
    (inferred : node.infer scope = (.ok type, after)) : scope = after ∧
    ∀ {frame : FrameRef} {around : List FrameRef} (host : Host) (store : Store),
      store.Fits scope (frame :: around) →
      (step frame host store).Meets (store.staying scope (frame :: around)
        (fun value later => later.HasType type value) stops) := by
  obtain ⟨⟨_, same⟩, runs⟩ := sound.leads inferred
  obtain rfl := same rfl
  exact ⟨rfl, runs⟩

theorem of_staying (stays : ∀ {type : Ty} {after : TypeScope}, node.infer scope = (.ok type, after) →
      scope = after ∧ ∀ {frame : FrameRef} {around : List FrameRef} (host : Host) (store : Store),
        store.Fits scope (frame :: around) →
        (step frame host store).Meets (store.staying scope (frame :: around)
          (fun value later => later.HasType type value) stops)) :
    node.SoundBy stops false scope step := by
  refine ⟨fun inferred => ?_⟩
  obtain ⟨rfl, runs⟩ := stays inferred
  exact ⟨⟨rfl, fun _ => rfl⟩, runs⟩

theorem anywhere (sound : node.SoundBy stops false scope step) (mayDeclare : Bool) :
    node.SoundBy stops mayDeclare scope step where
  leads inferred :=
    have ⟨⟨tail, same⟩, runs⟩ := sound.leads inferred
    ⟨⟨tail, fun _ => same rfl⟩, runs⟩

/-- A node that stops for expected reasons only stops for any reasons that include them. -/
theorem allow {mayDeclare : Bool} (sound : node.SoundBy Stop.Expected mayDeclare scope step)
    (expected : ∀ reason later, reason.isExpected = true → stops reason later) :
    node.SoundBy stops mayDeclare scope step where
  leads inferred :=
    have ⟨scopes, runs⟩ := sound.leads inferred
    ⟨scopes, fun host store fits => (runs host store fits).allow expected⟩

end Node.SoundBy

namespace Evaluator

/-- The evaluator executes a node soundly. -/
abbrev SoundAt (ev : Evaluator) (stops : Stop → Store → Prop) (mayDeclare : Bool) (scope : TypeScope)
    (node : Node) : Prop := node.SoundBy stops mayDeclare scope (ev.exec node)

/-- The evaluator executes statements soundly one after another, each in the scope that those before
it leave. -/
def SoundAll (ev : Evaluator) (stops : Stop → Store → Prop) (mayDeclare : Bool) :
    TypeScope → List Node → Prop
  | _, [] => True
  | scope, node :: rest => ev.SoundAt stops mayDeclare scope node ∧
    ∀ type after, node.infer scope = (.ok type, after) → ev.SoundAll stops mayDeclare after rest

end Evaluator

/-- The end of statements that stand in one scope. Those that stopped may have declared some names
already, if they may declare any. -/
def Store.running (store : Store) (mayDeclare : Bool) (scope after : TypeScope)
    (chain : List FrameRef) (type : Ty) (stops : Stop → Store → Prop) : Ending Value where
  done value later := store.Continues stops later ∧ later.Fits after chain ∧ later.HasType type value
  stopped reason later := stops reason later ∧ store.Continues stops later ∧
    ∃ reached, later.Fits reached chain ∧ reached.tail = scope.tail ∧
      (mayDeclare = false → reached = scope)
  unfinished := store.Continues stops

namespace Evaluator.SoundAll

variable {ev : Evaluator} {mayDeclare : Bool} {statements : List Node}

/-- Statements change nothing but the innermost scope, and that only where they may declare. -/
theorem tail_eq (sound : ev.SoundAll stops mayDeclare scope statements) {last : Ty}
    (inferred : inferLast last statements scope = (.ok type, after)) :
    scope.tail = after.tail ∧ (mayDeclare = false → scope = after) := by
  induction statements generalizing scope last with
  | nil =>
    obtain ⟨_, rfl⟩ := pure_eq_ok.mp inferred
    exact ⟨rfl, fun _ => rfl⟩
  | cons node rest ih =>
    rw [inferLast, bind_eq_ok] at inferred
    obtain ⟨nodeType, middle, ofNode, ofRest⟩ := inferred
    obtain ⟨nodeTail, nodeScope⟩ := (sound.1.leads ofNode).1
    obtain ⟨restTail, restScope⟩ := ih (sound.2 nodeType middle ofNode) ofRest
    exact ⟨nodeTail.trans restTail, fun plain => (nodeScope plain).trans (restScope plain)⟩

theorem running_runFrom (sound : ev.SoundAll stops mayDeclare scope statements) {last : Ty}
    {value : Value} (inferred : inferLast last statements scope = (.ok type, after))
    (fits : store.Fits scope (frame :: around)) (typed : store.HasType last value) :
    (ev.runFrom frame value statements host store).Meets
      (store.running mayDeclare scope after (frame :: around) type stops) := by
  induction statements generalizing scope last value store with
  | nil =>
    obtain ⟨rfl, rfl⟩ := pure_eq_ok.mp inferred
    exact ⟨.refl store, fits, typed⟩
  | cons node rest ih =>
    rw [inferLast, bind_eq_ok] at inferred
    obtain ⟨nodeType, middle, ofNode, ofRest⟩ := inferred
    obtain ⟨⟨sameTail, sameScope⟩, runs⟩ := sound.1.leads ofNode
    unfold runFrom
    rw [Exec.meets_bind]
    refine (runs host store fits).mono ?_ ?_ fun _ ends => ends
    · rintro result later ⟨grown, fitsLater, typedLater⟩
      refine (ih (sound.2 nodeType middle ofNode) ofRest fitsLater typedLater).mono ?_ ?_
        fun _ => grown.trans
      · exact fun _ _ ends => ⟨grown.trans ends.1, ends.2⟩
      · rintro reason last ⟨may, more, reached, fitsReached, tail, same⟩
        refine ⟨may, grown.trans more, reached, fitsReached, tail.trans sameTail.symm, ?_⟩
        exact fun plain => (same plain).trans (sameScope plain).symm
    · rintro reason later ⟨may, grown, fitsLater⟩
      exact ⟨may, grown, scope, fitsLater, rfl, fun _ => rfl⟩

/-- Statements without declarations of their own stay in the scope that they stand in. -/
theorem staying_run (sound : ev.SoundAll stops false scope statements)
    (inferred : inferLast .void statements scope = (.ok type, after))
    (fits : store.Fits scope (frame :: around)) :
    (ev.run frame statements host store).Meets (store.staying scope (frame :: around)
      (fun value later => later.HasType type value) stops) := by
  obtain rfl := (sound.tail_eq inferred).2 rfl
  refine (sound.running_runFrom inferred fits (.void _)).mono (fun _ _ ends => ends) ?_
    fun _ ends => ends
  rintro reason later ⟨may, grown, reached, fitsReached, _, same⟩
  exact ⟨may, grown, same rfl ▸ fitsReached⟩

/-- Statements with declarations stay in the scope around the one that they stand in. -/
theorem staying_run_outside {types : TypeFrame} (sound : ev.SoundAll stops true (types :: scope) statements)
    (inferred : inferLast .void statements (types :: scope) = (.ok type, after))
    (fits : store.Fits (types :: scope) (frame :: around)) :
    (ev.run frame statements host store).Meets
      (store.staying scope around (fun value later => later.HasType type value) stops) := by
  refine (sound.running_runFrom inferred fits (.void _)).mono ?_ ?_ fun _ ends => ends
  · rintro value later ⟨grown, fitsLater, typed⟩
    have sameTail : scope = after.tail := (sound.tail_eq inferred).1
    exact ⟨grown, sameTail ▸ fitsLater.tail, typed⟩
  · rintro reason later ⟨may, grown, reached, fitsReached, tail, _⟩
    have sameTail : reached.tail = scope := tail
    exact ⟨may, grown, sameTail ▸ fitsReached.tail⟩

/-- Statements in a scope of their own. -/
theorem staying_runInside {label typesLabel : String}
    (sound : ev.SoundAll stops true (⟨typesLabel, []⟩ :: scope) statements)
    (inferred : inferLast .void statements (⟨typesLabel, []⟩ :: scope) = (.ok type, after))
    (fits : store.Fits scope (frame :: around)) :
    (ev.runInside frame label statements host store).Meets (store.staying scope (frame :: around)
      (fun value later => later.HasType type value) stops) :=
  Exec.staying_child typesLabel fits fun _ _ _ inside => sound.staying_run_outside inferred inside

theorem staying_accepted {label typesLabel : String}
    (sound : ev.SoundAll stops true (⟨typesLabel, []⟩ :: scope) statements)
    (accepted : Accepts (⟨typesLabel, []⟩ :: scope) statements)
    (fits : store.Fits scope (frame :: around)) :
    (ev.runInside frame label statements host store).Meets (store.staying scope (frame :: around)
      (fun value later => later.HasType .void value) stops) := by
  obtain ⟨type, after, inferred⟩ := accepted
  exact (sound.staying_runInside inferred fits).weaken fun value _ _ _ => .void value

/-- Statements in a scope that starts with one name. -/
theorem staying_run_bound {inner : FrameRef} {typesLabel name : String} {value : Value}
    (sound : ev.SoundAll stops true (⟨typesLabel, [(name, type)]⟩ :: scope) statements)
    (accepted : Accepts (⟨typesLabel, [(name, type)]⟩ :: scope) statements)
    (fits : store.Fits (⟨typesLabel, []⟩ :: scope) (inner :: frame :: around))
    (typed : store.HasType type value) :
    ((do
      Exec.define inner name value
      ev.run inner statements : Exec Value) host store).Meets (store.staying scope (frame :: around)
      (fun value later => later.HasType .void value) stops) := by
  obtain ⟨lastType, last, inferred⟩ := accepted
  have grown : store.Extends (store.define inner name value) :=
    ⟨fun _ _ found => found, fun _ _ found => found⟩
  rw [Exec.meets_bind]
  have ends : (ev.run inner statements host (store.define inner name value)).Meets _ :=
    sound.staying_run_outside inferred (fits.declare typed)
  exact (ends.from_earlier ⟨grown, fun _ => .inl⟩).weaken fun value _ _ _ => .void value

end Evaluator.SoundAll

namespace Evaluator

variable {ev : Evaluator} {mayDeclare : Bool} {condition : Node}

theorem staying_condition (sound : ev.SoundAt stops false scope condition)
    (inferred : condition.infer scope = (.ok type, after)) (isBoolean : type.same .boolean = true)
    (fits : store.Fits scope (frame :: around)) :
    (ev.condition condition frame host store).Meets
      (store.staying scope (frame :: around) (fun _ _ => True) stops) := by
  obtain rfl := Ty.eq_prim_of_same isBoolean
  refine Exec.leading_bind ((sound.staying inferred).2 host store fits) fun value later _ fits ofValue => ?_
  cases ofValue
  exact Exec.staying_pure fits trivial

/-! ## Choices -/

theorem soundBy_block {statements : List Node}
    (sound : ev.SoundAll stops true (⟨"block", []⟩ :: scope) statements) :
    (Node.block statements).SoundBy stops false scope fun frame =>
      ev.runInside frame "block" statements := by
  refine .of_staying fun inferred => ?_
  obtain ⟨same, _, ofStatements⟩ := inside_eq_ok.mp inferred
  exact ⟨same, fun _ _ fits => sound.staying_runInside ofStatements fits⟩

theorem soundBy_branch {thenBranch : List Node} {elseBranch : Option (List Node)}
    (ofCondition : ev.SoundAt stops false scope condition)
    (ofThen : ev.SoundAll stops true (⟨"then", []⟩ :: scope) thenBranch)
    (ofElse : ∀ body ∈ elseBranch, ev.SoundAll stops true (⟨"else", []⟩ :: scope) body) :
    (Node.branch condition thenBranch elseBranch).SoundBy stops false scope fun frame =>
      ev.branch frame condition thenBranch elseBranch := by
  refine .of_staying fun inferred => ?_
  obtain ⟨conditionType, middle, inferredCondition, isBoolean, thenAccepted, elseInferred, rfl⟩ :=
    Node.of_infer_branch inferred
  obtain rfl := (ofCondition.staying inferredCondition).1
  obtain ⟨rfl, elseAccepted⟩ := of_inferOptional elseInferred
  refine ⟨rfl, fun host store fits => ?_⟩
  refine Exec.leading_bind (staying_condition ofCondition inferredCondition isBoolean fits)
    fun holds later _ fits _ => ?_
  cases holds with
  | true => exact ofThen.staying_accepted thenAccepted fits
  | false =>
    cases elseBranch with
    | none => exact Exec.staying_pure fits (.void _)
    | some body => exact (ofElse body rfl).staying_accepted (elseAccepted body rfl) fits

/-- The case that is chosen has a body that inference accepts. -/
theorem staying_matchingCase {cases : List (Node × List Node)} {value : Value}
    (typed : ∀ entry ∈ cases, ev.SoundAt stops false scope entry.1 ∧
      (∃ type, entry.1.infer scope = (.ok type, scope)) ∧ Accepts (⟨"case", []⟩ :: scope) entry.2)
    (fits : store.Fits scope (frame :: around)) :
    (ev.matchingCase frame value cases host store).Meets (store.staying scope (frame :: around)
      (fun chosen _ => ∀ body, chosen = some body →
        (∃ entry ∈ cases, entry.2 = body) ∧ Accepts (⟨"case", []⟩ :: scope) body) stops) := by
  induction cases generalizing store with
  | nil => exact Exec.staying_pure fits fun _ none => by cases none
  | cons entry rest ih =>
    obtain ⟨⟨sound, ⟨candidateType, inferred⟩, accepted⟩, ofRest⟩ := List.forall_mem_cons.mp typed
    obtain ⟨candidate, body⟩ := entry
    refine Exec.leading_bind ((sound.staying inferred).2 host store fits)
      fun candidateValue later _ fits _ => ?_
    split
    · refine Exec.staying_pure fits fun _ chosen => ?_
      cases chosen
      exact ⟨⟨_, List.mem_cons_self .., rfl⟩, accepted⟩
    · refine (ih ofRest fits).weaken fun chosen later _ known body isBody => ?_
      obtain ⟨⟨entry, member, ofEntry⟩, accepted⟩ := known body isBody
      exact ⟨⟨entry, List.mem_cons_of_mem _ member, ofEntry⟩, accepted⟩

theorem soundBy_select {expression : Node} {cases : List (Node × List Node)}
    {otherwise : Option (List Node)} (ofExpression : ev.SoundAt stops false scope expression)
    (ofCases : ∀ entry ∈ cases, ev.SoundAt stops false scope entry.1 ∧
      ev.SoundAll stops true (⟨"case", []⟩ :: scope) entry.2)
    (ofOtherwise : ∀ body ∈ otherwise, ev.SoundAll stops true (⟨"default", []⟩ :: scope) body) :
    (Node.select expression cases otherwise).SoundBy stops false scope fun frame =>
      ev.select frame expression cases otherwise := by
  refine .of_staying fun inferred => ?_
  obtain ⟨control, first, last, inferredExpression, inferredCases, inferredOtherwise, rfl⟩ :=
    Node.of_infer_select inferred
  obtain ⟨rfl, runs⟩ := ofExpression.staying inferredExpression
  obtain ⟨rfl, accepted⟩ := of_inferCases
    (fun entry member type after inferred => ((ofCases entry member).1.staying inferred).1) inferredCases
  obtain ⟨rfl, otherwiseAccepted⟩ := of_inferOptional inferredOtherwise
  refine ⟨rfl, fun host store fits => ?_⟩
  refine Exec.leading_bind (runs host store fits) fun value later _ fits _ => ?_
  refine Exec.leading_bind (staying_matchingCase
    (fun entry member => ⟨(ofCases entry member).1, accepted entry member⟩) fits)
    fun chosen later _ fits known => ?_
  cases chosen with
  | some body =>
    obtain ⟨⟨entry, member, rfl⟩, bodyAccepted⟩ := known body rfl
    exact (ofCases entry member).2.staying_accepted bodyAccepted fits
  | none =>
    cases otherwise with
    | none => exact Exec.staying_pure fits (.void _)
    | some body => exact (ofOtherwise body rfl).staying_accepted (otherwiseAccepted body rfl) fits

/-! ## Loops -/

/-- A loop whose rounds stay in a scope of its own stays in the scope around it. -/
private theorem staying_rounds {round : Value → Exec (Exec.Round Value)}
    (rounds : ∀ state later, later.Fits scope (frame :: around) →
      (round state host later).Meets (later.staying scope (frame :: around) (fun _ _ => True) stops))
    (fits : store.Fits scope (frame :: around)) (effort : Nat) (state : Value) :
    (Exec.repeatRounds round effort state host store).Meets
      (store.staying scope.tail around (fun value later => later.HasType .void value) stops) := by
  have kept := Exec.staying_repeatRounds (fun state later _ => rounds state later) effort state fits
  exact kept.outside.weaken fun value _ _ _ => .void value

variable {body : List Node}

theorem soundBy_whileLoop (effort : Nat)
    (ofCondition : ev.SoundAt stops false (⟨"while", []⟩ :: scope) condition)
    (ofBody : ev.SoundAll stops false (⟨"while", []⟩ :: scope) body) :
    (Node.whileLoop condition body).SoundBy stops false scope fun frame =>
      ev.whileLoop effort frame condition body := by
  refine .of_staying fun inferred => ?_
  obtain ⟨rfl, rfl, conditionType, middle, inferredCondition, isBoolean, bodyType, last, inferredBody⟩ :=
    Node.of_infer_while inferred
  obtain rfl := (ofCondition.staying inferredCondition).1
  refine ⟨rfl, fun host store fits => ?_⟩
  refine Exec.staying_child "while" fits fun inner start _ inside => ?_
  refine staying_rounds (fun state later fits => ?_) inside effort _
  refine Exec.leading_bind (staying_condition ofCondition inferredCondition isBoolean fits)
    fun holds later _ fits _ => ?_
  cases holds with
  | true => exact staying_absorbJumps (ofBody.staying_run inferredBody fits) state
  | false => exact Exec.staying_pure fits trivial

theorem soundBy_doWhile (effort : Nat) (ofBody : ev.SoundAll stops false (⟨"do-while", []⟩ :: scope) body)
    (ofCondition : ev.SoundAt stops false (⟨"do-while", []⟩ :: scope) condition) :
    (Node.doWhile body condition).SoundBy stops false scope fun frame =>
      ev.doWhile effort frame body condition := by
  refine .of_staying fun inferred => ?_
  obtain ⟨rfl, rfl, bodyType, middle, conditionType, last, inferredBody, inferredCondition, isBoolean⟩ :=
    Node.of_infer_doWhile inferred
  obtain rfl := (ofBody.tail_eq inferredBody).2 rfl
  refine ⟨rfl, fun host store fits => ?_⟩
  refine Exec.staying_child "do-while" fits fun inner start _ inside => ?_
  refine staying_rounds (fun state later fits => ?_) inside effort _
  refine Exec.leading_bind (staying_absorbJumps (ofBody.staying_run inferredBody fits) state)
    fun round later _ fits _ => ?_
  cases round with
  | finished value => exact Exec.staying_pure fits trivial
  | again value =>
    refine Exec.leading_bind (staying_condition ofCondition inferredCondition isBoolean fits)
      fun holds later _ fits _ => ?_
    cases holds <;> exact Exec.staying_pure fits trivial

theorem staying_proceeds {condition : Option Node} {given : Option Ty}
    (sound : ∀ node ∈ condition, ev.SoundAt stops false scope node)
    (inferred : inferMaybe condition scope = (.ok given, after))
    (isBoolean : ∀ type, given = some type → type.same .boolean = true)
    (fits : store.Fits scope (frame :: around)) :
    (ev.proceeds frame condition host store).Meets
      (store.staying scope (frame :: around) (fun _ _ => True) stops) := by
  cases condition with
  | none => exact Exec.staying_pure fits trivial
  | some node =>
    simp only [inferMaybe, bind_eq_ok, pure_eq_ok] at inferred
    obtain ⟨type, _, ofNode, same, _⟩ := inferred
    exact staying_condition (sound node rfl) ofNode (isBoolean type same.symm) fits

/-- A part of a loop; the first one may declare names for all the others. -/
theorem leading_perform {part : Option Node} {given : Option Ty}
    (sound : ∀ node ∈ part, ev.SoundAt stops mayDeclare scope node)
    (inferred : inferMaybe part scope = (.ok given, after)) :
    (scope.tail = after.tail ∧ (mayDeclare = false → scope = after)) ∧
    ∀ {frame : FrameRef} {around : List FrameRef} (host : Host) (store : Store),
      store.Fits scope (frame :: around) → (ev.perform frame part host store).Meets
        (store.leading scope after (frame :: around) (fun _ _ => True) stops) := by
  cases part with
  | none =>
    obtain ⟨_, rfl⟩ := pure_eq_ok.mp inferred
    exact ⟨⟨rfl, fun _ => rfl⟩, fun _ _ fits => Exec.staying_pure fits trivial⟩
  | some node =>
    simp only [inferMaybe, bind_eq_ok, pure_eq_ok] at inferred
    obtain ⟨_, _, ofNode, _, rfl⟩ := inferred
    obtain ⟨tails, runs⟩ := (sound node rfl).leads ofNode
    refine ⟨tails, fun host store fits => ?_⟩
    unfold perform
    rw [Exec.meets_bind]
    exact (runs host store fits).mono
      (fun _ _ ends => ⟨ends.1, ends.2.1, trivial⟩) (fun _ _ ends => ends) fun _ ends => ends

theorem soundBy_forLoop {init condition update : Option Node} (effort : Nat)
    (ofInit : ∀ node ∈ init, ev.SoundAt stops true (⟨"for", []⟩ :: scope) node)
    (ofRounds : ∀ given first, inferMaybe init (⟨"for", []⟩ :: scope) = (.ok given, first) →
      (∀ node ∈ condition, ev.SoundAt stops false first node) ∧
      (∀ node ∈ update, ev.SoundAt stops false first node) ∧
      ev.SoundAll stops true (⟨"for body", []⟩ :: first) body) :
    (Node.forLoop init condition update body).SoundBy stops false scope fun frame =>
      ev.forLoop effort frame init condition update body := by
  refine .of_staying fun inferred => ?_
  obtain ⟨rfl, rfl, initType, first, conditionType, second, updateType, third, inferredInit,
    inferredCondition, isBoolean, inferredUpdate, accepted⟩ := Node.of_infer_for inferred
  obtain ⟨ofCondition, ofUpdate, ofBody⟩ := ofRounds initType first inferredInit
  obtain ⟨⟨sameTail, _⟩, runsInit⟩ := leading_perform ofInit inferredInit
  obtain rfl := (leading_perform ofCondition inferredCondition).1.2 rfl
  obtain ⟨⟨_, sameScope⟩, runsUpdate⟩ := leading_perform ofUpdate inferredUpdate
  obtain rfl := sameScope rfl
  have outer : first.tail = scope := sameTail.symm
  refine ⟨rfl, fun host store fits => ?_⟩
  refine Exec.staying_child "for" fits fun inner start _ inside => ?_
  rw [Exec.meets_bind]
  refine (runsInit host start inside).mono ?_ ?_ fun _ ends => ends
  · rintro _ later ⟨grown, fits, _⟩
    rw [← outer]
    refine (staying_rounds (fun state later fits => ?_) fits effort _).from_earlier grown
    refine Exec.leading_bind (staying_proceeds ofCondition inferredCondition isBoolean fits)
      fun goesOn later _ fits _ => ?_
    cases goesOn with
    | false => exact Exec.staying_pure fits trivial
    | true =>
      refine Exec.leading_bind (staying_absorbJumps (ofBody.staying_accepted accepted fits) state)
        fun round later _ fits _ => ?_
      cases round with
      | finished value => exact Exec.staying_pure fits trivial
      | again value =>
        refine Exec.leading_bind (runsUpdate host later fits) fun _ later _ fits _ => ?_
        exact Exec.staying_pure fits trivial
  · rintro reason later ⟨may, grown, fits⟩
    exact ⟨may, grown, fits.tail⟩

theorem staying_forEachRound {item : String} {element : Ty} {ref : ArrayRef}
    (sound : ev.SoundAll stops true (⟨"for-each", [(item, element)]⟩ :: scope) body)
    (accepted : Accepts (⟨"for-each", [(item, element)]⟩ :: scope) body)
    (fits : store.Fits scope (frame :: around)) (typed : store.HasType (.array element) (.array ref))
    (state : Nat × Value) :
    (ev.forEachRound frame item ref body state host store).Meets
      (store.staying scope (frame :: around) (fun _ _ => True) stops) := by
  obtain ⟨index, last⟩ := state
  obtain ⟨_, same, ofElements⟩ := typed.of_array
  cases same
  unfold forEachRound
  dsimp only
  rw [Exec.read_bind]
  cases found : (store.elements ref)[index]? with
  | none => exact Exec.staying_pure fits trivial
  | some value =>
    have ofValue := ofElements value (Array.mem_of_getElem? found)
    refine Exec.leading_bind (staying_absorbJumps (Exec.staying_child "for-each" fits
      fun _ _ grown inside => sound.staying_run_bound accepted inside (ofValue.extend grown)) last)
      fun round later _ fits _ => ?_
    cases round <;> exact Exec.staying_pure fits trivial

theorem soundBy_forEach {item : String} {iterable : Node} (effort : Nat)
    (ofIterable : ev.SoundAt stops false scope iterable)
    (ofBody : ∀ element, iterable.infer scope = (.ok (.array element), scope) →
      ev.SoundAll stops true (⟨"for-each", [(item, element)]⟩ :: scope) body) :
    (Node.forEach item iterable body).SoundBy stops false scope fun frame =>
      ev.forEach effort frame item iterable body := by
  refine .of_staying fun inferred => ?_
  obtain ⟨rfl, element, inferredIterable, accepted⟩ := Node.of_infer_forEach inferred
  obtain ⟨rfl, runs⟩ := ofIterable.staying inferredIterable
  refine ⟨rfl, fun host store fits => ?_⟩
  refine Exec.leading_bind (runs host store fits) fun array start _ fits ofArray => ?_
  obtain ⟨ref, rfl, _⟩ := ofArray.of_array
  refine Exec.leading_bind (Exec.staying_repeatRounds (fun state later grown fits => ?_) effort _ fits)
    fun state later _ fits _ => Exec.staying_pure fits (.void _)
  exact staying_forEachRound (ofBody element inferredIterable) accepted fits (ofArray.extend grown) state

/-! ## Handlers -/

/-- A handler starts with the description of the failure, which has the type that is expected. -/
theorem staying_handle {catchVar : String} {catchBlock : List Node}
    (sound : ev.SoundAll stops true (⟨"catch", [(catchVar, Failure.entriesType)]⟩ :: scope) catchBlock)
    (accepted : Accepts (⟨"catch", [(catchVar, Failure.entriesType)]⟩ :: scope) catchBlock)
    (fits : store.Fits scope (frame :: around)) {cause : Failure} (may : stops (.failure cause) store) :
    (ev.handle frame catchVar catchBlock cause host store).Meets (store.staying scope (frame :: around)
      (fun value later => later.HasType .void value) stops) := by
  have described (store : Store) : List.Forall₂ store.EntryHasType
      [("name", .string), ("code", .string), ("message", .string)] cause.entries :=
    .cons ⟨rfl, .string _⟩ (.cons ⟨rfl, .string _⟩ (.cons ⟨rfl, .string _⟩ .nil))
  have listed : cause.entries = Table.ofList cause.entries := by
    simp [Failure.entries, Table.ofList, Table.put]
  unfold handle
  rw [Exec.record_bind]
  refine Outcome.Meets.from_earlier ?_ (.record store (.caught cause) (by simpa using may))
  refine Exec.staying_child "catch" (fits.record _) fun inner start _ inside => ?_
  have created : (Exec.newObject (Table.ofList cause.entries) host start).Meets
      (start.staying _ _ _ stops) := Exec.staying_newObject inside (described start)
  rw [listed, Exec.meets_bind]
  refine created.mono ?_ ?_ fun _ ends => ends
  · rintro description last ⟨grown, inside, typed⟩
    exact (sound.staying_run_bound accepted inside typed).from_earlier grown
  · rintro reason last ⟨may, grown, inside⟩
    exact ⟨may, grown, inside.tail⟩

theorem soundBy_tryCatch {tryBlock catchBlock : List Node} {catchVar : String}
    (ofTry : ev.SoundAll stops true (⟨"try", []⟩ :: scope) tryBlock)
    (ofCatch : ev.SoundAll stops true (⟨"catch", [(catchVar, Failure.entriesType)]⟩ :: scope) catchBlock) :
    (Node.tryCatch tryBlock catchVar catchBlock).SoundBy stops false scope fun frame =>
      Exec.catching (ev.runInside frame "try" tryBlock) (ev.handle frame catchVar catchBlock) := by
  refine .of_staying fun inferred => ?_
  obtain ⟨rfl, rfl, tryAccepted, catchAccepted⟩ := Node.of_infer_tryCatch inferred
  refine ⟨rfl, fun {frame around} host store fits => ?_⟩
  have ends : (ev.runInside frame "try" tryBlock host store).Meets _ :=
    ofTry.staying_accepted tryAccepted fits
  unfold Exec.catching
  split
  · next cause later stopped =>
    rw [stopped] at ends
    obtain ⟨may, grown, fits⟩ := ends
    exact (staying_handle ofCatch catchAccepted fits may).from_earlier grown
  · exact ends

end Evaluator

end TreeScript
