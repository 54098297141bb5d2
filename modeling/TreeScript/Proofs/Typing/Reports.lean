import TreeScript.Program.Check

/-! # What a check reports

Without a limit a check would find a type or a problem at every node of a program. These findings do not
depend on the limit: the scope goes from node to node whether or not inference succeeds. A limit only says
after which problem the check stops, so what is reported is an initial part of the findings. It ends with the
problem that reaches the limit, and where the limit is not reached it is all there is.
-/

namespace TreeScript

/-- The type of a node, or the diagnostic of its failure. -/
abbrev Finding := Except Diagnostic Ty

namespace Finding

/-- What there is to find from a node on, where `index` is the number of that node. -/
def ofNodes (index : Nat) (scope : TypeScope) : List Node → List Finding
  | [] => []
  | node :: rest =>
    match node.infer scope with
    | (.ok type, scope) => .ok type :: ofNodes (index + 1) scope rest
    | (.error cause, scope) =>
      .error (.ofFailure cause (Place.topLevel index node.kindName).text) :: ofNodes (index + 1) scope rest

/-- The findings up to a number of problems. The first problem is always among them. -/
def upTo (budget : Nat) : List Finding → List Finding
  | [] => []
  | .ok type :: rest => .ok type :: upTo budget rest
  | .error problem :: rest => .error problem :: if budget ≤ 1 then [] else upTo (budget - 1) rest

/-- The diagnostics among the findings. -/
def problems (findings : List Finding) : List Diagnostic :=
  findings.filterMap fun finding => match finding with
    | .ok _ => none
    | .error problem => some problem

/-- The types among the findings, with a gap for each problem. -/
def types (findings : List Finding) : List (Option Ty) := findings.map Except.toOption

variable {budget larger : Nat} {findings : List Finding}

@[simp] theorem problems_ok (type : Ty) (rest : List Finding) : problems (.ok type :: rest) = problems rest := rfl

@[simp] theorem problems_error (problem : Diagnostic) (rest : List Finding) :
    problems (.error problem :: rest) = problem :: problems rest := rfl

theorem length_ofNodes (index : Nat) (scope : TypeScope) (nodes : List Node) :
    (ofNodes index scope nodes).length = nodes.length := by
  induction nodes generalizing index scope with
  | nil => rfl
  | cons node rest ih =>
    unfold ofNodes
    split
    · rw [List.length_cons, List.length_cons, ih]
    · rw [List.length_cons, List.length_cons, ih]

/-- A finding is either a problem or a type. -/
theorem length_problems (findings : List Finding) :
    (problems findings).length = (types findings).countP Option.isNone := by
  induction findings with
  | nil => rfl
  | cons finding rest ih =>
    cases finding with
    | ok type =>
      rw [problems_ok, ih]
      exact (List.countP_cons_of_neg (by simp [Except.toOption])).symm
    | error problem =>
      rw [problems_error, List.length_cons, ih]
      exact (List.countP_cons_of_pos rfl).symm

/-! ## Limits -/

/-- More is found with a larger limit, and what was found before comes first. -/
theorem upTo_prefix (atMost : budget ≤ larger) (findings : List Finding) :
    upTo budget findings <+: upTo larger findings := by
  induction findings generalizing budget larger with
  | nil => exact List.prefix_rfl
  | cons finding rest ih =>
    cases finding with
    | ok type => exact List.cons_prefix_cons.mpr ⟨rfl, ih atMost⟩
    | error problem =>
      refine List.cons_prefix_cons.mpr ⟨rfl, ?_⟩
      by_cases last : budget ≤ 1
      · rw [if_pos last]
        exact List.nil_prefix
      · rw [if_neg last, if_neg (by omega)]
        exact ih (by omega)

theorem length_problems_upTo_le (budget : Nat) (findings : List Finding) :
    (problems (upTo budget findings)).length ≤ max 1 budget := by
  induction findings generalizing budget with
  | nil => exact Nat.zero_le _
  | cons finding rest ih =>
    cases finding with
    | ok type => exact ih budget
    | error problem =>
      rw [upTo, problems_error, List.length_cons]
      split
      · exact Nat.le_max_left 1 budget
      · have later := ih (budget - 1)
        omega

/-- With fewer problems than the limit allows, nothing is left out. -/
theorem upTo_eq_self (fewer : (problems (upTo budget findings)).length < max 1 budget) :
    upTo budget findings = findings := by
  induction findings generalizing budget with
  | nil => rfl
  | cons finding rest ih =>
    cases finding with
    | ok type => rw [upTo, ih fewer]
    | error problem =>
      rw [upTo, problems_error, List.length_cons] at fewer
      rw [upTo]
      split at fewer
      · omega
      · next more => rw [if_neg more, ih (by omega)]

end Finding

open Finding

/-! ## Checks -/

/-- All diagnostics are errors, as those of failures are. -/
def AreErrors (diagnostics : List Diagnostic) : Prop := ∀ diagnostic ∈ diagnostics, diagnostic.severity = .error

namespace Collector

variable {collector : Collector} {limit : Int}

theorem areErrors_add (errors : AreErrors collector.diagnostics) (cause : Failure) (place : String) :
    AreErrors (collector.add (.ofFailure cause place)).diagnostics :=
  List.forall_mem_append.mpr ⟨errors, List.forall_mem_singleton.mpr rfl⟩

theorem shouldStop_iff (errors : AreErrors collector.diagnostics) (limited : collector.limit = some limit) :
    collector.shouldStop = true ↔ limit ≤ collector.diagnostics.length := by
  have count : collector.errorCount = collector.diagnostics.length := by
    refine List.countP_eq_length.mpr fun diagnostic member => ?_
    rw [errors diagnostic member]
    rfl
  rw [shouldStop, limited, Option.any_some, decide_eq_true_iff, count]

end Collector

/-- A check adds findings to the diagnostics that are known. -/
structure CheckResult.Adds (result : CheckResult) (known : List Diagnostic) (findings : List Finding) : Prop where
  diagnostics : result.diagnostics = known ++ problems findings
  nodeTypes : result.nodeTypes = types findings
  errors : AreErrors result.diagnostics

/-- From any node on a check adds the findings up to the number of problems that are still missing. -/
theorem checkFrom_adds (index : Nat) (scope : TypeScope) (collector : Collector) {limit : Int} (nodes : List Node)
    (limited : collector.limit = some limit) (errors : AreErrors collector.diagnostics) :
    (checkFrom index scope collector nodes).Adds collector.diagnostics
      (upTo (limit - collector.diagnostics.length).toNat (ofNodes index scope nodes)) := by
  induction nodes generalizing index scope collector with
  | nil => exact ⟨(List.append_nil _).symm, rfl, errors⟩
  | cons node rest ih =>
    rcases inferred : node.infer scope with ⟨cause | type, after⟩
    · let problem := Diagnostic.ofFailure cause (Place.topLevel index node.kindName).text
      have errors' : AreErrors (collector.add problem).diagnostics := Collector.areErrors_add errors _ _
      have oneMore : (collector.add problem).diagnostics.length = collector.diagnostics.length + 1 :=
        List.length_append
      have stops : (collector.add problem).shouldStop = true ↔
          (limit - collector.diagnostics.length).toNat ≤ 1 := by
        rw [Collector.shouldStop_iff errors' limited, oneMore]
        omega
      simp only [checkFrom, ofNodes, inferred, upTo]
      split
      · next enough =>
        rw [if_pos (stops.mp enough)]
        exact ⟨rfl, rfl, errors'⟩
      · next more =>
        have later := ih (index + 1) after (collector.add problem) limited errors'
        have budget : (limit - (collector.add problem).diagnostics.length).toNat =
            (limit - collector.diagnostics.length).toNat - 1 := by
          rw [oneMore]
          omega
        rw [budget] at later
        rw [if_neg (mt stops.mpr more)]
        refine ⟨?_, congrArg (none :: ·) later.nodeTypes, later.errors⟩
        exact later.diagnostics.trans (List.append_assoc _ [problem] _)
    · have later := ih (index + 1) after collector limited errors
      simp only [checkFrom, ofNodes, inferred, upTo]
      exact ⟨later.diagnostics, congrArg (some type :: ·) later.nodeTypes, later.errors⟩

/-- A check reports what there is to find in a program, up to the limit. -/
theorem check_adds (nodes : List Node) (limit : Int) :
    (check nodes (some limit)).Adds [] (upTo limit.toNat (ofNodes 0 .initial nodes)) := by
  have added := checkFrom_adds 0 .initial (.empty (some limit)) nodes rfl (List.forall_mem_nil _)
  rwa [show limit - ((Collector.empty (some limit)).diagnostics.length : Int) = limit from Int.sub_zero limit] at added

namespace CheckResult

variable {result : CheckResult} {findings : List Finding}

theorem Adds.hasErrors_iff (adds : result.Adds [] findings) : result.hasErrors = true ↔ result.diagnostics ≠ [] := by
  rw [hasErrors, List.any_eq_true]
  constructor
  · rintro ⟨diagnostic, member, -⟩
    exact List.ne_nil_of_mem member
  · intro some
    obtain ⟨diagnostic, member⟩ := List.exists_mem_of_ne_nil _ some
    exact ⟨diagnostic, member, decide_eq_true (adds.errors diagnostic member)⟩

theorem Adds.length_diagnostics (adds : result.Adds [] findings) :
    result.diagnostics.length = (problems findings).length := by
  rw [adds.diagnostics, List.nil_append]

end CheckResult

/-- A check with a limit reports an initial part of what a check with a larger limit reports. It reports a
diagnostic for each node without a type, at most as many as the limit allows but at least the first; it has
errors if it reports any; and if it reports fewer than the limit allows, it has looked at every node. -/
theorem check_reports_initial_part (nodes : List Node) {limit larger : Int} (atMost : limit ≤ larger) :
    (check nodes (some limit)).diagnostics <+: (check nodes (some larger)).diagnostics ∧
      (check nodes (some limit)).nodeTypes <+: (check nodes (some larger)).nodeTypes ∧
      (check nodes (some limit)).diagnostics.length = (check nodes (some limit)).nodeTypes.countP Option.isNone ∧
      ((check nodes (some limit)).diagnostics.length : Int) ≤ max 1 limit ∧
      ((check nodes (some limit)).hasErrors = true ↔ (check nodes (some limit)).diagnostics ≠ []) ∧
      (((check nodes (some limit)).diagnostics.length : Int) < max 1 limit →
        (check nodes (some limit)).nodeTypes.length = nodes.length) := by
  have adds := check_adds nodes limit
  have addsMore := check_adds nodes larger
  have initial := upTo_prefix (Int.toNat_le_toNat atMost) (ofNodes 0 .initial nodes)
  refine ⟨?_, ?_, ?_, ?_, adds.hasErrors_iff, ?_⟩
  · rw [adds.diagnostics, addsMore.diagnostics]
    exact initial.filterMap _
  · rw [adds.nodeTypes, addsMore.nodeTypes]
    exact initial.map _
  · rw [adds.length_diagnostics, adds.nodeTypes, length_problems]
  · rw [adds.length_diagnostics]
    have bound := length_problems_upTo_le limit.toNat (ofNodes 0 .initial nodes)
    omega
  · intro fewer
    rw [adds.length_diagnostics] at fewer
    rw [adds.nodeTypes, upTo_eq_self (by omega), types, List.length_map, length_ofNodes]

/-- A limit of zero admits the first problem, which a limit of two reports first. -/
theorem check_reports_initial_part_at_zero :
    (0 : Int) ≤ 2 ∧
      (check [.reference "a", .reference "b", .reference "c"] (some 0)).nodeTypes <+:
        (check [.reference "a", .reference "b", .reference "c"] (some 2)).nodeTypes ∧
      (check [.reference "a", .reference "b", .reference "c"] (some 0)).nodeTypes = [none] ∧
      (check [.reference "a", .reference "b", .reference "c"] (some 2)).nodeTypes = [none, none] :=
  have atMost : (0 : Int) ≤ 2 := by decide
  ⟨atMost, (check_reports_initial_part _ atMost).2.1, rfl, rfl⟩

end TreeScript
