import Mathlib.Data.List.Nodup
import TreeScript.Proofs.Loading.Documents
import TreeScript.Proofs.Loading.Schema

/-! # Documents read through their parts

Apart from the wording of complaints, a document comes to what its parts come to in their roles. A list
is read item by item, the members of an object entry by entry, and a mapping with fields by the rule of
its kind. These equations are all that is needed of the loader to follow a whole document.
-/

namespace TreeScript

variable {α β : Type}

/-! ## Fields -/

namespace Role

/-- What a document comes to in a role. -/
def verdict (role : Role) (document : Document) : Verdict role.Content :=
  (role.read document.reading "").verdict

/-- The place of a document shows in the wording of complaints only. -/
theorem verdict_read (role : Role) (document : Document) (place : String) :
    (role.read document.reading place).verdict = role.verdict document := by
  cases role with
  | text =>
    simp only [verdict, read, Reading.text]
    split <;> rfl
  | truth =>
    simp only [verdict, read, Reading.bool]
    split <;> rfl
  | names =>
    simp only [verdict, read, Reading.names]
    split
    · simp only [Load.verdict_mapM]
      congr 1
      funext item
      split <;> rfl
    · rfl
  | nodes | members => cases document <;> rfl
  | _ => rfl

end Role

namespace Field

/-- What a field of a mapping comes to. -/
def verdict (entries : List (Scalar × Document)) : (field : Field) → Verdict field.Content
  | ⟨name, role, .needed⟩ =>
    match Document.find? entries name with
    | some document => role.verdict document
    | none => Verdict.refusal
  | ⟨name, role, .nullable⟩ =>
    match Document.find? entries name with
    | some document => if document.isNull then return none else some <$> role.verdict document
    | none => return none
  | ⟨name, role, .missable⟩ =>
    match Document.find? entries name with
    | some document => some <$> role.verdict document
    | none => return none

theorem verdict_read (entries : List (Scalar × Document)) (kind : String) (field : Field) :
    (field.read (readingsOfEntries entries) kind).verdict = field.verdict entries := by
  obtain ⟨name, role, presence⟩ := field
  cases presence with
  | needed =>
    simp only [read, verdict, Fields.required, Document.get?_readingsOfEntries]
    cases Document.find? entries name with
    | none => rfl
    | some document => exact role.verdict_read document _
  | nullable =>
    simp only [read, verdict, Fields.optional, Document.get?_readingsOfEntries]
    cases Document.find? entries name with
    | none => rfl
    | some document =>
      simp only [Option.map_some, Document.reading_document]
      split
      · rfl
      · rw [Load.verdict_bind, role.verdict_read]
        exact (map_eq_pure_bind _ _).symm
  | missable =>
    simp only [read, verdict, Document.get?_readingsOfEntries]
    cases Document.find? entries name with
    | none => rfl
    | some document =>
      simp only [Option.map_some, Load.verdict_map]
      rw [role.verdict_read]

/-- What comes of the fields of a mapping, read in their order. -/
def combine (entries : List (Scalar × Document)) : (rules : List Field) → Maker α rules → Verdict α
  | [], make => Load.verdict make
  | field :: rest, make => do
    let content ← field.verdict entries
    combine entries rest (make content)

theorem verdict_assemble (entries : List (Scalar × Document)) (kind : String) (rules : List Field)
    (make : Maker α rules) :
    (assemble (readingsOfEntries entries) kind rules make).verdict = combine entries rules make := by
  induction rules with
  | nil => rfl
  | cons field rest ih =>
    rw [assemble, combine, Load.verdict_bind, verdict_read]
    congr 1
    funext content
    exact ih (make content)

namespace Maker

/-- Change what is made. -/
def map (change : α → β) : {rules : List Field} → Maker α rules → Maker β rules
  | [], make => change <$> (make : Load α)
  | _ :: _, make => fun content => map change (make content)

end Maker

theorem combine_map (change : α → β) (entries : List (Scalar × Document)) (rules : List Field)
    (make : Maker α rules) : combine entries rules (make.map change) = change <$> combine entries rules make := by
  induction rules with
  | nil => exact Load.verdict_map change make
  | cons field rest ih =>
    rw [combine, combine, map_bind]
    congr 1
    funext content
    exact ih (make content)

end Field

namespace Rule

/-- What the entries of a mapping come to by a rule. -/
def verdict (rule : Rule α) (entries : List (Scalar × Document)) : Verdict α :=
  Field.combine entries rule.fields rule.make

def map (change : α → β) (rule : Rule α) : Rule β := ⟨rule.fields, rule.make.map change⟩

theorem verdict_map (change : α → β) (rule : Rule α) (entries : List (Scalar × Document)) :
    (rule.map change).verdict entries = change <$> rule.verdict entries :=
  Field.combine_map change entries rule.fields rule.make

end Rule

/-! ## Lists and members -/

namespace Role

/-- The role of the items of a list. -/
def item? : Role → Option Role
  | nodes | program => some node
  | switchCases => some switchCase
  | types => some type
  | _ => none

theorem verdict_nodes_list (items : List Document) :
    Role.nodes.verdict (.list items) = items.mapM Role.node.verdict := by
  change ((readingsOfAll items).mapM Reading.node).verdict = _
  rw [Document.readingsOfAll_eq, List.mapM_map, Load.verdict_mapM]
  rfl

theorem verdict_switchCases_list (items : List Document) :
    Role.switchCases.verdict (.list items) = items.mapM Role.switchCase.verdict := by
  change ((readingsOfAll items).mapM Reading.switchCase).verdict = _
  rw [Document.readingsOfAll_eq, List.mapM_map, Load.verdict_mapM]
  rfl

theorem verdict_type (document : Document) :
    Role.type.verdict document = (liftM (Ty.ofDocument document) : Load Ty).verdict := by
  simp only [verdict, read, Reading.type, Document.reading_document]

theorem verdict_types (document : Document) :
    Role.types.verdict document = (liftM (Ty.listOf document) : Load (List Ty)).verdict := by
  simp only [verdict, read, Reading.types, Document.reading_document]

theorem verdict_types_list (items : List Document) :
    Role.types.verdict (.list items) = items.mapM Role.type.verdict := by
  rw [verdict_types, Ty.listOf]
  induction items with
  | nil => rfl
  | cons item rest ih =>
    simp only [Ty.ofAll, liftM_bind, liftM_pure, Load.verdict_bind, Load.verdict_pure, List.mapM_cons, ih]
    rw [verdict_type]

/-- The nodes of a program are those that its list comes to. -/
theorem verdict_nodesOfProgram (document : Document) :
    (nodesOfProgram document).verdict = Role.nodes.verdict document := by
  cases document with
  | list items =>
    rw [verdict_nodes_list, nodesOfProgram, Load.verdict_mapM]
    rfl
  | _ => rfl

/-- A list comes to what its items come to. -/
theorem verdict_list {role inner : Role} (found : role.item? = some inner) :
    ∃ make : List inner.Content → role.Content, ∀ items,
      role.verdict (.list items) = make <$> items.mapM inner.verdict := by
  cases role with
  | nodes =>
    cases found
    exact ⟨id, fun items => (verdict_nodes_list items).trans (id_map _).symm⟩
  | program =>
    cases found
    exact ⟨id, fun items => (verdict_nodesOfProgram (.list items)).trans
      ((verdict_nodes_list items).trans (id_map _).symm)⟩
  | switchCases =>
    cases found
    exact ⟨id, fun items => (verdict_switchCases_list items).trans (id_map _).symm⟩
  | types =>
    cases found
    exact ⟨id, fun items => (verdict_types_list items).trans (id_map _).symm⟩
  | _ => cases found

/-- The role of all members of a mapping. -/
def member? : Role → Option Role
  | members => some node
  | properties => some type
  | _ => none

/-- What a named member comes to. -/
def verdictOfMember (role : Role) (entry : Scalar × Document) : Verdict (String × role.Content) :=
  (entry.1.plain, ·) <$> role.verdict entry.2

theorem verdict_members_mapping (entries : List (Scalar × Document)) :
    Role.members.verdict (.mapping entries) = Table.ofList <$> entries.mapM Role.node.verdictOfMember := by
  change (membersOfMapping (readingsOfEntries entries)).verdict = _
  rw [membersOfMapping, Load.verdict_bind, Document.readingsOfEntries_eq, List.mapM_map, Load.verdict_mapM,
    map_eq_pure_bind]
  congr 1
  congr 1
  funext entry
  exact (Load.verdict_bind _ _).trans (map_eq_pure_bind _ _).symm

theorem verdict_properties_mapping (entries : List (Scalar × Document)) :
    Role.properties.verdict (.mapping entries) = Ty.ofProperties <$> entries.mapM Role.type.verdictOfMember := by
  change (liftM (Ty.ofProperties <$> Ty.ofMembers entries) : Load Ty).verdict = _
  rw [liftM_map, Load.verdict_map]
  congr 1
  induction entries with
  | nil => rfl
  | cons entry rest ih =>
    obtain ⟨key, document⟩ := entry
    simp only [Ty.ofMembers, liftM_bind, liftM_pure, Load.verdict_bind, Load.verdict_pure, List.mapM_cons, ih,
      verdictOfMember, bind_map_left]
    rw [verdict_type]

/-- The members of a mapping come to what their documents come to. -/
theorem verdict_members {role inner : Role} (found : role.member? = some inner) :
    ∃ make : List (String × inner.Content) → role.Content, ∀ entries,
      role.verdict (.mapping entries) = make <$> entries.mapM inner.verdictOfMember := by
  cases role with
  | members =>
    cases found
    exact ⟨Table.ofList, verdict_members_mapping⟩
  | properties =>
    cases found
    exact ⟨Ty.ofProperties, verdict_properties_mapping⟩
  | _ => cases found

end Role

/-! ## Mappings with fields -/

/-- The kind that the entries of a node name. -/
def Document.kind? (entries : List (Scalar × Document)) : Option String :=
  match find? entries "node" with
  | some (.scalar (.string name)) => some (nodeKind name)
  | _ => none

/-- The kind of a node is a list or a mapping. -/
def Document.hasDeepKind (entries : List (Scalar × Document)) : Bool :=
  match find? entries "node" with
  | some (list _) | some (mapping _) => true
  | _ => false

/-- The kinds of types that are mappings with one key. -/
def typeRule? : List Scalar → Option (Rule Ty)
  | [.string "array"] => some ⟨[.needed "array" .type], fun element => return .array element⟩
  | [.string "object"] => some ⟨[.needed "object" .properties], fun object => return object⟩
  | [.string "function"] => some ⟨[.needed "function" .signature], fun function => return function⟩
  | _ => none

namespace Role

/-- The rule by which the entries of a mapping are read in a role. -/
def rule? : (role : Role) → List (Scalar × Document) → Option (Rule role.Content)
  | node, entries => (Document.kind? entries).bind nodeRule?
  | key, entries => ((Document.kind? entries).bind nodeRule?).map (Rule.map .inr)
  | switchCase, _ => some
    ⟨[.needed "match" .node, .missable "body" .nodes],
      fun candidate body => return (candidate, body.getD [])⟩
  | type, entries => typeRule? (entries.map (·.1))
  | signature, _ => some
    ⟨[.missable "params" .types, .missable "returns" .type],
      fun params result => return .arrow (params.getD []) (result.getD .void)⟩
  | program, _ => some ⟨[.needed "program" .nodes], fun nodes => return nodes⟩
  | _, _ => none

/-- Nodes have no fields beside those of their kind. -/
def isStrict : Role → Bool
  | node | key => true
  | _ => false

variable {entries : List (Scalar × Document)}

theorem verdict_node_mapping (texts : ∀ entry ∈ entries, entry.1.isText = true) {rule : Rule Node}
    (found : Role.node.rule? entries = some rule) :
    Role.node.verdict (.mapping entries) =
      if hasStray (rule.fields.map Field.name) entries then Verdict.refusal else rule.verdict entries := by
  obtain ⟨kind, named, known⟩ := Option.bind_eq_some_iff.mp found
  have shape : ∃ name, Document.find? entries "node" = some (.scalar (.string name)) ∧ nodeKind name = kind := by
    unfold Document.kind? at named
    split at named
    · next name node => exact ⟨name, node, Option.some.inj named⟩
    · cases named
  obtain ⟨name, atNode, rfl⟩ := shape
  have opened : Role.node.verdict (.mapping entries) =
      (nodeOfFields (nodeKind name) (readingsOfEntries entries)).verdict := by
    change (nodeOfMapping (.mapping entries) (readingsOfEntries entries)).verdict = _
    simp only [nodeOfMapping, Document.get?_readingsOfEntries, atNode, Option.map_some, Document.reading_document]
  rw [opened, nodeOfFields_eq, known]
  simp only [Load.verdict_bind, verdict_only texts, Field.verdict_assemble]
  split <;> rfl

/-- A key that is no text is read as a node. -/
theorem verdict_key {document : Document} (computed : ∀ name, document ≠ .scalar (.string name)) :
    Role.key.verdict document = Sum.inr <$> Role.node.verdict document := by
  simp only [verdict, read, Document.reading_document, Load.verdict_bind]
  exact (map_eq_pure_bind _ _).symm

theorem verdict_switchCase_mapping (rule : Rule (Node × List Node))
    (found : Role.switchCase.rule? entries = some rule) :
    Role.switchCase.verdict (.mapping entries) = rule.verdict entries := by
  cases found
  change (caseOfMapping (readingsOfEntries entries)).verdict = _
  simp only [caseOfMapping, Rule.verdict, Field.combine, Field.verdict, Document.get?_readingsOfEntries]
  cases Document.find? entries "match" with
  | none => rfl
  | some candidate =>
    simp only [Option.map_some, Load.verdict_bind]
    congr 1
    funext node
    cases Document.find? entries "body" with
    | none => rfl
    | some body =>
      simp only [Option.map_some, Load.verdict_bind, bind_map_left]
      congr 1
      exact Role.nodes.verdict_read body _

theorem verdict_program_mapping (rule : Rule (List Node)) (found : Role.program.rule? entries = some rule) :
    Role.program.verdict (.mapping entries) = rule.verdict entries := by
  cases found
  change (programOfDocument (.mapping entries)).verdict = _
  simp only [programOfDocument, Rule.verdict, Field.combine, Field.verdict]
  cases Document.find? entries "program" with
  | none => rfl
  | some program => exact (verdict_nodesOfProgram program).trans (bind_pure _).symm

theorem paramsIn_eq (entries : List (Scalar × Document)) :
    Ty.paramsIn entries = ((Document.find? entries "params").map Ty.listOf).getD (pure []) := by
  induction entries with
  | nil => rfl
  | cons entry rest ih =>
    rw [Ty.paramsIn, Document.find?_cons]
    split
    · rfl
    · exact ih

theorem resultIn_eq (entries : List (Scalar × Document)) :
    Ty.resultIn entries = ((Document.find? entries "returns").map Ty.ofDocument).getD (pure .void) := by
  induction entries with
  | nil => rfl
  | cons entry rest ih =>
    rw [Ty.resultIn, Document.find?_cons]
    split
    · rfl
    · exact ih

theorem verdict_signature_mapping (rule : Rule Ty) (found : Role.signature.rule? entries = some rule) :
    Role.signature.verdict (.mapping entries) = rule.verdict entries := by
  cases found
  change (liftM (do
    let params ← Ty.paramsIn entries
    return Ty.arrow params (← Ty.resultIn entries)) : Load Ty).verdict = _
  simp only [liftM_bind, liftM_pure, Load.verdict_bind, Load.verdict_pure, Rule.verdict, Field.combine,
    Field.verdict, paramsIn_eq, resultIn_eq]
  cases Document.find? entries "params" with
  | none =>
    cases Document.find? entries "returns" with
    | none => rfl
    | some result =>
      simp only [Option.map_none, Option.map_some, Option.getD_none, Option.getD_some, liftM_pure,
        Load.verdict_pure, pure_bind, bind_map_left, verdict_type]
  | some params =>
    cases Document.find? entries "returns" with
    | none =>
      simp only [Option.map_none, Option.map_some, Option.getD_none, Option.getD_some, liftM_pure,
        Load.verdict_pure, pure_bind, bind_map_left, verdict_types]
    | some result =>
      simp only [Option.map_some, Option.getD_some, bind_map_left, verdict_type, verdict_types]

/-- A field that is the only entry comes to what its document comes to. -/
theorem verdict_needed_only (name : String) (role : Role) (document : Document) :
    (Field.needed name role).verdict [(.string name, document)] = role.verdict document := by
  simp only [Field.verdict, Document.find?_cons, if_true]

theorem verdict_type_mapping (rule : Rule Ty) (found : Role.type.rule? entries = some rule) :
    Role.type.verdict (.mapping entries) = rule.verdict entries := by
  rw [verdict_type]
  change typeRule? (entries.map (·.1)) = some rule at found
  unfold typeRule? at found
  split at found
  · next single =>
    obtain ⟨⟨key, element⟩, rfl, rfl⟩ := List.map_eq_singleton_iff.mp single
    cases found
    simp only [Rule.verdict, Field.combine, verdict_needed_only, Ty.ofDocument, liftM_bind, liftM_pure,
      Load.verdict_bind, Load.verdict_pure, verdict_type]
  · next single =>
    obtain ⟨⟨key, object⟩, rfl, rfl⟩ := List.map_eq_singleton_iff.mp single
    cases found
    simp only [Rule.verdict, Field.combine, verdict_needed_only, Load.verdict_pure, bind_pure]
    cases object with
    | mapping members =>
      rw [Ty.ofDocument]
      exact congrArg (fun type : Except LoadError Ty => (liftM type : Load Ty).verdict)
        (map_eq_pure_bind _ _).symm
    | _ =>
      rw [Ty.ofDocument]
      · rfl
      all_goals simp
  · next single =>
    obtain ⟨⟨key, function⟩, rfl, rfl⟩ := List.map_eq_singleton_iff.mp single
    cases found
    simp only [Rule.verdict, Field.combine, verdict_needed_only, Load.verdict_pure, bind_pure]
    cases function with
    | mapping parts =>
      rw [Ty.ofDocument]
      rfl
    | _ =>
      rw [Ty.ofDocument]
      · rfl
      all_goals simp
  · cases found

/-- A mapping with other keys than those of a type is refused. -/
theorem verdict_type_unruled (unruled : Role.type.rule? entries = none) :
    Role.type.verdict (.mapping entries) = Verdict.refusal := by
  change typeRule? (entries.map (·.1)) = none at unruled
  unfold typeRule? at unruled
  split at unruled
  case h_4 noArray noObject noFunction =>
    rw [verdict_type, Ty.ofDocument]
    · rfl
    · exact fun _ => Document.noConfusion
    · rintro element same
      cases same
      exact noArray rfl
    · rintro members same
      cases same
      exact noObject rfl
    · rintro parts same
      cases same
      exact noFunction rfl
  all_goals cases unruled

/-- A node of no known kind is refused, unless its kind cannot be looked up at all. -/
theorem verdict_node_unruled (unruled : Role.node.rule? entries = none) :
    Role.node.verdict (.mapping entries) = Verdict.refusal ∨
      Document.hasDeepKind entries = true ∧
        ∃ cause, Role.node.verdict (.mapping entries) = Verdict.breakdown cause := by
  have opened : Role.node.verdict (.mapping entries) =
      (nodeOfMapping (.mapping entries) (readingsOfEntries entries)).verdict := rfl
  simp only [nodeOfMapping, Document.get?_readingsOfEntries] at opened
  cases atNode : Document.find? entries "node" with
  | none =>
    rw [opened, atNode]
    exact Or.inl rfl
  | some kind =>
    simp only [atNode, Option.map_some, Document.reading_document] at opened
    rw [opened]
    cases kind with
    | scalar value =>
      cases value with
      | string name =>
        have unknown : nodeRule? (nodeKind name) = none := by
          simpa [rule?, Document.kind?, atNode] using unruled
        simp only [nodeOfFields_eq, unknown]
        exact Or.inl rfl
      | _ => exact Or.inl rfl
    | _ =>
      rw [Document.hasDeepKind, atNode]
      exact Or.inr ⟨rfl, _, rfl⟩

/-- A node of no known kind is not read. -/
theorem not_gives_unknown (unruled : Role.node.rule? entries = none) (result : Node) :
    ¬(Role.node.verdict (.mapping entries)).Gives result := by
  rcases verdict_node_unruled unruled with refused | ⟨_, cause, broken⟩
  · rw [refused]
    exact Verdict.not_gives_refusal result
  · rw [broken]
    exact Verdict.not_gives_breakdown cause result

/-- A mapping with fields comes to what its fields come to; unknown fields of a node are refused. -/
theorem verdict_mapping {role : Role} {rule : Rule role.Content} (found : role.rule? entries = some rule)
    (texts : ∀ entry ∈ entries, entry.1.isText = true) :
    role.verdict (.mapping entries) =
      if role.isStrict && hasStray (rule.fields.map Field.name) entries then Verdict.refusal
      else rule.verdict entries := by
  cases role with
  | node => exact verdict_node_mapping texts found
  | key =>
    obtain ⟨plain, known, rfl⟩ := Option.map_eq_some_iff.mp found
    rw [verdict_key (fun _ => Document.noConfusion), verdict_node_mapping texts known, Rule.verdict_map]
    simp only [isStrict, Bool.true_and]
    change Sum.inr <$> (if hasStray (plain.fields.map Field.name) entries then _ else _) =
      if hasStray (plain.fields.map Field.name) entries then _ else _
    split <;> rfl
  | switchCase => exact verdict_switchCase_mapping rule found
  | type => exact verdict_type_mapping rule found
  | signature => exact verdict_signature_mapping rule found
  | program => exact verdict_program_mapping rule found
  | _ => cases found

/-- The field that an entry of a mapping is in a role. -/
def field? (role : Role) (entries : List (Scalar × Document)) (key : Scalar) : Option Field :=
  (role.rule? entries).bind fun rule => rule.fields.find? fun field => key == .string field.name

/-- The role of the document under a key. -/
def entryRole? (role : Role) (entries : List (Scalar × Document)) (key : Scalar) : Option Role :=
  match role.member? with
  | some inner => some inner
  | none => (role.field? entries key).map Field.role

end Role

/-- A kind of node has no two fields of one name, and none is called `node`. -/
theorem nodup_names_nodeRule {kind : String} {rule : Rule Node} (known : nodeRule? kind = some rule) :
    ("node" :: rule.fields.map Field.name).Nodup := by
  unfold nodeRule? at known
  split at known
  case h_26 => cases known
  all_goals
    cases known
    simp

namespace Role

variable {entries : List (Scalar × Document)} {role : Role} {rule : Rule role.Content}
  (found : role.rule? entries = some rule)

include found

theorem nodup_names : ("node" :: rule.fields.map Field.name).Nodup := by
  cases role with
  | node =>
    obtain ⟨kind, _, known⟩ := Option.bind_eq_some_iff.mp found
    exact nodup_names_nodeRule known
  | key =>
    obtain ⟨plain, known, rfl⟩ := Option.map_eq_some_iff.mp found
    obtain ⟨kind, _, known⟩ := Option.bind_eq_some_iff.mp known
    exact nodup_names_nodeRule known
  | type =>
    change typeRule? (entries.map (·.1)) = some rule at found
    unfold typeRule? at found
    split at found <;> cases found <;> simp
  | switchCase | signature | program =>
    cases found
    simp
  | _ => cases found

theorem name_ne_node {field : Field} (known : field ∈ rule.fields) : field.name ≠ "node" := by
  intro same
  exact (List.nodup_cons.mp (nodup_names found)).1 (List.mem_map.mpr ⟨field, known, same⟩)

/-- A field is known by its name. -/
theorem eq_of_name_eq {field other : Field} (known : field ∈ rule.fields) (otherKnown : other ∈ rule.fields)
    (same : field.name = other.name) : field = other :=
  List.inj_on_of_nodup_map (List.nodup_cons.mp (nodup_names found)).2 known otherKnown same

/-- A mapping that is read by a rule has fields, and no members. -/
theorem member?_eq_none : role.member? = none := by
  cases role with
  | members | properties => cases found
  | _ => rfl

theorem field?_eq_some {field : Field} (member : field ∈ rule.fields) :
    role.field? entries (.string field.name) = some field := by
  have some : (rule.fields.find? fun other => Scalar.string field.name == .string other.name).isSome = true := by
    rw [List.find?_isSome]
    exact ⟨field, member, beq_self_eq_true _⟩
  obtain ⟨other, atName⟩ := Option.isSome_iff_exists.mp some
  have same : field.name = other.name := by simpa using List.find?_some atName
  rw [field?, found, Option.bind_some, atName, eq_of_name_eq found member (List.mem_of_find?_eq_some atName) same]

theorem entryRole?_eq_some {field : Field} (member : field ∈ rule.fields) :
    role.entryRole? entries (.string field.name) = some field.role := by
  rw [entryRole?, member?_eq_none found, field?_eq_some found member]
  rfl

/-- What is read under a key of a mapping with fields is one of the fields. -/
theorem of_entryRole?_eq_some {key : Scalar} {inner : Role} (part : role.entryRole? entries key = some inner) :
    ∃ field ∈ rule.fields, key = .string field.name ∧ role.field? entries key = some field ∧ inner = field.role := by
  rw [entryRole?, member?_eq_none found] at part
  obtain ⟨field, atKey, rfl⟩ := Option.map_eq_some_iff.mp part
  have known := atKey
  rw [field?, found, Option.bind_some] at known
  have named := List.find?_some known
  exact ⟨field, List.mem_of_find?_eq_some known, by simpa using named, atKey, rfl⟩

end Role

end TreeScript
