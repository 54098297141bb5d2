import TreeScript.Proofs.Loading.Parts

/-! # Which documents break the loader

A document that is no program is complained about, except where its reading breaks before its form is
looked at. Five shapes break a reading: a node whose kind is a list or a mapping, a `for` loop that
lacks a part, cases or types that cannot be gone through, and a big integer that is no numeral. A
document that has none of them at a place where it matters is read or complained about, and a document
that has one of them is never read.
-/

namespace TreeScript

variable {α β : Type}

open Verdict

/-! ## The shapes that break a reading -/

/-- A document that can be asked for an integer. -/
def Document.isNumeral : Document → Bool
  | scalar (.string _) | scalar (.bool _) | scalar (.int _) => true
  | scalar (.float value) => !value.isInfinite
  | _ => false

/-- A `for` loop lacks a part. -/
def Document.lacksPart (entries : List (Scalar × Document)) : Bool :=
  kind? entries == some "For" &&
    ["init", "condition", "update"].any fun name => (find? entries name).all isNull

/-- An optional field that is null counts as missing. -/
def Field.isBlank (field : Field) (document : Document) : Bool :=
  field.presence == .nullable && document.isNull

namespace Role

/-- The document breaks its own reading, whatever its parts are. -/
def breaksAt : Role → Document → Bool
  | literal, .mapping [(.string "bigint", value)] => !value.isNumeral
  | switchCases, .scalar value | types, .scalar value => !value.isText
  | node, .mapping entries | key, .mapping entries =>
    Document.hasDeepKind entries || Document.lacksPart entries
  | _, _ => false

mutual

/-- Neither the document nor any of its parts that are looked at breaks the reading. -/
def breaksNowhere (role : Role) : Document → Bool
  | .scalar value => !role.breaksAt (.scalar value)
  | .list items => !role.breaksAt (.list items) && itemsBreakNowhere role.item? items
  | .mapping entries => !role.breaksAt (.mapping entries) && entriesBreakNowhere role entries entries

def itemsBreakNowhere (inner : Option Role) : List Document → Bool
  | [] => true
  | document :: rest =>
    (match inner with
      | some role => role.breaksNowhere document
      | none => true) && itemsBreakNowhere inner rest

def entriesBreakNowhere (role : Role) (all : List (Scalar × Document)) : List (Scalar × Document) → Bool
  | [] => true
  | (name, document) :: rest =>
    ((role.field? all name).any (·.isBlank document) ||
      match role.entryRole? all name with
      | some inner => inner.breaksNowhere document
      | none => true) && entriesBreakNowhere role all rest

end

variable {role : Role}

theorem breaksNowhere_list {items : List Document} :
    role.breaksNowhere (.list items) = true ↔ role.breaksAt (.list items) = false ∧
      ∀ inner, role.item? = some inner → ∀ item ∈ items, inner.breaksNowhere item = true := by
  have each (inner : Option Role) : itemsBreakNowhere inner items = true ↔
      ∀ role, inner = some role → ∀ item ∈ items, role.breaksNowhere item = true := by
    induction items with
    | nil => simp [itemsBreakNowhere]
    | cons item rest ih =>
      cases inner <;> simp [itemsBreakNowhere, ih]
  rw [breaksNowhere, Bool.and_eq_true, each, Bool.not_eq_true']

variable {entries : List (Scalar × Document)}

theorem breaksNowhere_mapping :
    role.breaksNowhere (.mapping entries) = true ↔ role.breaksAt (.mapping entries) = false ∧
      ∀ entry ∈ entries, ∀ inner, role.entryRole? entries entry.1 = some inner →
        (role.field? entries entry.1).any (·.isBlank entry.2) = true ∨ inner.breaksNowhere entry.2 = true := by
  have each (all : List (Scalar × Document)) : entriesBreakNowhere role all entries = true ↔
      ∀ entry ∈ entries, ∀ inner, role.entryRole? all entry.1 = some inner →
        (role.field? all entry.1).any (·.isBlank entry.2) = true ∨ inner.breaksNowhere entry.2 = true := by
    induction entries with
    | nil => simp [entriesBreakNowhere]
    | cons entry rest ih =>
      rw [entriesBreakNowhere, Bool.and_eq_true, ih, List.forall_mem_cons]
      cases role.entryRole? all entry.1 <;> simp
  rw [breaksNowhere, Bool.and_eq_true, each, Bool.not_eq_true']

theorem breaksNowhere_members {inner : Role} (found : role.member? = some inner) :
    role.breaksNowhere (.mapping entries) = true ↔ ∀ entry ∈ entries, inner.breaksNowhere entry.2 = true := by
  have fieldless (key : Scalar) : role.field? entries key = none := by
    cases role with
    | members | properties => rfl
    | _ => cases found
  have keeps : role.breaksAt (.mapping entries) = false := by
    cases role with
    | members | properties => rfl
    | _ => cases found
  simp [breaksNowhere_mapping, keeps, entryRole?, found, fieldless]

/-! ## Documents without parts -/

theorem isSteady_liftM {result : Except LoadError α} (sound : ∀ cause, result ≠ .error (.broken cause)) :
    (liftM result : Load α).verdict.IsSteady := by
  intro next cause broken
  rw [Load.verdict_eq_breakdown] at broken
  cases result with
  | ok type => cases broken
  | error error =>
    cases broken
    exact sound cause rfl

theorem ofName_ne_broken (name : String) (cause : Breakdown) : Ty.ofName name ≠ .error (.broken cause) := by
  unfold Ty.ofName
  split <;> simp

theorem ofKey_ne_broken (scalar : Scalar) (cause : Breakdown) : Ty.ofKey scalar ≠ .error (.broken cause) := by
  cases scalar with
  | string name => exact ofName_ne_broken name cause
  | _ => simp [Ty.ofKey]

theorem isSteady_liftM_mapM {read : α → Except LoadError β}
    (sound : ∀ item cause, read item ≠ .error (.broken cause)) (items : List α) :
    (liftM (items.mapM read) : Load (List β)).verdict.IsSteady := by
  induction items with
  | nil => exact isSteady_pure []
  | cons item rest ih =>
    simp only [List.mapM_cons, liftM_bind, liftM_pure, Load.verdict_bind, Load.verdict_pure]
    exact (isSteady_liftM (sound item)).bind fun _ _ => ih.bind fun _ _ => isSteady_pure _

/-- A scalar that does not break its reading is read or complained about. -/
theorem isSteady_scalar {value : Scalar} (keeps : role.breaksAt (.scalar value) = false) :
    (role.verdict (.scalar value)).IsSteady := by
  cases role with
  | literal =>
    cases value with
    | date | moment => exact isSteady_refusal
    | _ => exact isSteady_pure _
  | truth =>
    cases value with
    | bool value => exact isSteady_pure _
    | _ => exact isSteady_refusal
  | names | node | nodes | members | switchCase | properties | signature | program => exact isSteady_refusal
  | text | key =>
    cases value with
    | string text => exact isSteady_pure _
    | _ => exact isSteady_refusal
  | switchCases =>
    cases value with
    | string text =>
      change (if text.isEmpty then return [] else Load.malformed .notACase :
        Load (List (Node × List Node))).verdict.IsSteady
      split
      · exact isSteady_pure _
      · exact isSteady_refusal
    | _ => cases keeps
  | type =>
    rw [verdict_type, Ty.ofDocument]
    exact isSteady_liftM (ofKey_ne_broken value)
  | types =>
    rw [verdict_types]
    cases value with
    | string text =>
      rw [Ty.listOf]
      exact isSteady_liftM_mapM (fun c => ofName_ne_broken _) _
    | _ => cases keeps

/-! ## Lists and members -/

theorem isSteady_list {items : List Document}
    (each : ∀ inner, role.item? = some inner → ∀ item ∈ items, (inner.verdict item).IsSteady) :
    (role.verdict (.list items)).IsSteady := by
  cases found : role.item? with
  | some inner =>
    obtain ⟨make, equation⟩ := verdict_list found
    rw [equation]
    exact (isSteady_mapM (each inner found)).map make
  | none =>
    cases role with
    | nodes | program | switchCases | types => cases found
    | names =>
      change (items.mapM _ : Load (List String)).verdict.IsSteady
      rw [Load.verdict_mapM]
      refine isSteady_mapM fun item _ => ?_
      split
      · exact isSteady_pure _
      · exact isSteady_refusal
    | _ => exact isSteady_refusal

theorem isSteady_members {inner : Role} (found : role.member? = some inner)
    (each : ∀ entry ∈ entries, (inner.verdict entry.2).IsSteady) :
    (role.verdict (.mapping entries)).IsSteady := by
  obtain ⟨make, equation⟩ := verdict_members found
  rw [equation]
  exact (isSteady_mapM fun entry inside => (each entry inside).map _).map make

/-- The number of a big integer is a numeral, or its reading breaks. -/
theorem isSteady_integer {document : Document} (numeral : document.isNumeral = true) :
    (Load.integer document).verdict.IsSteady := by
  cases document with
  | scalar value =>
    cases value with
    | string text =>
      simp only [Load.integer]
      split
      · exact isSteady_pure _
      · exact isSteady_refusal
    | float value =>
      cases value with
      | infinite negative => cases numeral
      | nan => exact isSteady_refusal
      | finite negative units representable => exact isSteady_pure _
    | bool | int => exact isSteady_pure _
    | _ => cases numeral
  | _ => cases numeral

theorem isSteady_literal (keeps : Role.literal.breaksAt (.mapping entries) = false) :
    (Role.literal.verdict (.mapping entries)).IsSteady := by
  change (Load.literal (.mapping entries)).verdict.IsSteady
  unfold Load.literal
  split
  · exact isSteady_pure _
  · exact isSteady_pure _
  · exact isSteady_pure _
  · exact isSteady_pure _
  · exact isSteady_pure _
  · next value same =>
    cases same
    rw [Load.verdict_bind]
    exact (isSteady_integer (by simpa [breaksAt] using keeps)).bind fun _ _ => isSteady_pure _
  · intro next cause broken
    cases broken
  · exact isSteady_refusal

/-- A node of no known kind is complained about, unless the kind is a list or a mapping. -/
theorem isSteady_unknown (unruled : Role.node.rule? entries = none)
    (keeps : Document.hasDeepKind entries = false) : (Role.node.verdict (.mapping entries)).IsSteady := by
  rcases verdict_node_unruled unruled with refused | ⟨deep, _⟩
  · rw [refused]
    exact isSteady_refusal
  · rw [keeps] at deep
    cases deep

/-- A mapping that has neither fields nor members is complained about, unless it breaks. -/
theorem isSteady_unruled (unruled : role.rule? entries = none) (plain : role.member? = none)
    (keeps : role.breaksAt (.mapping entries) = false) :
    (role.verdict (.mapping entries)).IsSteady := by
  cases role with
  | text | truth | names | nodes => exact isSteady_refusal
  | literal => exact isSteady_literal keeps
  | node =>
    rw [breaksAt, Bool.or_eq_false_iff] at keeps
    exact isSteady_unknown unruled keeps.1
  | key =>
    rw [breaksAt, Bool.or_eq_false_iff] at keeps
    rw [verdict_key (fun _ => Document.noConfusion)]
    exact (isSteady_unknown (Option.map_eq_none_iff.mp unruled) keeps.1).map _
  | switchCases =>
    change (if (readingsOfEntries entries).isEmpty then return [] else Load.malformed .notACase :
      Load (List (Node × List Node))).verdict.IsSteady
    split
    · exact isSteady_pure _
    · exact isSteady_refusal
  | type =>
    rw [verdict_type_unruled unruled]
    exact isSteady_refusal
  | types =>
    rw [verdict_types, Ty.listOf]
    exact isSteady_liftM_mapM (fun entry : Scalar × Document => ofKey_ne_broken entry.1) _
  | members | properties => cases plain
  | switchCase | signature | program => cases unruled

end Role

/-! ## Mappings with fields -/

namespace Field

variable {entries : List (Scalar × Document)}

/-- Whatever the fields of a mapping come to, nothing breaks when something is made of them. -/
def Maker.IsSteadyOn (entries : List (Scalar × Document)) : (rules : List Field) → Maker α rules → Prop
  | [], make => (Load.verdict make).IsSteady
  | field :: rest, make => ∀ content, (field.verdict entries).Gives content → IsSteadyOn entries rest (make content)

theorem isSteady_combine {rules : List Field} {make : Maker α rules} (made : make.IsSteadyOn entries)
    (each : ∀ field ∈ rules, (field.verdict entries).IsSteady) : (combine entries rules make).IsSteady := by
  induction rules with
  | nil => exact made
  | cons field rest ih =>
    obtain ⟨first, others⟩ := List.forall_mem_cons.mp each
    exact first.bind fun content gives => ih (made content gives) others

theorem Maker.IsSteadyOn.map {rules : List Field} {make : Maker α rules} (made : make.IsSteadyOn entries)
    (change : α → β) : (make.map change).IsSteadyOn entries := by
  induction rules with
  | nil => exact (congrArg IsSteady (Load.verdict_map change make)).mpr (IsSteady.map made change)
  | cons field rest ih => exact fun content gives => ih (made content gives)

/-- If something comes of the fields, each of them comes to something. -/
theorem gives_of_combine {rules : List Field} {make : Maker α rules} {result : α}
    (gives : (combine entries rules make).Gives result) :
    ∀ field ∈ rules, ∃ content, (field.verdict entries).Gives content := by
  induction rules with
  | nil => exact List.forall_mem_nil _
  | cons field rest ih =>
    obtain ⟨content, first, later⟩ := gives.of_bind
    exact List.forall_mem_cons.mpr ⟨⟨content, first⟩, ih later⟩

/-- An optional field comes to nothing if it is missing or null. -/
theorem isNone_of_gives {name : String} {role : Role} {content : Option role.Content}
    (gives : ((Field.nullable name role).verdict entries).Gives content) :
    content.isNone = (Document.find? entries name).all Document.isNull := by
  simp only [verdict] at gives
  cases found : Document.find? entries name with
  | none =>
    rw [found] at gives
    rw [← gives.of_pure]
    rfl
  | some document =>
    simp only [found] at gives
    rw [Option.all_some]
    cases null : document.isNull with
    | true =>
      rw [null, if_pos rfl] at gives
      rw [← gives.of_pure]
      rfl
    | false =>
      rw [null, if_neg Bool.false_ne_true] at gives
      obtain ⟨part, _, rfl⟩ := gives.of_map
      rfl

/-- A field breaks nothing if its document does not, or is not looked at. -/
theorem isSteady_verdict (field : Field) (found : ∀ document, Document.find? entries field.name = some document →
      field.isBlank document = true ∨ (field.role.verdict document).IsSteady) :
    (field.verdict entries).IsSteady := by
  obtain ⟨name, role, presence⟩ := field
  cases atName : Document.find? entries name with
  | none =>
    cases presence with
    | needed =>
      simp only [verdict, atName]
      exact isSteady_refusal
    | nullable | missable =>
      simp only [verdict, atName]
      exact isSteady_pure _
  | some document =>
    have steady := found document atName
    cases presence with
    | needed =>
      simp only [verdict, atName]
      exact steady.resolve_left (by simp [isBlank])
    | missable =>
      simp only [verdict, atName]
      exact (steady.resolve_left (by simp [isBlank])).map _
    | nullable =>
      simp only [verdict, atName]
      split
      · exact isSteady_pure _
      · next present => exact (steady.resolve_left (by simpa [isBlank] using present)).map _

/-- If a field comes to something, so does its document, unless it is not looked at. -/
theorem gives_of_verdict {field : Field} {content : field.Content} (gives : (field.verdict entries).Gives content)
    {document : Document} (found : Document.find? entries field.name = some document) :
    field.isBlank document = true ∨ ∃ part, (field.role.verdict document).Gives part := by
  obtain ⟨name, role, presence⟩ := field
  cases presence with
  | needed =>
    simp only [verdict, found] at gives
    exact Or.inr ⟨content, gives⟩
  | missable =>
    simp only [verdict, found] at gives
    obtain ⟨part, given, _⟩ := gives.of_map
    exact Or.inr ⟨part, given⟩
  | nullable =>
    simp only [verdict, found] at gives
    split at gives
    · next null => exact Or.inl (by simpa [isBlank] using null)
    · obtain ⟨part, given, _⟩ := gives.of_map
      exact Or.inr ⟨part, given⟩

end Field

/-- A `for` loop without one of its parts breaks, and with all of them goes on. -/
theorem requireParts_eq (init condition update : Option Node) :
    requireParts init condition update =
      if init.isNone || condition.isNone || update.isNone then
        Load.broken (.missingParts
          (if init.isNone then "init" else if condition.isNone then "condition" else "update")
          ((if init.isNone && condition.isNone then ["condition"] else []) ++
            if (init.isNone || condition.isNone) && update.isNone then ["update"] else []))
      else return () := by
  cases init <;> cases condition <;> cases update <;> rfl

variable {entries : List (Scalar × Document)}

/-- Among the nodes, only a `for` loop without a part can break once its fields are read. -/
theorem isSteadyOn_nodeRule {kind : String} {rule : Rule Node} (named : Document.kind? entries = some kind)
    (known : nodeRule? kind = some rule) (whole : Document.lacksPart entries = false) :
    rule.make.IsSteadyOn entries := by
  unfold nodeRule? at known
  split at known
  case h_9 =>
    cases known
    intro name _ params _ body _ declared _ result _ isPure _
    simp only [Field.Maker.IsSteadyOn]
    cases declared with
    | none => exact isSteady_pure _
    | some types =>
      simp only
      split
      · exact isSteady_refusal
      · exact isSteady_pure _
  case h_22 =>
    cases known
    intro init givenInit condition givenCondition update givenUpdate body _
    have present : (init.isNone || condition.isNone || update.isNone) = false := by
      rw [Field.isNone_of_gives givenInit, Field.isNone_of_gives givenCondition, Field.isNone_of_gives givenUpdate]
      simpa [Document.lacksPart, named, and_assoc] using whole
    simp only [Field.Maker.IsSteadyOn, requireParts_eq, present]
    exact isSteady_pure _
  case h_26 => cases known
  all_goals
    cases known
    simp only [Field.Maker.IsSteadyOn]
    intros
    exact isSteady_pure _

namespace Role

variable {role : Role} {rule : Rule role.Content}

theorem isSteadyOn_rule (found : role.rule? entries = some rule)
    (keeps : role.breaksAt (.mapping entries) = false) : rule.make.IsSteadyOn entries := by
  cases role with
  | node =>
    rw [breaksAt, Bool.or_eq_false_iff] at keeps
    obtain ⟨kind, named, known⟩ := Option.bind_eq_some_iff.mp found
    exact isSteadyOn_nodeRule named known keeps.2
  | key =>
    rw [breaksAt, Bool.or_eq_false_iff] at keeps
    obtain ⟨plain, known, rfl⟩ := Option.map_eq_some_iff.mp found
    obtain ⟨kind, named, known⟩ := Option.bind_eq_some_iff.mp known
    exact (isSteadyOn_nodeRule named known keeps.2).map _
  | type =>
    change typeRule? (entries.map (·.1)) = some rule at found
    unfold typeRule? at found
    split at found
    case h_4 => cases found
    all_goals
      cases found
      exact fun _ _ => isSteady_pure _
  | program =>
    cases found
    exact fun _ _ => isSteady_pure _
  | switchCase | signature =>
    cases found
    exact fun _ _ _ _ => isSteady_pure _
  | _ => cases found

/-- Every document that breaks nowhere is read or complained about. -/
theorem isSteady_of_breaksNowhere (document : Document) (json : document.isJson = true) (role : Role)
    (keeps : role.breaksNowhere document = true) : (role.verdict document).IsSteady := by
  induction document using Document.inductOn generalizing role with
  | scalar value => exact isSteady_scalar (by simpa [breaksNowhere] using keeps)
  | list items ih =>
    rw [Document.isJson_list] at json
    rw [breaksNowhere_list] at keeps
    exact isSteady_list fun inner found item member =>
      ih item member (json item member) inner (keeps.2 inner found item member)
  | mapping entries ih =>
    rw [Document.isJson_mapping] at json
    obtain ⟨distinct, json⟩ := json
    cases member : role.member? with
    | some inner =>
      rw [breaksNowhere_members member] at keeps
      exact isSteady_members member fun entry inside => ih entry inside (json entry inside).2 inner (keeps entry inside)
    | none =>
      obtain ⟨keepsHere, keeps⟩ := breaksNowhere_mapping.mp keeps
      cases found : role.rule? entries with
      | none => exact isSteady_unruled found member keepsHere
      | some rule =>
        rw [verdict_mapping found fun entry inside => (json entry inside).1]
        split
        · exact isSteady_refusal
        · refine Field.isSteady_combine (isSteadyOn_rule found keepsHere) fun field known => ?_
          refine field.isSteady_verdict fun document atName => ?_
          have inside := Document.mem_of_find?_eq_some atName
          rcases keeps _ inside _ (entryRole?_eq_some found known) with blank | keeps
          · rw [field?_eq_some found known] at blank
            exact Or.inl blank
          · exact Or.inr (ih _ inside (json _ inside).2 _ keeps)

/-! ## Documents that are read -/

theorem integer_of_gives {document : Document} {n : Int} (gives : (Load.integer document).verdict.Gives n) :
    document.isNumeral = true := by
  cases document with
  | scalar value =>
    cases value with
    | string | bool | int => rfl
    | float value =>
      cases value with
      | infinite negative => exact absurd gives (not_gives_breakdown _ _)
      | nan | finite => rfl
    | _ => exact absurd gives (not_gives_breakdown _ _)
  | _ => exact absurd gives (not_gives_breakdown _ _)

/-- A `for` loop that lacks a part is not read. -/
theorem not_gives_lacking (texts : ∀ entry ∈ entries, entry.1.isText = true)
    (lacks : Document.lacksPart entries = true) (result : Node) :
    ¬(Role.node.verdict (.mapping entries)).Gives result := by
  intro gives
  rw [Document.lacksPart, Bool.and_eq_true, beq_iff_eq] at lacks
  obtain ⟨named, lacks⟩ := lacks
  have found : Role.node.rule? entries = nodeRule? "For" := by rw [rule?, named, Option.bind_some]
  rw [verdict_node_mapping texts found] at gives
  split at gives
  · exact not_gives_refusal _ gives
  · obtain ⟨init, givenInit, gives⟩ := gives.of_bind
    obtain ⟨condition, givenCondition, gives⟩ := gives.of_bind
    obtain ⟨update, givenUpdate, gives⟩ := gives.of_bind
    obtain ⟨body, _, gives⟩ := gives.of_bind
    have missing : (init.isNone || condition.isNone || update.isNone) = true := by
      rw [Field.isNone_of_gives givenInit, Field.isNone_of_gives givenCondition, Field.isNone_of_gives givenUpdate]
      simpa [or_assoc] using lacks
    simp only [Field.combine, requireParts_eq, missing] at gives
    exact not_gives_breakdown _ _ gives

theorem kind?_of_hasDeepKind (deep : Document.hasDeepKind entries = true) : Document.kind? entries = none := by
  unfold Document.hasDeepKind at deep
  split at deep
  · next items atNode => rw [Document.kind?, atNode]
  · next members atNode => rw [Document.kind?, atNode]
  · cases deep

theorem breaksAt_of_gives_node (texts : ∀ entry ∈ entries, entry.1.isText = true) {result : Node}
    (gives : (Role.node.verdict (.mapping entries)).Gives result) :
    (Document.hasDeepKind entries || Document.lacksPart entries) = false := by
  rw [Bool.or_eq_false_iff]
  constructor
  · refine Bool.eq_false_iff.mpr fun deep => not_gives_unknown ?_ result gives
    rw [rule?, kind?_of_hasDeepKind deep, Option.bind_none]
  · exact Bool.eq_false_iff.mpr fun lacks => not_gives_lacking texts lacks result gives

/-- A document that breaks its own reading is not read. -/
theorem breaksAt_of_gives {document : Document} (json : document.isJson = true) {result : role.Content}
    (gives : (role.verdict document).Gives result) : role.breaksAt document = false := by
  unfold breaksAt
  split
  · next value =>
    change (Load.integer value >>= fun n => return Literal.bigint n).verdict.Gives result at gives
    rw [Load.verdict_bind] at gives
    obtain ⟨n, given, _⟩ := gives.of_bind
    rw [integer_of_gives given]
    rfl
  · next value =>
    cases value with
    | string => rfl
    | _ => exact absurd gives (not_gives_breakdown _ _)
  · next value =>
    rw [verdict_types] at gives
    cases value with
    | string => rfl
    | _ => exact absurd gives (not_gives_breakdown _ _)
  · next entries =>
    rw [Document.isJson_mapping] at json
    exact breaksAt_of_gives_node (fun entry inside => (json.2 entry inside).1) gives
  · next entries =>
    rw [Document.isJson_mapping] at json
    rw [verdict_key fun _ => Document.noConfusion] at gives
    obtain ⟨node, gives, _⟩ := gives.of_map
    exact breaksAt_of_gives_node (fun entry inside => (json.2 entry inside).1) gives
  · rfl

/-- Every document that is read breaks nowhere. -/
theorem breaksNowhere_of_gives (document : Document) (json : document.isJson = true) (role : Role)
    {result : role.Content} (gives : (role.verdict document).Gives result) :
    role.breaksNowhere document = true := by
  induction document using Document.inductOn generalizing role with
  | scalar value =>
    rw [breaksNowhere, breaksAt_of_gives json gives]
    rfl
  | list items ih =>
    rw [breaksNowhere_list]
    refine ⟨breaksAt_of_gives json gives, fun inner found item member => ?_⟩
    rw [Document.isJson_list] at json
    obtain ⟨make, equation⟩ := verdict_list found
    rw [equation] at gives
    obtain ⟨contents, gives, _⟩ := gives.of_map
    obtain ⟨content, given⟩ := gives.of_mapM item member
    exact ih item member (json item member) inner given
  | mapping entries ih =>
    have keepsHere := breaksAt_of_gives json gives
    rw [Document.isJson_mapping] at json
    obtain ⟨distinct, json⟩ := json
    cases member : role.member? with
    | some inner =>
      rw [breaksNowhere_members member]
      intro entry inside
      obtain ⟨make, equation⟩ := verdict_members member
      rw [equation] at gives
      obtain ⟨contents, gives, _⟩ := gives.of_map
      obtain ⟨named, given⟩ := gives.of_mapM entry inside
      obtain ⟨content, given, _⟩ := given.of_map
      exact ih entry inside (json entry inside).2 inner given
    | none =>
      refine breaksNowhere_mapping.mpr ⟨keepsHere, fun entry inside inner part => ?_⟩
      cases found : role.rule? entries with
      | none =>
        rw [entryRole?, member, field?, found] at part
        cases part
      | some rule =>
        obtain ⟨field, known, named, atKey, rfl⟩ := of_entryRole?_eq_some found part
        rw [verdict_mapping found fun entry inside => (json entry inside).1] at gives
        split at gives
        · exact absurd gives (not_gives_refusal _)
        · obtain ⟨content, given⟩ := Field.gives_of_combine gives field known
          have atName : Document.find? entries field.name = some entry.2 :=
            Document.find?_eq_some_of_mem distinct (named ▸ inside)
          rw [atKey]
          rcases Field.gives_of_verdict given atName with blank | ⟨part, given⟩
          · exact Or.inl blank
          · exact Or.inr (ih entry inside (json entry inside).2 field.role given)

end Role

/-- A document that breaks nowhere is a program or is complained about, and one that breaks somewhere
is no program. -/
theorem programOfDocument_ok_or_malformed (document : Document) (json : document.isJson = true) (next : Nat) :
    (Role.program.breaksNowhere document = true →
      (∃ nodes later, programOfDocument document next = .ok (nodes, later)) ∨
        ∃ cause, programOfDocument document next = .error (.malformed cause)) ∧
    (Role.program.breaksNowhere document = false →
      ∃ error, programOfDocument document next = .error error) := by
  have program : Role.program.verdict document = (programOfDocument document).verdict := by
    simp only [Role.verdict, Role.read, Document.reading_document]
  constructor
  · intro keeps
    have steady := Role.isSteady_of_breaksNowhere document json .program keeps next
    rw [program] at steady
    cases loaded : programOfDocument document next with
    | ok result => exact Or.inl ⟨result.1, result.2, rfl⟩
    | error error =>
      cases error with
      | malformed cause => exact Or.inr ⟨cause, rfl⟩
      | broken cause => exact absurd (Load.verdict_eq_breakdown.mpr loaded) (steady cause)
  · intro breaks
    cases loaded : programOfDocument document next with
    | ok result =>
      have gives : (Role.program.verdict document).Gives result.1 :=
        ⟨next, result.2, program ▸ Load.verdict_eq_ok.mpr loaded⟩
      rw [Role.breaksNowhere_of_gives document json .program gives] at breaks
      cases breaks
    | error error => exact ⟨error, rfl⟩

/-- A loop with all its parts, whose body holds a big integer, is read or complained about. -/
theorem programOfDocument_ok_or_malformed_loop :
    let count (field : Document) : Document := .mapping
      [(.string "node", .scalar (.string "Literal")), (.string "value", .mapping [(.string "bigint", field)])]
    let loop : Document := .list [.mapping
      [(.string "node", .scalar (.string "For")), (.string "init", count (.scalar (.int 0))),
        (.string "condition", count (.scalar (.string "1"))), (.string "update", count (.scalar (.bool true))),
        (.string "body", .list [count (.scalar (.string "many"))])]]
    loop.isJson = true ∧ Role.program.breaksNowhere loop = true ∧
      ((∃ nodes later, programOfDocument loop 0 = .ok (nodes, later)) ∨
        ∃ cause, programOfDocument loop 0 = .error (.malformed cause)) := by
  refine ⟨by decide, by decide, (programOfDocument_ok_or_malformed _ (by decide) 0).1 (by decide)⟩

/-- A node whose kind is a list, cases and types that are numbers, a big integer that is null and a loop
without parts are no programs, and none of them is complained about. -/
theorem programOfDocument_breaks :
    let node (kind : String) (fields : List (Scalar × Document)) : Document :=
      .mapping ((.string "node", .scalar (.string kind)) :: fields)
    let five : Document := .scalar (.int 5)
    programOfDocument (.list [.mapping [(.string "node", .list [])]]) 0 =
      .error (.broken (.unhashable "list")) ∧
    programOfDocument (.list [node "Switch"
      [(.string "expression", node "Literal" []), (.string "cases", five)]]) 0 =
      .error (.broken (.notIterable "int")) ∧
    programOfDocument (.list [node "FunctionLiteral"
      [(.string "params", .list []), (.string "body", .list []), (.string "param_types", five)]]) 0 =
      .error (.broken (.notIterable "int")) ∧
    programOfDocument (.list [node "Literal"
      [(.string "value", .mapping [(.string "bigint", .scalar .null)])]]) 0 =
      .error (.broken (.notANumeral "NoneType")) ∧
    programOfDocument (.list [node "For" []]) 0 =
      .error (.broken (.missingParts "init" ["condition", "update"])) := by
  refine ⟨rfl, rfl, rfl, rfl, rfl⟩

end TreeScript
