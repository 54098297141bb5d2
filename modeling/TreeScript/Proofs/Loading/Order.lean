import Mathlib.Logic.Relation
import TreeScript.Proofs.Loading.Parts
import TreeScript.Proofs.Typing.Identity

/-! # What does not count in a document

The order of the entries of a node, of a case and of a type does not count, and an optional field that
is null counts as missing. Neither does it count what stands where nothing is looked at. A document and
what it becomes by such changes, in any number and at any depth, are the same program or both are none.
The members of an object literal are evaluated in their order, and types that are listed as the keys of
a mapping count in the order of the keys; such mappings are not among those that can be reordered.
-/

namespace TreeScript

open Verdict

variable {entries others : List (Scalar × Document)} {role : Role}

namespace Role

/-- The order of the entries of a mapping does not count. -/
def isUnordered : Role → Bool
  | node | key | switchCase | type | properties | signature | program => true
  | _ => false

/-- The document under a key is not looked at. -/
def ignores (role : Role) (entries : List (Scalar × Document)) (key : Scalar) : Bool :=
  role != literal && (role.entryRole? entries key).isNone && !(role.isStrict && key == .string "node")

end Role

/-- One change of a document that does not count in its role. -/
inductive Document.Edit : Role → Document → Document → Prop
  | reorder {role : Role} {entries others : List (Scalar × Document)} (unordered : role.isUnordered = true)
      (reordered : entries.Perm others) : Edit role (mapping entries) (mapping others)
  /-- An optional field of a node that is null can be left out, or put in. -/
  | drop {role : Role} {before after : List (Scalar × Document)} {rule : Rule role.Content} {field : Field}
      (strict : role.isStrict = true) (found : role.rule? (before ++ after) = some rule)
      (known : field ∈ rule.fields) (optional : field.presence = .nullable)
      (missing : find? (before ++ after) field.name = none) :
      Edit role (mapping (before ++ (.string field.name, scalar .null) :: after)) (mapping (before ++ after))
  | item {role inner : Role} {before after : List Document} {document other : Document}
      (found : role.item? = some inner) (edit : Edit inner document other) :
      Edit role (list (before ++ document :: after)) (list (before ++ other :: after))
  | entry {role inner : Role} {before after : List (Scalar × Document)} {key : Scalar} {document other : Document}
      (found : role.entryRole? (before ++ (key, document) :: after) key = some inner)
      (edit : Edit inner document other) :
      Edit role (mapping (before ++ (key, document) :: after)) (mapping (before ++ (key, other) :: after))
  | ignored {role : Role} {before after : List (Scalar × Document)} {key : Scalar} {document other : Document}
      (ignored : role.ignores (before ++ (key, document) :: after) key = true)
      (json : document.isJson = true) (otherJson : other.isJson = true) :
      Edit role (mapping (before ++ (key, document) :: after)) (mapping (before ++ (key, other) :: after))

namespace Document

/-! ## Entries -/

theorem find?_eq_of_perm (distinct : (entries.map (·.1)).Nodup) (reordered : entries.Perm others) (name : String) :
    find? entries name = find? others name := by
  have otherDistinct : (others.map (·.1)).Nodup := (reordered.map _).nodup_iff.mp distinct
  refine Option.ext fun document => ?_
  constructor
  · intro found
    exact find?_eq_some_of_mem otherDistinct (reordered.mem_iff.mp (mem_of_find?_eq_some found))
  · intro found
    exact find?_eq_some_of_mem distinct (reordered.mem_iff.mpr (mem_of_find?_eq_some found))

theorem find?_append_cons_of_ne {key : Scalar} {name : String} (differs : key ≠ .string name)
    (before after : List (Scalar × Document)) (document : Document) :
    find? (before ++ (key, document) :: after) name = find? (before ++ after) name := by
  simp [find?, List.find?_append, differs]

theorem isJson_mapping_of_perm (reordered : entries.Perm others) :
    (mapping entries).isJson = true ↔ (mapping others).isJson = true := by
  rw [isJson_mapping, isJson_mapping, (reordered.map _).nodup_iff]
  simp only [reordered.mem_iff]

theorem isJson_mapping_append_cons {before after : List (Scalar × Document)} {key : Scalar} {document : Document} :
    (mapping (before ++ (key, document) :: after)).isJson = true ↔
      key ∉ (before ++ after).map (·.1) ∧ key.isText = true ∧ document.isJson = true ∧
        (mapping (before ++ after)).isJson = true := by
  rw [isJson_mapping_of_perm List.perm_middle, isJson_mapping, isJson_mapping, List.map_cons, List.nodup_cons,
    List.forall_mem_cons]
  tauto

/-- Only JSON documents become JSON documents. -/
theorem Edit.isJson_iff {document other : Document} (edit : Edit role document other) :
    document.isJson = true ↔ other.isJson = true := by
  induction edit with
  | reorder unordered reordered => exact isJson_mapping_of_perm reordered
  | @drop role before after rule field strict found known optional missing =>
    have absent : Scalar.string field.name ∉ (before ++ after).map (·.1) := by
      intro member
      obtain ⟨entry, inside, named⟩ := List.mem_map.mp member
      simp only [find?, Option.map_eq_none_iff, List.find?_eq_none] at missing
      exact missing entry inside (beq_iff_eq.mpr named)
    rw [isJson_mapping_append_cons]
    exact ⟨fun json => json.2.2.2, fun json => ⟨absent, rfl, rfl, json⟩⟩
  | item found edit ih => simp only [isJson_list, List.forall_mem_append, List.forall_mem_cons, ih]
  | entry found edit ih => simp only [isJson_mapping_append_cons, ih]
  | ignored ignored json otherJson => simp only [isJson_mapping_append_cons, json, otherJson]

end Document

/-! ## Fields and rules -/

theorem Field.verdict_congr {field : Field}
    (same : Document.find? entries field.name = Document.find? others field.name) :
    field.verdict entries = field.verdict others := by
  obtain ⟨name, role, presence⟩ := field
  cases presence <;> simp only [verdict, same]

/-- A field agrees with one that has another document, if the documents agree and neither is null. -/
theorem Field.agrees_of_found {field : Field} {document other : Document}
    (found : Document.find? entries field.name = some document)
    (otherFound : Document.find? others field.name = some other)
    (present : document.isNull = false ∧ other.isNull = false)
    (agrees : (field.role.verdict document).Agrees (field.role.verdict other)) :
    (field.verdict entries).Agrees (field.verdict others) := by
  obtain ⟨name, role, presence⟩ := field
  cases presence with
  | needed =>
    simp only [verdict, found, otherFound]
    exact agrees
  | missable =>
    simp only [verdict, found, otherFound]
    exact agrees.map _
  | nullable =>
    simp only [verdict, found, otherFound, present.1, present.2]
    exact agrees.map _

theorem Field.combine_agrees {α : Type} {rules : List Field} (make : Maker α rules)
    (each : ∀ field ∈ rules, (field.verdict entries).Agrees (field.verdict others)) :
    (combine entries rules make).Agrees (combine others rules make) := by
  induction rules with
  | nil => exact .refl _
  | cons field rest ih =>
    obtain ⟨first, later⟩ := List.forall_mem_cons.mp each
    exact first.bind fun content => ih (make content) later

/-- The kind of a type is its only key. -/
theorem typeRule?_perm {keys others : List Scalar} (reordered : keys.Perm others) :
    typeRule? keys = typeRule? others := by
  by_cases single : ∃ key, keys = [key]
  · obtain ⟨key, rfl⟩ := single
    rw [List.singleton_perm.mp reordered]
  · have otherSingle : ¬∃ key, others = [key] := by
      rintro ⟨key, rfl⟩
      exact single ⟨key, List.perm_singleton.mp reordered⟩
    have unruled (keys : List Scalar) (single : ¬∃ key, keys = [key]) : typeRule? keys = none := by
      unfold typeRule?
      split
      case h_4 => rfl
      all_goals exact absurd ⟨_, rfl⟩ single
    rw [unruled keys single, unruled others otherSingle]

theorem hasStray_eq_of_keys {known : List String} (keys : (entries.map (·.1)).Perm (others.map (·.1))) :
    hasStray known entries = hasStray known others := by
  have counts (entries : List (Scalar × Document)) : hasStray known entries =
      (entries.map (·.1)).any fun key => !("node" :: known).any fun name => key == .string name := by
    rw [hasStray, List.any_map]
    rfl
  rw [counts, counts, Bool.eq_iff_iff, List.any_eq_true, List.any_eq_true]
  simp only [keys.mem_iff]

namespace Role

/-- The rule of a mapping depends on its keys, and on the kind that it names. -/
theorem rule?_eq_of_keys (keys : (entries.map (·.1)).Perm (others.map (·.1)))
    (kind : role.isStrict = true → Document.find? entries "node" = Document.find? others "node") :
    role.rule? entries = role.rule? others := by
  cases role with
  | node | key => simp only [rule?, Document.kind?, kind rfl]
  | type => exact typeRule?_perm keys
  | _ => rfl

/-- Mappings with the same rule agree if their fields do. -/
theorem agrees_of_fields {rule : Rule role.Content} (found : role.rule? entries = some rule)
    (otherFound : role.rule? others = some rule) (json : (Document.mapping entries).isJson = true)
    (otherJson : (Document.mapping others).isJson = true)
    (stray : hasStray (rule.fields.map Field.name) entries = hasStray (rule.fields.map Field.name) others)
    (each : ∀ field ∈ rule.fields, (field.verdict entries).Agrees (field.verdict others)) :
    (role.verdict (.mapping entries)).Agrees (role.verdict (.mapping others)) := by
  rw [Document.isJson_mapping] at json otherJson
  rw [verdict_mapping found fun entry inside => (json.2 entry inside).1,
    verdict_mapping otherFound fun entry inside => (otherJson.2 entry inside).1, stray]
  split
  · exact .refl _
  · exact Field.combine_agrees rule.make each

/-- Mappings without fields agree if they have the same keys. -/
theorem agrees_of_unruled (unruled : role.rule? entries = none) (otherUnruled : role.rule? others = none)
    (plain : role.member? = none) (other : role ≠ literal)
    (keys : role.isUnordered = true ∨ entries.map (·.1) = others.map (·.1)) :
    (role.verdict (.mapping entries)).Agrees (role.verdict (.mapping others)) := by
  cases role with
  | text | truth | names | nodes => exact Agrees.refl Verdict.refusal
  | literal => exact absurd rfl other
  | node => exact agrees_of_not_gives (not_gives_unknown unruled) (not_gives_unknown otherUnruled)
  | key =>
    rw [verdict_key fun _ => Document.noConfusion, verdict_key fun _ => Document.noConfusion]
    exact (agrees_of_not_gives (not_gives_unknown (Option.map_eq_none_iff.mp unruled))
      (not_gives_unknown (Option.map_eq_none_iff.mp otherUnruled))).map _
  | switchCases =>
    have keys := keys.resolve_left Bool.false_ne_true
    have empty (entries : List (Scalar × Document)) :
        (readingsOfEntries entries).isEmpty = (entries.map (·.1)).isEmpty := by
      simp [Document.readingsOfEntries_eq]
    change (if (readingsOfEntries entries).isEmpty then return [] else Load.malformed .notACase :
      Load (List (Node × List Node))).verdict.Agrees
        (if (readingsOfEntries others).isEmpty then return [] else Load.malformed .notACase :
          Load (List (Node × List Node))).verdict
    rw [empty, empty, keys]
    exact .refl _
  | type =>
    rw [verdict_type_unruled unruled, verdict_type_unruled otherUnruled]
    exact .refl _
  | types =>
    have keys := keys.resolve_left Bool.false_ne_true
    have through (entries : List (Scalar × Document)) :
        entries.mapM (fun entry => Ty.ofKey entry.1) = (entries.map (·.1)).mapM Ty.ofKey := by
      rw [List.mapM_map]
      rfl
    rw [verdict_types, verdict_types, Ty.listOf, Ty.listOf, through, through, keys]
    exact .refl _
  | members | properties => cases plain
  | switchCase | signature | program => cases unruled

end Role

/-! ## Object types -/

namespace Ty

variable {members : List (String × Ty)}

theorem ofMembers_cons_eq_ok {key : Scalar} {document : Document} :
    ofMembers ((key, document) :: entries) = .ok members ↔
      ∃ type rest, ofDocument document = .ok type ∧ ofMembers entries = .ok rest ∧
        members = (key.plain, type) :: rest := by
  rw [ofMembers]
  cases ofDocument document with
  | error cause => simp [bind, Except.bind]
  | ok type =>
    cases ofMembers entries with
    | error cause => simp [bind, Except.bind]
    | ok rest => simp [bind, Except.bind, pure, Except.pure, eq_comm]

/-- The members of a mapping can be read in any order. -/
theorem ofMembers_perm (reordered : entries.Perm others) (read : ofMembers entries = .ok members) :
    ∃ otherMembers, ofMembers others = .ok otherMembers ∧ members.Perm otherMembers := by
  induction reordered generalizing members with
  | nil => exact ⟨members, read, .refl _⟩
  | cons entry _ ih =>
    obtain ⟨type, rest, first, later, rfl⟩ := ofMembers_cons_eq_ok.mp read
    obtain ⟨otherRest, otherLater, same⟩ := ih later
    exact ⟨_, ofMembers_cons_eq_ok.mpr ⟨type, otherRest, first, otherLater, rfl⟩, same.cons _⟩
  | swap entry another _ =>
    obtain ⟨type, _, first, inner, rfl⟩ := ofMembers_cons_eq_ok.mp read
    obtain ⟨otherType, rest, second, later, rfl⟩ := ofMembers_cons_eq_ok.mp inner
    refine ⟨_, ofMembers_cons_eq_ok.mpr ⟨otherType, _, second, ?_, rfl⟩, .swap _ _ _⟩
    exact ofMembers_cons_eq_ok.mpr ⟨type, rest, first, later, rfl⟩
  | trans _ _ ih otherIh =>
    obtain ⟨middle, readMiddle, same⟩ := ih read
    obtain ⟨last, readLast, sameLast⟩ := otherIh readMiddle
    exact ⟨last, readLast, same.trans sameLast⟩

theorem names_ofMembers (read : ofMembers entries = .ok members) :
    members.map (·.1) = entries.map (·.1.plain) := by
  induction entries generalizing members with
  | nil =>
    cases read
    rfl
  | cons entry rest ih =>
    obtain ⟨type, members, _, later, rfl⟩ := ofMembers_cons_eq_ok.mp read
    rw [List.map_cons, List.map_cons, ih later]

/-- Members with distinct names make the same type in any order. -/
theorem ofProperties_perm {members otherMembers : List (String × Ty)} (distinct : (members.map (·.1)).Nodup)
    (reordered : members.Perm otherMembers) : ofProperties members = ofProperties otherMembers := by
  have otherDistinct : (otherMembers.map (·.1)).Nodup := (reordered.map _).nodup_iff.mp distinct
  exact ofProperties_eq_of_get?_eq distinct otherDistinct
    ((Table.perm_iff_get?_eq distinct otherDistinct).mp reordered)

end Ty

theorem Load.verdict_liftM_eq_ok {α : Type} {read : Except LoadError α} {next : Nat} {result : α × Nat} :
    (liftM read : Load α).verdict next = .ok result ↔ read = .ok result.1 ∧ result.2 = next := by
  rw [Load.verdict_eq_ok]
  obtain ⟨result, later⟩ := result
  cases read with
  | ok value =>
    change Except.ok (value, next) = Except.ok (result, later) ↔ _
    simp [eq_comm]
  | error cause =>
    change Except.error cause = Except.ok (result, later) ↔ _
    simp

/-- Distinct texts are distinct names. -/
theorem Document.nodup_names (json : (mapping entries).isJson = true) : (entries.map (·.1.plain)).Nodup := by
  rw [isJson_mapping] at json
  obtain ⟨distinct, texts⟩ := json
  have names : entries.map (·.1.plain) = (entries.map (·.1)).map Scalar.plain := by rw [List.map_map, Function.comp_def]
  rw [names]
  refine distinct.map_on fun key member other otherMember same => ?_
  obtain ⟨entry, inside, rfl⟩ := List.mem_map.mp member
  obtain ⟨another, otherInside, rfl⟩ := List.mem_map.mp otherMember
  obtain ⟨name, named⟩ := Scalar.eq_string_of_isText (texts entry inside).1
  obtain ⟨otherName, otherNamed⟩ := Scalar.eq_string_of_isText (texts another otherInside).1
  rw [named, otherNamed] at same ⊢
  exact congrArg Scalar.string same

/-- The properties of an object type can stand in any order. -/
theorem Role.agrees_properties (reordered : entries.Perm others) (json : (Document.mapping entries).isJson = true) :
    (Role.properties.verdict (.mapping entries)).Agrees (Role.properties.verdict (.mapping others)) := by
  have towards {entries others : List (Scalar × Document)} (reordered : entries.Perm others)
      (json : (Document.mapping entries).isJson = true) {next : Nat} {result : Ty × Nat}
      (read : (liftM (Ty.ofProperties <$> Ty.ofMembers entries) : Load Ty).verdict next = .ok result) :
      (liftM (Ty.ofProperties <$> Ty.ofMembers others) : Load Ty).verdict next = .ok result := by
    rw [Load.verdict_liftM_eq_ok] at read ⊢
    obtain ⟨read, unchanged⟩ := read
    cases members : Ty.ofMembers entries with
    | error cause =>
      rw [members] at read
      cases read
    | ok properties =>
      obtain ⟨otherProperties, otherRead, same⟩ := Ty.ofMembers_perm reordered members
      have distinct : (properties.map (·.1)).Nodup := Ty.names_ofMembers members ▸ Document.nodup_names json
      rw [members] at read
      rw [otherRead, ← read]
      exact ⟨congrArg Except.ok (Ty.ofProperties_perm distinct same).symm, unchanged⟩
  exact fun next result => ⟨towards reordered json,
    towards reordered.symm ((Document.isJson_mapping_of_perm reordered).mp json)⟩

/-! ## Edits -/

namespace Document.Edit

variable {before after : List (Scalar × Document)} {key : Scalar} {document other : Document}

theorem agrees_reorder (unordered : role.isUnordered = true) (reordered : entries.Perm others)
    (json : (mapping entries).isJson = true) :
    (role.verdict (.mapping entries)).Agrees (role.verdict (.mapping others)) := by
  by_cases named : role = .properties
  · subst named
    exact Role.agrees_properties reordered json
  · have distinct := (isJson_mapping.mp json).1
    have ruled : role.rule? entries = role.rule? others :=
      Role.rule?_eq_of_keys (reordered.map _) fun _ => find?_eq_of_perm distinct reordered "node"
    cases found : role.rule? entries with
    | none =>
      have plain : role.member? = none := by
        cases role with
        | properties => exact absurd rfl named
        | members => cases unordered
        | _ => rfl
      refine Role.agrees_of_unruled found (ruled ▸ found) plain ?_ (Or.inl unordered)
      rintro rfl
      cases unordered
    | some rule =>
      refine Role.agrees_of_fields found (ruled ▸ found) json ((isJson_mapping_of_perm reordered).mp json)
        (hasStray_eq_of_keys (reordered.map _)) fun field _ => ?_
      rw [Field.verdict_congr (find?_eq_of_perm distinct reordered field.name)]
      exact .refl _

theorem agrees_drop {rule : Rule role.Content} {field : Field} (strict : role.isStrict = true)
    (found : role.rule? (before ++ after) = some rule) (known : field ∈ rule.fields)
    (optional : field.presence = .nullable) (missing : find? (before ++ after) field.name = none)
    (json : (mapping (before ++ (.string field.name, scalar .null) :: after)).isJson = true) :
    (role.verdict (.mapping (before ++ (.string field.name, scalar .null) :: after))).Agrees
      (role.verdict (.mapping (before ++ after))) := by
  have notNode : Scalar.string field.name ≠ .string "node" := fun same =>
    Role.name_ne_node found known (Scalar.string.inj same)
  have ruled : role.rule? (before ++ (.string field.name, scalar .null) :: after) = some rule := by
    rw [← found]
    cases role with
    | node | key => simp only [Role.rule?, kind?, find?_append_cons_of_ne notNode]
    | _ => cases strict
  have stray : hasStray (rule.fields.map Field.name) (before ++ (.string field.name, scalar .null) :: after) =
      hasStray (rule.fields.map Field.name) (before ++ after) := by
    have wanted : ("node" :: rule.fields.map Field.name).any
        (fun name => Scalar.string field.name == .string name) = true := by
      rw [List.any_eq_true]
      exact ⟨field.name, List.mem_cons_of_mem _ (List.mem_map.mpr ⟨field, known, rfl⟩), beq_self_eq_true _⟩
    rw [List.any_cons] at wanted
    simp only [hasStray, List.any_append, List.any_cons, wanted, Bool.not_true, Bool.false_or]
  refine Role.agrees_of_fields ruled found json (isJson_mapping_append_cons.mp json).2.2.2 stray
    fun another otherKnown => ?_
  by_cases same : Scalar.string field.name = .string another.name
  · obtain rfl := Role.eq_of_name_eq found known otherKnown (Scalar.string.inj same)
    have null : find? (before ++ (.string field.name, scalar .null) :: after) field.name = some (scalar .null) :=
      find?_eq_some_of_mem (isJson_mapping.mp json).1 (List.mem_append_right _ (List.mem_cons_self ..))
    obtain ⟨name, inner, presence⟩ := field
    cases optional
    simp only [Field.verdict, null, missing]
    exact .refl _
  · rw [Field.verdict_congr (find?_append_cons_of_ne same before after _)]
    exact .refl _

theorem isNull_eq_false (edit : Edit role document other) : document.isNull = false ∧ other.isNull = false := by
  cases edit <;> exact ⟨rfl, rfl⟩

/-- Replacing what stands under a key leaves the rule of a mapping as it is. -/
theorem rule?_replace (before after : List (Scalar × Document)) (document other : Document)
    (notNode : role.isStrict = true → key ≠ .string "node") :
    role.rule? (before ++ (key, document) :: after) = role.rule? (before ++ (key, other) :: after) := by
  refine Role.rule?_eq_of_keys (by simp) fun strict => ?_
  rw [find?_append_cons_of_ne (notNode strict), find?_append_cons_of_ne (notNode strict)]

theorem agrees_entry {inner : Role} (found : role.entryRole? (before ++ (key, document) :: after) key = some inner)
    (edit : Edit inner document other) (agrees : (inner.verdict document).Agrees (inner.verdict other))
    (json : (mapping (before ++ (key, document) :: after)).isJson = true) :
    (role.verdict (.mapping (before ++ (key, document) :: after))).Agrees
      (role.verdict (.mapping (before ++ (key, other) :: after))) := by
  cases member : role.member? with
  | some uniform =>
    rw [Role.entryRole?, member] at found
    cases found
    obtain ⟨make, equation⟩ := Role.verdict_members member
    rw [equation, equation]
    exact (agrees_mapM_append_cons inner.verdictOfMember (agrees.map _) before after).map make
  | none =>
    cases ruled : role.rule? (before ++ (key, document) :: after) with
    | none =>
      rw [Role.entryRole?, member, Role.field?, ruled] at found
      cases found
    | some rule =>
      obtain ⟨field, known, named, _, rfl⟩ := Role.of_entryRole?_eq_some ruled found
      subst named
      have otherJson := (Edit.entry found edit).isJson_iff.mp json
      have notNode : Scalar.string field.name ≠ .string "node" := fun same =>
        Role.name_ne_node ruled known (Scalar.string.inj same)
      refine Role.agrees_of_fields ruled
        (rule?_replace before after document other (fun _ => notNode) ▸ ruled) json otherJson
        (hasStray_eq_of_keys (by simp)) fun another otherKnown => ?_
      by_cases same : Scalar.string field.name = .string another.name
      · obtain rfl := Role.eq_of_name_eq ruled known otherKnown (Scalar.string.inj same)
        refine Field.agrees_of_found ?_ ?_ edit.isNull_eq_false agrees
        · exact find?_eq_some_of_mem (isJson_mapping.mp json).1 (List.mem_append_right _ (List.mem_cons_self ..))
        · exact find?_eq_some_of_mem (isJson_mapping.mp otherJson).1 (List.mem_append_right _ (List.mem_cons_self ..))
      · rw [Field.verdict_congr ((find?_append_cons_of_ne same before after document).trans
          (find?_append_cons_of_ne same before after other).symm)]
        exact .refl _

theorem agrees_ignored (ignored : role.ignores (before ++ (key, document) :: after) key = true)
    (json : (mapping (before ++ (key, document) :: after)).isJson = true)
    (otherJson : (mapping (before ++ (key, other) :: after)).isJson = true) :
    (role.verdict (.mapping (before ++ (key, document) :: after))).Agrees
      (role.verdict (.mapping (before ++ (key, other) :: after))) := by
  simp only [Role.ignores, Bool.and_eq_true, bne_iff_ne, Option.isNone_iff_eq_none, Bool.not_eq_true',
    Bool.and_eq_false_iff, beq_eq_false_iff_ne] at ignored
  obtain ⟨⟨notLiteral, unread⟩, notNode⟩ := ignored
  have ruled : role.rule? (before ++ (key, document) :: after) = role.rule? (before ++ (key, other) :: after) :=
    rule?_replace before after document other fun strict => notNode.resolve_left (by simp [strict])
  have plain : role.member? = none := by
    cases member : role.member? with
    | none => rfl
    | some inner =>
      rw [Role.entryRole?, member] at unread
      cases unread
  cases found : role.rule? (before ++ (key, document) :: after) with
  | none => exact Role.agrees_of_unruled found (ruled ▸ found) plain notLiteral (Or.inr (by simp))
  | some rule =>
    refine Role.agrees_of_fields found (ruled ▸ found) json otherJson (hasStray_eq_of_keys (by simp))
      fun field known => ?_
    have differs : key ≠ .string field.name := by
      rintro rfl
      rw [Role.entryRole?_eq_some found known] at unread
      cases unread
    rw [Field.verdict_congr ((find?_append_cons_of_ne differs before after document).trans
      (find?_append_cons_of_ne differs before after other).symm)]
    exact .refl _

/-- An edit changes nothing in what a document comes to. -/
theorem agrees (edit : Edit role document other) (json : document.isJson = true) :
    (role.verdict document).Agrees (role.verdict other) := by
  induction edit with
  | reorder unordered reordered => exact agrees_reorder unordered reordered json
  | drop strict found known optional missing => exact agrees_drop strict found known optional missing json
  | @item role inner before after document other found edit ih =>
    have each := (isJson_list.mp json) document (List.mem_append_right _ (List.mem_cons_self ..))
    obtain ⟨make, equation⟩ := Role.verdict_list found
    rw [equation, equation]
    exact (agrees_mapM_append_cons inner.verdict (ih each) before after).map make
  | entry found edit ih => exact agrees_entry found edit (ih (isJson_mapping_append_cons.mp json).2.2.1) json
  | ignored ignored inside otherInside =>
    exact agrees_ignored ignored json ((Edit.ignored ignored inside otherInside).isJson_iff.mp json)

end Document.Edit

/-- Edits in any number keep what a document comes to. -/
theorem Document.agrees_of_eqvGen {document other : Document} (edited : Relation.EqvGen (Edit role) document other) :
    (document.isJson = true ↔ other.isJson = true) ∧
      (document.isJson = true → (role.verdict document).Agrees (role.verdict other)) := by
  induction edited with
  | rel _ _ edit => exact ⟨edit.isJson_iff, edit.agrees⟩
  | refl _ => exact ⟨Iff.rfl, fun _ => .refl _⟩
  | symm _ _ _ ih =>
    obtain ⟨same, agrees⟩ := ih
    exact ⟨same.symm, fun json next result => (agrees (same.mpr json) next result).symm⟩
  | trans _ _ _ _ _ ih otherIh =>
    obtain ⟨same, agrees⟩ := ih
    obtain ⟨otherSame, otherAgrees⟩ := otherIh
    exact ⟨same.trans otherSame, fun json next result =>
      (agrees json next result).trans (otherAgrees (same.mp json) next result)⟩

/-- Documents that differ in what does not count are the same program, or both are none. -/
theorem programOfDocument_eq_ok_iff_of_edited {document other : Document}
    (edited : Relation.EqvGen (Document.Edit .program) document other) (json : document.isJson = true)
    (next : Nat) (result : List Node × Nat) :
    programOfDocument document next = .ok result ↔ programOfDocument other next = .ok result := by
  have agrees := (Document.agrees_of_eqvGen edited).2 json next result
  simpa only [Role.verdict, Role.read, Document.reading_document, Load.verdict_eq_ok] using agrees

/-- A function without its null name, and with the properties of its parameter's type in another order, is the
same function. -/
theorem programOfDocument_eq_ok_function :
    let text (name : String) : Document := .scalar (.string name)
    let typed (properties : List (Scalar × Document)) : Document :=
      .list [.mapping [(.string "object", .mapping properties)]]
    let function (types : Document) (fields : List (Scalar × Document)) : Document :=
      .list [.mapping ([(.string "node", text "FunctionLiteral"), (.string "params", .list [text "point"]),
        (.string "param_types", types)] ++ fields)]
    let written := function (typed [(.string "y", text "string"), (.string "x", text "number")])
      [(.string "name", .scalar .null), (.string "body", .list [])]
    let rewritten := function (typed [(.string "x", text "number"), (.string "y", text "string")])
      [(.string "body", .list [])]
    written.isJson = true ∧ Relation.EqvGen (Document.Edit .program) written rewritten ∧
      ∃ result, programOfDocument written 0 = .ok result ∧ programOfDocument rewritten 0 = .ok result := by
  intro text typed function written rewritten
  have json : written.isJson = true := by decide
  have dropped : Document.Edit .program written
      (function (typed [(.string "y", text "string"), (.string "x", text "number")]) [(.string "body", .list [])]) :=
    @Document.Edit.item .program .node [] [] _ _ rfl
      (@Document.Edit.drop .node [_, _, _] [_] _ (.nullable "name" .text) rfl rfl (List.mem_cons_self ..) rfl rfl)
  have reordered : Document.Edit .program
      (function (typed [(.string "y", text "string"), (.string "x", text "number")]) [(.string "body", .list [])])
      rewritten :=
    @Document.Edit.item .program .node [] [] _ _ rfl
      (@Document.Edit.entry .node .types [_, _] [_] _ _ _ rfl
        (@Document.Edit.item .types .type [] [] _ _ rfl
          (@Document.Edit.entry .type .properties [] [] _ _ _ rfl (.reorder rfl (.swap _ _ _)))))
  have edited := Relation.EqvGen.trans _ _ _ (.rel _ _ dropped) (.rel _ _ reordered)
  refine ⟨json, edited, _, rfl, ?_⟩
  exact (programOfDocument_eq_ok_iff_of_edited edited json 0 _).mp rfl

end TreeScript
