import TreeScript.Proofs.Loading.Verdicts

/-! # Documents whose keys are texts

The mappings of a JSON document have distinct texts as keys. An entry is then what is found under its
key, in whatever order the entries stand, and entries that are not wanted can be named in a complaint.
-/

namespace TreeScript

/-! ## The parts of a document -/

namespace Document

@[simp] theorem reading_document (document : Document) : document.reading.document = document := by
  cases document <;> rfl

theorem readingsOfAll_eq (items : List Document) : readingsOfAll items = items.map reading := by
  induction items with
  | nil => rfl
  | cons item rest ih => rw [readingsOfAll, ih, List.map_cons]

theorem readingsOfEntries_eq (entries : List (Scalar × Document)) :
    readingsOfEntries entries = entries.map fun entry => (entry.1, entry.2.reading) := by
  induction entries with
  | nil => rfl
  | cons entry rest ih => rw [readingsOfEntries, ih, List.map_cons]

theorem find?_cons (key : Scalar) (document : Document) (rest : List (Scalar × Document)) (name : String) :
    find? ((key, document) :: rest) name = if key = .string name then some document else find? rest name := by
  by_cases named : key = .string name <;> simp [find?, named]

theorem get?_readingsOfEntries (entries : List (Scalar × Document)) (name : String) :
    (readingsOfEntries entries).get? name = (find? entries name).map reading := by
  rw [Fields.get?, find?, readingsOfEntries_eq, List.find?_map, Option.map_map, Option.map_map]
  rfl

end Document

/-! ## Keys that are texts -/

namespace Scalar

def isText : Scalar → Bool
  | string _ => true
  | _ => false

theorem eq_string_of_isText {scalar : Scalar} (text : scalar.isText = true) : ∃ name, scalar = string name := by
  cases scalar <;> simp [isText] at text ⊢

/-- Texts can be put in order. -/
theorem insertDescending_texts {scalar : Scalar} {sorted : List Scalar} (text : scalar.isText = true)
    (texts : ∀ other ∈ sorted, other.isText = true) :
    ∃ result, scalar.insertDescending sorted = .ok result ∧ ∀ other ∈ result, other.isText = true := by
  induction sorted with
  | nil =>
    refine ⟨[scalar], rfl, ?_⟩
    simpa using text
  | cons last rest ih =>
    obtain ⟨textLast, textRest⟩ := List.forall_mem_cons.mp texts
    obtain ⟨result, inserted, textResult⟩ := ih textRest
    obtain ⟨name, rfl⟩ := eq_string_of_isText text
    obtain ⟨other, rfl⟩ := eq_string_of_isText textLast
    by_cases before : name < other
    · refine ⟨string other :: result, ?_, List.forall_mem_cons.mpr ⟨rfl, textResult⟩⟩
      simp [insertDescending, Scalar.before, before, inserted, bind, Except.bind, pure, Except.pure]
    · refine ⟨string name :: string other :: rest, ?_, List.forall_mem_cons.mpr ⟨rfl, texts⟩⟩
      simp [insertDescending, Scalar.before, before, bind, Except.bind, pure, Except.pure]

theorem sort_texts {scalars : List Scalar} (texts : ∀ scalar ∈ scalars, scalar.isText = true) :
    ∃ result, sort scalars = .ok result ∧ ∀ other ∈ result, other.isText = true := by
  have fold (sorted : List Scalar) (sortedTexts : ∀ other ∈ sorted, other.isText = true) :
      ∃ result, scalars.foldlM (fun sorted scalar => scalar.insertDescending sorted) sorted = .ok result ∧
        ∀ other ∈ result, other.isText = true := by
    induction scalars generalizing sorted with
    | nil => exact ⟨sorted, rfl, sortedTexts⟩
    | cons scalar rest ih =>
      obtain ⟨text, textRest⟩ := List.forall_mem_cons.mp texts
      obtain ⟨next, inserted, nextTexts⟩ := insertDescending_texts text sortedTexts
      obtain ⟨result, folded, resultTexts⟩ := ih textRest next nextTexts
      refine ⟨result, ?_, resultTexts⟩
      rw [List.foldlM_cons, inserted]
      exact folded
  obtain ⟨result, folded, resultTexts⟩ := fold [] (List.forall_mem_nil _)
  refine ⟨result.reverse, ?_, fun other member => resultTexts other (List.mem_reverse.mp member)⟩
  rw [sort, folded]
  rfl

/-- Texts can be named in a message. -/
theorem namesInOrder_texts {scalars : List Scalar} (texts : ∀ scalar ∈ scalars, scalar.isText = true) :
    ∃ names, namesInOrder scalars = .ok names := by
  obtain ⟨sorted, inOrder, sortedTexts⟩ := sort_texts texts
  have named (scalars : List Scalar) (texts : ∀ scalar ∈ scalars, scalar.isText = true) :
      ∃ names, scalars.mapM (fun
        | string text => Except.ok text
        | other => .error (Breakdown.unnamedField other.kindName)) = .ok names := by
    induction scalars with
    | nil => exact ⟨[], rfl⟩
    | cons scalar rest ih =>
      obtain ⟨text, textRest⟩ := List.forall_mem_cons.mp texts
      obtain ⟨name, rfl⟩ := eq_string_of_isText text
      obtain ⟨names, found⟩ := ih textRest
      refine ⟨name :: names, ?_⟩
      rw [List.mapM_cons, found]
      rfl
  obtain ⟨names, found⟩ := named sorted sortedTexts
  refine ⟨names, ?_⟩
  rw [namesInOrder, inOrder]
  exact found

end Scalar

/-- Whether there is an entry beside `node` and the given ones. -/
def hasStray (known : List String) (entries : List (Scalar × Document)) : Bool :=
  entries.any fun entry => !("node" :: known).any fun name => entry.1 == .string name

variable {entries : List (Scalar × Document)}

/-- Unknown fields are refused, provided that they can be named. -/
theorem verdict_only (texts : ∀ entry ∈ entries, entry.1.isText = true) (kind : String) (known : List String) :
    ((readingsOfEntries entries).only kind known).verdict =
      if hasStray known entries then Verdict.refusal else return () := by
  have keys : (readingsOfEntries entries).map (·.1) = entries.map (·.1) := by
    rw [Document.readingsOfEntries_eq, List.map_map]
    rfl
  have empty : ((entries.map (·.1)).filter fun key =>
      !("node" :: known).any fun name => key == .string name).isEmpty = !hasStray known entries := by
    rw [hasStray, Bool.eq_iff_iff]
    simp [List.filter_eq_nil_iff]
  unfold Fields.only
  rw [keys]
  simp only [empty]
  cases hasStray known entries with
  | false => rfl
  | true =>
    have strays : ∀ key ∈ (entries.map (·.1)).filter fun key =>
        !("node" :: known).any fun name => key == .string name, key.isText = true := by
      intro key member
      obtain ⟨entry, inside, rfl⟩ := List.mem_map.mp (List.mem_filter.mp member).1
      exact texts entry inside
    obtain ⟨names, found⟩ := Scalar.namesInOrder_texts strays
    simp only [found]
    rfl

/-! ## Documents with text keys -/

/-- The scalars of JSON documents. -/
def Scalar.isJson : Scalar → Bool
  | date _ | moment _ => false
  | _ => true

namespace Document

mutual

/-- A JSON document has neither dates nor moments, and the keys of its mappings are distinct texts. -/
def isJson : Document → Bool
  | scalar value => value.isJson
  | list items => allJson items
  | mapping entries => decide (entries.map (·.1)).Nodup && entriesJson entries

def allJson : List Document → Bool
  | [] => true
  | document :: rest => document.isJson && allJson rest

def entriesJson : List (Scalar × Document) → Bool
  | [] => true
  | (key, document) :: rest => key.isText && document.isJson && entriesJson rest

end

theorem isJson_list {items : List Document} :
    (list items).isJson = true ↔ ∀ item ∈ items, item.isJson = true := by
  rw [isJson]
  induction items with
  | nil => simp [allJson]
  | cons item rest ih => simp [allJson, ih]

theorem isJson_mapping :
    (mapping entries).isJson = true ↔ (entries.map (·.1)).Nodup ∧
      ∀ entry ∈ entries, entry.1.isText = true ∧ entry.2.isJson = true := by
  have each : entriesJson entries = true ↔
      ∀ entry ∈ entries, entry.1.isText = true ∧ entry.2.isJson = true := by
    induction entries with
    | nil => simp [entriesJson]
    | cons entry rest ih =>
      rw [entriesJson, Bool.and_eq_true, Bool.and_eq_true, ih, List.forall_mem_cons]
  rw [isJson, Bool.and_eq_true, decide_eq_true_iff, each]

theorem inductOn {motive : Document → Prop} (scalar : ∀ value, motive (scalar value))
    (list : ∀ items, (∀ item ∈ items, motive item) → motive (list items))
    (mapping : ∀ entries, (∀ entry ∈ entries, motive (Prod.snd entry)) → motive (mapping entries))
    (document : Document) : motive document :=
  @Document.rec motive (fun items => ∀ item ∈ items, motive item)
    (fun entries => ∀ entry ∈ entries, motive (Prod.snd entry)) (fun entry => motive entry.2)
    scalar list mapping (fun _ member => absurd member List.not_mem_nil)
    (fun _ _ first later => List.forall_mem_cons.mpr ⟨first, later⟩)
    (fun _ member => absurd member List.not_mem_nil)
    (fun _ _ first later => List.forall_mem_cons.mpr ⟨first, later⟩)
    (fun _ _ held => held) document

/-- With distinct keys, an entry is what is found under its key. -/
theorem find?_eq_some_of_mem (distinct : (entries.map (·.1)).Nodup) {name : String} {document : Document}
    (member : (.string name, document) ∈ entries) : find? entries name = some document := by
  induction entries with
  | nil => cases member
  | cons entry rest ih =>
    obtain ⟨key, first⟩ := entry
    obtain ⟨absent, distinct⟩ := List.nodup_cons.mp distinct
    rw [find?_cons]
    rcases List.mem_cons.mp member with same | later
    · cases same
      rw [if_pos rfl]
    · have differs : key ≠ .string name := fun same =>
        absent (List.mem_map.mpr ⟨(.string name, document), later, same.symm⟩)
      rw [if_neg differs]
      exact ih distinct later

theorem mem_of_find?_eq_some {name : String} {document : Document}
    (found : find? entries name = some document) : (.string name, document) ∈ entries := by
  obtain ⟨⟨key, first⟩, atName, rfl⟩ := Option.map_eq_some_iff.mp found
  have named : key = .string name := by simpa using List.find?_some atName
  exact named ▸ List.mem_of_find?_eq_some atName

end Document

end TreeScript
