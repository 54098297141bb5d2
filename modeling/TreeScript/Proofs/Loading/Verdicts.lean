import TreeScript.Program.Load

/-! # What loading comes to

Loading a document gives a result, complains about the document, or breaks. The wording of complaints
does not matter for which of the three it is, so a verdict leaves it out. Verdicts are followed from
the parts of a reading to the whole: what breaks nothing, what gives a result, and what agrees with
another verdict on every result.
-/

namespace TreeScript

variable {α β : Type}

/-- What loading comes to: a result, a complaint, or the breakdown of a reading. -/
abbrev Verdict := StateT Nat (Except (Option Breakdown))

namespace Verdict

/-- A complaint, whatever its wording. -/
def refusal : Verdict α := throw none

def breakdown (cause : Breakdown) : Verdict α := throw (some cause)

end Verdict

/-- The breakdown behind an error; a complaint has none. -/
def LoadError.breakdown? : LoadError → Option Breakdown
  | malformed _ => none
  | broken cause => some cause

namespace Load

def verdict (load : Load α) : Verdict α := fun next => (load next).mapError LoadError.breakdown?

@[simp] theorem verdict_pure (result : α) : (pure result : Load α).verdict = pure result := rfl

@[simp] theorem verdict_bind (load : Load α) (next : α → Load β) :
    (load >>= next).verdict = load.verdict >>= fun result => (next result).verdict := by
  funext count
  change Except.mapError _ (load count >>= fun pair => next pair.1 pair.2) =
    Except.mapError _ (load count) >>= fun pair => (next pair.1).verdict pair.2
  cases load count <;> rfl

@[simp] theorem verdict_map (change : α → β) (load : Load α) :
    (change <$> load).verdict = change <$> load.verdict := by
  simp only [map_eq_pure_bind, verdict_bind, verdict_pure]

@[simp] theorem verdict_malformed (cause : Malformed) :
    (malformed cause : Load α).verdict = Verdict.refusal := rfl

@[simp] theorem verdict_broken (cause : Breakdown) :
    (broken cause : Load α).verdict = Verdict.breakdown cause := rfl

theorem verdict_mapM (load : α → Load β) (items : List α) :
    (items.mapM load).verdict = items.mapM fun item => (load item).verdict := by
  induction items with
  | nil => rfl
  | cons item rest ih => simp only [List.mapM_cons, verdict_bind, verdict_pure, ih]

/-- Results are results whatever complaints say. -/
theorem verdict_eq_ok {load : Load α} {next : Nat} {result : α × Nat} :
    load.verdict next = .ok result ↔ load next = .ok result := by
  unfold verdict
  cases load next with
  | ok found => exact ⟨fun same => congrArg _ (Except.ok.inj same), fun same => congrArg _ (Except.ok.inj same)⟩
  | error error => exact ⟨fun same => (nomatch same), fun same => (nomatch same)⟩

theorem verdict_eq_breakdown {load : Load α} {next : Nat} {cause : Breakdown} :
    load.verdict next = .error (some cause) ↔ load next = .error (.broken cause) := by
  unfold verdict
  cases load next with
  | ok result => exact ⟨fun same => (nomatch same), fun same => (nomatch same)⟩
  | error error =>
    cases error with
    | malformed complaint => exact ⟨fun same => (nomatch same), fun same => (nomatch same)⟩
    | broken found =>
      exact ⟨fun same => congrArg _ (congrArg _ (Option.some.inj (Except.error.inj same))),
        fun same => congrArg _ (congrArg _ (LoadError.broken.inj (Except.error.inj same)))⟩

end Load

/-! ## Steady verdicts -/

namespace Verdict

variable {verdict : Verdict α}

/-- Nothing breaks, from whatever number on symbols are numbered. -/
def IsSteady (verdict : Verdict α) : Prop := ∀ next cause, verdict next ≠ .error (some cause)

/-- The verdict is a result, from some number of symbols on. -/
def Gives (verdict : Verdict α) (result : α) : Prop := ∃ next later, verdict next = .ok (result, later)

theorem bind_apply (verdict : Verdict α) (continuation : α → Verdict β) (next : Nat) :
    (verdict >>= continuation) next =
      match verdict next with
      | .ok (result, later) => continuation result later
      | .error cause => .error cause := by
  change (verdict next >>= fun pair => continuation pair.1 pair.2) = _
  cases verdict next <;> rfl

theorem isSteady_pure (result : α) : (pure result : Verdict α).IsSteady := by
  intro next cause broken
  cases broken

theorem isSteady_refusal : (refusal : Verdict α).IsSteady := by
  intro next cause broken
  cases broken

variable {continuation : α → Verdict β}

theorem IsSteady.bind (steady : verdict.IsSteady)
    (rest : ∀ result, verdict.Gives result → (continuation result).IsSteady) :
    (verdict >>= continuation).IsSteady := by
  intro next cause broken
  rw [bind_apply] at broken
  cases first : verdict next with
  | ok pair =>
    rw [first] at broken
    exact rest pair.1 ⟨next, pair.2, first⟩ pair.2 cause broken
  | error other =>
    rw [first] at broken
    cases broken
    exact steady next cause first

theorem IsSteady.map (steady : verdict.IsSteady) (change : α → β) : (change <$> verdict).IsSteady := by
  rw [map_eq_pure_bind]
  exact steady.bind fun result _ => isSteady_pure _

theorem isSteady_mapM {read : α → Verdict β} {items : List α} (each : ∀ item ∈ items, (read item).IsSteady) :
    (items.mapM read).IsSteady := by
  induction items with
  | nil => exact isSteady_pure []
  | cons item rest ih =>
    obtain ⟨first, others⟩ := List.forall_mem_cons.mp each
    rw [List.mapM_cons]
    exact first.bind fun _ _ => (ih others).bind fun _ _ => isSteady_pure _

theorem Gives.of_pure {result given : α} (gives : (pure given : Verdict α).Gives result) : given = result := by
  obtain ⟨next, later, same⟩ := gives
  cases same
  rfl

theorem not_gives_refusal (result : α) : ¬(refusal : Verdict α).Gives result := by
  rintro ⟨next, later, same⟩
  cases same

theorem not_gives_breakdown (cause : Breakdown) (result : α) : ¬(breakdown cause : Verdict α).Gives result := by
  rintro ⟨next, later, same⟩
  cases same

theorem bind_eq_ok {next : Nat} {result : β × Nat} :
    (verdict >>= continuation) next = .ok result ↔
      ∃ middle, verdict next = .ok middle ∧ continuation middle.1 middle.2 = .ok result := by
  rw [bind_apply]
  cases verdict next <;> simp

theorem Gives.of_bind {result : β} (gives : (verdict >>= continuation).Gives result) :
    ∃ middle, verdict.Gives middle ∧ (continuation middle).Gives result := by
  obtain ⟨next, later, done⟩ := gives
  obtain ⟨middle, first, rest⟩ := bind_eq_ok.mp done
  exact ⟨middle.1, ⟨next, middle.2, first⟩, middle.2, later, rest⟩

theorem Gives.of_map {change : α → β} {result : β} (gives : (change <$> verdict).Gives result) :
    ∃ middle, verdict.Gives middle ∧ change middle = result := by
  rw [map_eq_pure_bind] at gives
  obtain ⟨middle, given, same⟩ := gives.of_bind
  exact ⟨middle, given, same.of_pure⟩

theorem Gives.of_mapM {read : α → Verdict β} {items : List α} {results : List β}
    (gives : (items.mapM read).Gives results) : ∀ item ∈ items, ∃ result, (read item).Gives result := by
  induction items generalizing results with
  | nil => exact List.forall_mem_nil _
  | cons item rest ih =>
    rw [List.mapM_cons] at gives
    obtain ⟨first, given, gives⟩ := gives.of_bind
    obtain ⟨others, givenRest, _⟩ := gives.of_bind
    exact List.forall_mem_cons.mpr ⟨⟨first, given⟩, ih givenRest⟩

/-- Two verdicts come to the same results. -/
def Agrees (verdict other : Verdict α) : Prop :=
  ∀ next result, verdict next = .ok result ↔ other next = .ok result

variable {other : Verdict α}

theorem Agrees.refl (verdict : Verdict α) : verdict.Agrees verdict := fun _ _ => Iff.rfl

theorem Agrees.bind {continuation another : α → Verdict β} (first : verdict.Agrees other)
    (rest : ∀ result, (continuation result).Agrees (another result)) :
    (verdict >>= continuation).Agrees (other >>= another) := by
  intro next result
  simp only [bind_eq_ok, first next _, rest _ _ _]

theorem Agrees.map (agrees : verdict.Agrees other) (change : α → β) :
    (change <$> verdict).Agrees (change <$> other) := by
  simp only [map_eq_pure_bind]
  exact agrees.bind fun _ => .refl _

/-- One item can be read instead of another. -/
theorem agrees_mapM_append_cons (read : α → Verdict β) {item another : α}
    (agrees : (read item).Agrees (read another)) (before after : List α) :
    ((before ++ item :: after).mapM read).Agrees ((before ++ another :: after).mapM read) := by
  simp only [List.mapM_append, List.mapM_cons]
  exact (Agrees.refl _).bind fun _ => (agrees.bind fun _ => .refl _).bind fun _ => .refl _

theorem agrees_of_not_gives (never : ∀ result, ¬verdict.Gives result) (neverOther : ∀ result, ¬other.Gives result) :
    verdict.Agrees other := by
  intro next result
  constructor
  · exact fun done => absurd ⟨next, result.2, done⟩ (never result.1)
  · exact fun done => absurd ⟨next, result.2, done⟩ (neverOther result.1)

end Verdict

end TreeScript
