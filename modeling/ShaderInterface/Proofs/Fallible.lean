import Mathlib.Data.List.Basic

set_option autoImplicit false

namespace ShaderInterface.Fallible

variable {α ε σ β γ δ τ : Type}

theorem bind_eq_ok_iff {first : Except ε α} {next : α → Except ε β} {value : β} :
    (first >>= next) = .ok value ↔ ∃ middle, first = .ok middle ∧ next middle = .ok value := by
  cases first <;> simp [Bind.bind, Except.bind]

theorem bind_eq_error_iff {first : Except ε α} {next : α → Except ε β} {reason : ε} :
    (first >>= next) = .error reason ↔
      first = .error reason ∨ ∃ middle, first = .ok middle ∧ next middle = .error reason := by
  cases first <;> simp [Bind.bind, Except.bind]

theorem map_eq_ok_iff {result : Except ε α} {f : α → β} {value : β} :
    result.map f = .ok value ↔ ∃ inside, result = .ok inside ∧ f inside = value := by
  cases result <;> simp [Except.map]

theorem map_eq_error_iff {result : Except ε α} {f : α → β} {reason : ε} :
    result.map f = .error reason ↔ result = .error reason := by
  cases result <;> simp [Except.map]

theorem mapError_eq_ok_iff {reasons : Type} {result : Except ε α} {f : ε → reasons} {value : α} :
    result.mapError f = .ok value ↔ result = .ok value := by
  cases result <;> simp [Except.mapError]

theorem eq_ok_of_toOption {result : Except ε α} {value : α}
    (answered : result.toOption = some value) : result = .ok value := by
  cases result with
  | error reason => cases answered
  | ok inside => exact congrArg Except.ok (Option.some.inj answered)

/-- A run that succeeds keeps what each step keeps, and reaches what each step reaches for its
item, provided that no later step loses it. -/
theorem foldlM_ok {step : σ → α → Except ε σ} {Keeps : σ → Prop} {Reaches : α → σ → Prop}
    {items : List α} {start last : σ}
    (effect : ∀ item ∈ items, ∀ before after, Keeps before → step before item = .ok after →
      Keeps after ∧ Reaches item after ∧ ∀ other, Reaches other before → Reaches other after)
    (kept : Keeps start) (success : items.foldlM step start = .ok last) :
    Keeps last ∧ (∀ item ∈ items, Reaches item last) ∧
      ∀ other, Reaches other start → Reaches other last := by
  induction items generalizing start with
  | nil =>
    cases success
    exact ⟨kept, by simp, fun _ reached => reached⟩
  | cons item rest ih =>
    rw [List.foldlM_cons] at success
    obtain ⟨middle, first, onward⟩ := bind_eq_ok_iff.1 success
    obtain ⟨keptMiddle, reached, monotone⟩ := effect item (by simp) start middle kept first
    obtain ⟨keptLast, reachedRest, monotoneRest⟩ :=
      ih (fun other member => effect other (List.mem_cons_of_mem _ member)) keptMiddle onward
    refine ⟨keptLast, ?_, fun other before => monotoneRest other (monotone other before)⟩
    intro other member
    rcases List.mem_cons.1 member with rfl | later
    · exact monotoneRest other reached
    · exact reachedRest other later

/-- A run that fails does so at one of the items. -/
theorem foldlM_error {step : σ → α → Except ε σ} {items : List α} {start : σ} {reason : ε}
    (failed : items.foldlM step start = .error reason) :
    ∃ item ∈ items, ∃ before, step before item = .error reason := by
  induction items generalizing start with
  | nil => cases failed
  | cons item rest ih =>
    rw [List.foldlM_cons] at failed
    rcases bind_eq_error_iff.1 failed with here | ⟨middle, -, later⟩
    · exact ⟨item, by simp, start, here⟩
    · obtain ⟨other, member, before, there⟩ := ih later
      exact ⟨other, List.mem_cons_of_mem _ member, before, there⟩

theorem forM_eq_ok_iff {check : α → Except ε Unit} {items : List α} :
    items.forM check = .ok () ↔ ∀ item ∈ items, check item = .ok () := by
  induction items with
  | nil => simp [pure, Except.pure]
  | cons item rest ih =>
    rw [List.forM, bind_eq_ok_iff, List.forall_mem_cons, ← ih]
    constructor
    · rintro ⟨⟨⟩, here, there⟩
      exact ⟨here, there⟩
    · rintro ⟨here, there⟩
      exact ⟨(), here, there⟩

/-- A list is mapped without failure exactly when each of its items is. -/
theorem mapM_succeeds_iff {f : α → Except ε β} {items : List α} :
    (∃ values, items.mapM f = .ok values) ↔ ∀ item ∈ items, ∃ value, f item = .ok value := by
  induction items with
  | nil => simp [pure, Except.pure]
  | cons item rest ih =>
    rw [List.forall_mem_cons, ← ih]
    simp only [List.mapM_cons, bind_eq_ok_iff]
    constructor
    · rintro ⟨_, value, here, values, there, -⟩
      exact ⟨⟨value, here⟩, values, there⟩
    · rintro ⟨⟨value, here⟩, values, there⟩
      exact ⟨value :: values, value, here, values, there, rfl⟩

theorem mapM_ok {f : α → Except ε β} {items : List α} {values : List β}
    (success : items.mapM f = .ok values) :
    List.Forall₂ (fun item value => f item = .ok value) items values := by
  induction items generalizing values with
  | nil =>
    cases success
    exact .nil
  | cons item rest ih =>
    rw [List.mapM_cons, bind_eq_ok_iff] at success
    obtain ⟨value, here, onward⟩ := success
    obtain ⟨others, there, same⟩ := bind_eq_ok_iff.1 onward
    cases same
    exact .cons here (ih there)

/-- What is made of each item is told of all that is made. -/
theorem forall_of_mapM {f : α → Except ε β} {items : List α} {values : List β} {P : β → Prop}
    (success : items.mapM f = .ok values)
    (each : ∀ item ∈ items, ∀ value, f item = .ok value → P value) : ∀ value ∈ values, P value := by
  have made := mapM_ok success
  clear success
  induction made with
  | nil => exact nofun
  | cons here _ ih =>
    obtain ⟨first, later⟩ := List.forall_mem_cons.1 each
    exact List.forall_mem_cons.2 ⟨first _ here, ih later⟩

/-- The first item of the one sort behind items of the other is in front, or comes in the rest. -/
theorem exists_first_cons {passes fails : α → Prop} {first : α} {rest : List α} :
    (∃ before item after, first :: rest = before ++ item :: after ∧
      (∀ earlier ∈ before, passes earlier) ∧ fails item) ↔
    fails first ∨ passes first ∧ ∃ before item after, rest = before ++ item :: after ∧
      (∀ earlier ∈ before, passes earlier) ∧ fails item := by
  constructor
  · rintro ⟨before, item, after, same, earlier, failed⟩
    cases before with
    | nil =>
      obtain ⟨rfl, rfl⟩ := List.cons.inj same
      exact .inl failed
    | cons other before =>
      obtain ⟨rfl, rfl⟩ := List.cons.inj same
      obtain ⟨passed, earlier⟩ := List.forall_mem_cons.1 earlier
      exact .inr ⟨passed, before, item, after, rfl, earlier, failed⟩
  · rintro (here | ⟨passed, before, item, after, rfl, earlier, failed⟩)
    · exact ⟨[], first, rest, rfl, nofun, here⟩
    · exact ⟨first :: before, item, after, rfl, List.forall_mem_cons.2 ⟨passed, earlier⟩, failed⟩

/-- Checks along a list fail at the first item that does not pass. -/
theorem forM_eq_error_iff {check : α → Except ε Unit} {items : List α} {reason : ε} :
    items.forM check = .error reason ↔ ∃ before item after, items = before ++ item :: after ∧
      (∀ earlier ∈ before, check earlier = .ok ()) ∧ check item = .error reason := by
  induction items with
  | nil => simp [pure, Except.pure]
  | cons first rest ih =>
    rw [List.forM, bind_eq_error_iff, ih, exists_first_cons]
    simp only [Unique.exists_iff, PUnit.default_eq_unit]

/-- A list is mapped up to the first item for which that fails. -/
theorem mapM_eq_error_iff {f : α → Except ε β} {items : List α} {reason : ε} :
    items.mapM f = .error reason ↔ ∃ before item after, items = before ++ item :: after ∧
      (∀ earlier ∈ before, ∃ value, f earlier = .ok value) ∧ f item = .error reason := by
  induction items with
  | nil => simp [pure, Except.pure]
  | cons first rest ih =>
    have kept (values : List β) (value : β) :
        (pure (value :: values) : Except ε (List β)) ≠ .error reason := nofun
    rw [List.mapM_cons, exists_first_cons]
    simp only [bind_eq_error_iff, ih, kept, and_false, exists_false, or_false, exists_and_right]

/-- Whenever it fails, the reason is of the sort. -/
def FailsAs (sort : ε → Prop) (result : Except ε α) : Prop :=
  ∀ reason, result = .error reason → sort reason

namespace FailsAs

variable {sort : ε → Prop} {result : Except ε α} {items : List α}

theorem ok (value : α) : FailsAs sort (.ok value) := nofun

theorem error {reason : ε} (here : sort reason) : FailsAs sort (.error reason : Except ε α) := by
  rintro _ ⟨⟩
  exact here

theorem bind {next : α → Except ε β} (here : FailsAs sort result)
    (onward : ∀ value, FailsAs sort (next value)) : FailsAs sort (result.bind next) := by
  intro reason failed
  rcases bind_eq_error_iff.1 failed with first | ⟨value, -, second⟩
  · exact here reason first
  · exact onward value reason second

theorem map {f : α → β} (here : FailsAs sort result) : FailsAs sort (result.map f) :=
  fun reason failed => here reason (map_eq_error_iff.1 failed)

theorem mapM {f : α → Except ε β} (each : ∀ item, FailsAs sort (f item)) :
    FailsAs sort (items.mapM f) := by
  intro reason failed
  obtain ⟨-, item, -, -, -, here⟩ := mapM_eq_error_iff.1 failed
  exact each item reason here

end FailsAs

/-- Both fail for the same reason, or both succeed with related values. -/
inductive Agree (R : α → β → Prop) : Except ε α → Except ε β → Prop where
  | failed (reason : ε) : Agree R (.error reason) (.error reason)
  | succeeded {value : α} {other : β} (related : R value other) : Agree R (.ok value) (.ok other)

theorem Agree.bind {R : α → β → Prop} {S : γ → δ → Prop} {first : Except ε α}
    {second : Except ε β} {next : α → Except ε γ} {after : β → Except ε δ}
    (agree : Agree R first second)
    (onward : ∀ value other, R value other → Agree S (next value) (after other)) :
    Agree S (first.bind next) (second.bind after) := by
  cases agree with
  | failed reason => exact .failed reason
  | succeeded related => exact onward _ _ related

theorem Agree.map {R : α → β → Prop} {S : γ → δ → Prop} {first : Except ε α}
    {second : Except ε β} {f : α → γ} {g : β → δ} (agree : Agree R first second)
    (onward : ∀ value other, R value other → S (f value) (g other)) :
    Agree S (first.map f) (second.map g) := by
  cases agree with
  | failed reason => exact .failed reason
  | succeeded related => exact .succeeded (onward _ _ related)

/-- Two runs along a list agree when their steps do. -/
theorem Agree.foldlM {R : σ → τ → Prop} {step : σ → α → Except ε σ} {pace : τ → α → Except ε τ}
    {items : List α} {start : σ} {other : τ}
    (each : ∀ item ∈ items, ∀ before behind, R before behind →
      Agree R (step before item) (pace behind item))
    (related : R start other) :
    Agree R (items.foldlM step start) (items.foldlM pace other) := by
  induction items generalizing start other with
  | nil => exact .succeeded related
  | cons item rest ih =>
    rw [List.foldlM_cons, List.foldlM_cons]
    apply Agree.bind (each item (by simp) start other related)
    intro before behind middle
    exact ih (fun later member => each later (List.mem_cons_of_mem _ member)) middle

end ShaderInterface.Fallible
