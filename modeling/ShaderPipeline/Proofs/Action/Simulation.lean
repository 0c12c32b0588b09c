import ShaderPipeline.Proofs.Action.Frame

/-!
# Actions that go alike

Two actions go alike if related states lead them to related answers and again to
related states.  The rules follow the ways in which actions are put together.
-/

namespace ShaderPipeline.Action

variable {σ τ α β γ δ : Type}

/-- From states that `related` relates, the actions answer as `answers` says and
end in related states. -/
def Simulates (related : σ → τ → Prop) (answers : α → β → Prop) (first : Action σ α)
    (second : Action τ β) : Prop :=
  ∀ left right, related left right →
    answers (first.run left).value (second.run right).value ∧
      related (first.run left).state (second.run right).state

variable {related : σ → τ → Prop}

theorem simulates_pure {answers : α → β → Prop} {left : α} {right : β}
    (alike : answers left right) :
    Simulates related answers (pure left : Action σ α) (pure right : Action τ β) :=
  fun _ _ start => ⟨alike, start⟩

theorem simulates_bind {answers : α → β → Prop} {results : γ → δ → Prop}
    {first : Action σ α} {second : Action τ β} {next : α → Action σ γ} {next' : β → Action τ δ}
    (before : Simulates related answers first second)
    (after : ∀ left right, answers left right →
      Simulates related results (next left) (next' right)) :
    Simulates related results (first >>= next) (second >>= next') := by
  intro left right start
  obtain ⟨answered, middle⟩ := before left right start
  exact after _ _ answered _ _ middle

/-- States that become related by a first action. -/
theorem simulates_after {results : γ → δ → Prop} {first : Action σ α} {second : Action τ β}
    {next : α → Action σ γ} {next' : β → Action τ δ} {left : σ} {right : τ}
    (middle : related (first.run left).state (second.run right).state)
    (after : Simulates related results (next (first.run left).value)
      (next' (second.run right).value)) :
    results ((first >>= next).run left).value ((second >>= next').run right).value ∧
      related ((first >>= next).run left).state ((second >>= next').run right).state :=
  after _ _ middle

theorem simulates_read {answers : α → β → Prop} {look : σ → α} {look' : τ → β}
    (alike : ∀ left right, related left right → answers (look left) (look' right)) :
    Simulates related answers (read look) (read look') :=
  fun left right start => ⟨alike left right start, start⟩

theorem simulates_get :
    Simulates related related (get : Action σ σ) (get : Action τ τ) :=
  fun _ _ start => ⟨start, start⟩

theorem simulates_modify {change : σ → σ} {change' : τ → τ}
    (alike : ∀ left right, related left right → related (change left) (change' right)) :
    Simulates related Eq (modify change) (modify change') :=
  fun left right start => ⟨rfl, alike left right start⟩

theorem simulates_note (level level' : LogLevel) (message message' : String) :
    Simulates related Eq (note level message) (note level' message') :=
  fun _ _ start => ⟨rfl, start⟩

/-- Actions that both do something more if a condition holds. -/
theorem simulates_detour {answers : α → β → Prop} {results : γ → δ → Prop} {condition : Prop}
    [Decidable condition] {aside : Action σ α} {aside' : Action τ β} {later : Action σ γ}
    {later' : Action τ δ} (before : Simulates related answers aside aside')
    (after : Simulates related results later later') :
    Simulates related results (if condition then aside >>= fun _ => later else later)
      (if condition then aside' >>= fun _ => later' else later') := by
  by_cases holds : condition
  · rw [if_pos holds, if_pos holds]
    exact simulates_bind before fun _ _ _ => after
  · rw [if_neg holds, if_neg holds]
    exact after

theorem simulates_forEach {act : α → Action σ Unit} {act' : α → Action τ Unit}
    (alike : ∀ item, Simulates related Eq (act item) (act' item)) (items : List α) :
    Simulates related Eq (forEach act items) (forEach act' items) := by
  induction items with
  | nil => exact simulates_pure rfl
  | cons first rest ih => exact simulates_bind (alike first) fun _ _ _ => ih

theorem simulates_foldl {act : β → α → Action σ β} {act' : β → α → Action τ β}
    (alike : ∀ value item, Simulates related Eq (act value item) (act' value item))
    (value : β) (items : List α) :
    Simulates related Eq (foldl act value items) (foldl act' value items) := by
  induction items generalizing value with
  | nil => exact simulates_pure rfl
  | cons first rest ih =>
      refine simulates_bind (alike value first) ?_
      rintro next _ rfl
      exact ih next

end ShaderPipeline.Action
