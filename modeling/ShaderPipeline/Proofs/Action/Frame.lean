import ShaderPipeline.Action

/-!
# What an action leaves alone

An action preserves a view of the state if the view is the same before and
after it.  The rules follow the ways in which actions are put together.
-/

namespace ShaderPipeline.Action

variable {σ τ α β γ : Type}

/-- Reading something off the state and going on with it. -/
theorem run_read_bind (look : σ → α) (next : α → Action σ β) (state : σ) :
    (read look >>= next).run state = (next (look state)).run state :=
  rfl

theorem run_get_bind (next : σ → Action σ β) (state : σ) :
    (get >>= next).run state = (next state).run state :=
  rfl

theorem state_forEach_cons (act : α → Action σ Unit) (first : α) (rest : List α) (state : σ) :
    ((forEach act (first :: rest)).run state).state =
      ((forEach act rest).run ((act first).run state).state).state :=
  rfl

/-- The action does not change what `view` shows of the state. -/
def Preserves (view : σ → γ) (action : Action σ α) : Prop :=
  ∀ state, view (action.run state).state = view state

variable {view : σ → γ}

theorem preserves_pure (value : α) : Preserves view (pure value : Action σ α) :=
  fun _ => rfl

theorem preserves_bind {first : Action σ α} {next : α → Action σ β}
    (firstKeeps : Preserves view first) (nextKeeps : ∀ value, Preserves view (next value)) :
    Preserves view (first >>= next) := by
  intro state
  rw [run_bind]
  exact (nextKeeps _ _).trans (firstKeeps state)

theorem preserves_get : Preserves view (get : Action σ σ) :=
  fun _ => rfl

theorem preserves_read (look : σ → α) : Preserves view (read look) :=
  fun _ => rfl

theorem preserves_note (level : LogLevel) (message : String) :
    Preserves view (note level message) :=
  fun _ => rfl

theorem preserves_modify {change : σ → σ} (unchanged : ∀ state, view (change state) = view state) :
    Preserves view (modify change) :=
  unchanged

theorem preserves_forEach {act : α → Action σ Unit} (keeps : ∀ item, Preserves view (act item))
    (items : List α) : Preserves view (forEach act items) := by
  induction items with
  | nil => exact preserves_pure ()
  | cons first rest ih => exact preserves_bind (keeps first) fun _ => ih

theorem preserves_foldl {act : β → α → Action σ β}
    (keeps : ∀ value item, Preserves view (act value item)) (value : β) (items : List α) :
    Preserves view (foldl act value items) := by
  induction items generalizing value with
  | nil => exact preserves_pure value
  | cons first rest ih => exact preserves_bind (keeps value first) fun next => ih next

end ShaderPipeline.Action
