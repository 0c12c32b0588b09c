import ShaderPipeline.Log

/-!
# Actions

An action takes a state to an answer, the next state and the events that it
reported on the way.
-/

namespace ShaderPipeline

/-- What running an action gives. -/
structure Outcome (σ α : Type) where
  value : α
  state : σ
  events : List LogEvent := []

/-- A computation on a state that reports events. -/
def Action (σ α : Type) : Type := σ → Outcome σ α

namespace Action

variable {σ τ α β : Type}

def run (action : Action σ α) (state : σ) : Outcome σ α :=
  action state

/-- Answers without touching the state. -/
protected def pure (value : α) : Action σ α :=
  fun state => ⟨value, state, []⟩

/-- Runs one action after another; events keep their order. -/
protected def bind (first : Action σ α) (next : α → Action σ β) : Action σ β :=
  fun state =>
    let before := first state
    let after := next before.value before.state
    ⟨after.value, after.state, before.events ++ after.events⟩

instance : Monad (Action σ) where
  pure := Action.pure
  bind := Action.bind

def get : Action σ σ :=
  fun state => ⟨state, state, []⟩

def set (state : σ) : Action σ Unit :=
  fun _ => ⟨(), state, []⟩

def modify (change : σ → σ) : Action σ Unit :=
  fun state => ⟨(), change state, []⟩

/-- Reads something off the state. -/
def read (view : σ → α) : Action σ α :=
  fun state => ⟨view state, state, []⟩

def report (events : List LogEvent) : Action σ Unit :=
  fun state => ⟨(), state, events⟩

def note (level : LogLevel) (message : String) : Action σ Unit :=
  report [⟨level, message⟩]

/-- Runs an action on a part of the state. -/
def onPart (view : σ → τ) (put : σ → τ → σ) (action : Action τ α) : Action σ α :=
  fun state =>
    let inner := action (view state)
    ⟨inner.value, put state inner.state, inner.events⟩

/-- Runs an action for every element, in order. -/
def forEach (act : α → Action σ Unit) : List α → Action σ Unit
  | [] => pure ()
  | first :: rest => do
      act first
      forEach act rest

/-- Folds an action over a list, in order. -/
def foldl (act : β → α → Action σ β) (value : β) : List α → Action σ β
  | [] => pure value
  | first :: rest => do
      let next ← act value first
      foldl act next rest

@[simp] theorem run_pure (value : α) (state : σ) :
    (pure value : Action σ α).run state = ⟨value, state, []⟩ := rfl

@[simp] theorem run_bind (first : Action σ α) (next : α → Action σ β) (state : σ) :
    (first >>= next).run state =
      ⟨((next (first.run state).value).run (first.run state).state).value,
        ((next (first.run state).value).run (first.run state).state).state,
        (first.run state).events ++
          ((next (first.run state).value).run (first.run state).state).events⟩ := rfl

@[simp] theorem run_get (state : σ) : (get : Action σ σ).run state = ⟨state, state, []⟩ := rfl

@[simp] theorem run_set (next state : σ) : (set next).run state = ⟨(), next, []⟩ := rfl

@[simp] theorem run_modify (change : σ → σ) (state : σ) :
    (modify change).run state = ⟨(), change state, []⟩ := rfl

@[simp] theorem run_read (view : σ → α) (state : σ) :
    (read view).run state = ⟨view state, state, []⟩ := rfl

@[simp] theorem run_report (events : List LogEvent) (state : σ) :
    (report events).run state = ⟨(), state, events⟩ := rfl

@[simp] theorem run_onPart (view : σ → τ) (put : σ → τ → σ) (action : Action τ α) (state : σ) :
    (onPart view put action).run state =
      ⟨(action.run (view state)).value, put state (action.run (view state)).state,
        (action.run (view state)).events⟩ := rfl

/-- Actions with equal runs are equal. -/
theorem ext_run {first second : Action σ α}
    (equal : ∀ state, first.run state = second.run state) : first = second :=
  funext equal

instance : LawfulMonad (Action σ) :=
  LawfulMonad.mk' _
    (fun action => by
      refine ext_run fun state => ?_
      change Action.bind action (fun value => Action.pure value) state = action state
      simp [Action.bind, Action.pure])
    (fun value next => by
      refine ext_run fun state => ?_
      simp)
    (fun first second third => by
      refine ext_run fun state => ?_
      simp)

end Action

end ShaderPipeline
