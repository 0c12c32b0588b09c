import ShaderPipeline.Proofs.Program.Frame

/-!
# Runs of a session

A session is driven by requests, and between them its files may be changed by
others.  Whatever the device does, the table stays well formed, the bound handle
stays live, and the number of programs is counted.
-/

namespace ShaderPipeline

open Action

/-- What can be asked of a session.  Every way of setting a constant by its slot
is `setConstant` with some of its arguments fixed. -/
inductive Request where
  | create (name : String) (vertex fragment : Option String)
  | delete (handle : ProgramHandle)
  | bind (handle : Option ProgramHandle)
  | setConstant (slot : ConstantSlot) (data : ConstantData) (count : UInt64) (rowMajor : Bool)
  | setConstantByName (name : String) (data : ConstantData)
  | bindTexture (unit : UInt32) (texture : TextureId)
  | clear

inductive Answer where
  | program (result : Except ProgramError ProgramHandle)
  | completion (result : Except ProgramError Unit)
  | upload (result : Except Abort Unit)
  | found (result : Except Abort Bool)
  | nothing
deriving DecidableEq

variable {δ : Type} [ShaderDevice δ]

def Request.perform : Request → Action (Session δ) Answer
  | .create name vertex fragment => do return .program (← Session.create name vertex fragment)
  | .delete handle => do return .completion (← Session.delete handle)
  | .bind handle => do return .completion (← Session.bind handle)
  | .setConstant slot data count rowMajor => do
      return .upload (← Session.setConstant slot data count rowMajor)
  | .setConstantByName name data => do return .found (← Session.setConstantByName name data)
  | .bindTexture unit texture => do
      Session.bindTexture unit texture
      return .nothing
  | .clear => do
      Session.clear
      return .nothing

inductive SessionEvent where
  | request (asked : Request)
  /-- Others leave these files behind. -/
  | files (tree : FileTree)

def SessionEvent.apply (session : Session δ) : SessionEvent → Session δ
  | .request asked => (asked.perform.run session).state
  | .files tree => { session with files := tree }

namespace Session

def after (session : Session δ) (events : List SessionEvent) : Session δ :=
  events.foldl SessionEvent.apply session

/-- The bookkeeping of a session is right. -/
structure Sound (session : Session δ) : Prop where
  table : session.programs.WellFormed
  bound_live : ∀ handle, session.bound = some handle →
    (session.programs.get? handle).isSome
  counted : session.statistics.live = session.programs.live

omit [ShaderDevice δ] in
theorem Sound.of_core {first second : Session δ} (sound : first.Sound)
    (same : second.core = first.core) : second.Sound := by
  simp only [core, Prod.mk.injEq] at same
  obtain ⟨programs, bound, -, -, live⟩ := same
  refine ⟨?_, ?_, ?_⟩
  · rw [programs]
    exact sound.table
  · rw [programs, bound]
    exact sound.bound_live
  · rw [programs, live]
    exact sound.counted

theorem sound_start (device : δ) (files : FileTree) (cache : CacheSettings) :
    (start device files cache).Sound where
  table := ProgramTable.wellFormed_empty
  bound_live := by
    intro handle isBound
    cases isBound
  counted := rfl

theorem sound_adopt {session : Session δ} (sound : session.Sound) (name : String)
    (program : Dialect.RecastProgram) (object : ProgramId) (fromCache : Bool) :
    ((adopt name program object fromCache).run session).state.Sound := by
  rw [adopt_state]
  refine ⟨ProgramTable.wellFormed_insert sound.table _, ?_, rfl⟩
  intro handle isBound
  obtain ⟨value, found⟩ := Option.isSome_iff_exists.mp (sound.bound_live handle isBound)
  rw [ProgramTable.get?_insert_of_get? sound.table _ found]
  rfl

theorem sound_create {session : Session δ} (sound : session.Sound) (name : String)
    (vertex fragment : Option String) :
    ((create name vertex fragment).run session).state.Sound := by
  refine create_elim name vertex fragment session fun value final ends => ?_
  cases ends with
  | blank noStage => exact sound
  | refused stage refuses => exact sound.of_core rfl
  | failed stage makes fails => exact sound.of_core (preserves_fill _ _ _ session.withObject)
  | adopted stage makes fills isFilled =>
      subst isFilled
      exact sound_adopt (sound.of_core (preserves_fill _ _ _ session.withObject)) _ _ _ _

theorem sound_bind {session : Session δ} (sound : session.Sound)
    (handle : Option ProgramHandle) : ((bind handle).run session).state.Sound := by
  refine bind_elim handle session fun value final ends => ?_
  cases ends with
  | same => exact sound
  | unbound wasBound =>
      refine ⟨sound.table, ?_, sound.counted⟩
      intro handle isBound
      cases isBound
  | bound other live =>
      refine ⟨sound.table, ?_, sound.counted⟩
      intro handle isBound
      cases isBound
      exact Option.isSome_of_eq_some live
  | stale other notLive => exact sound

theorem sound_without {session : Session δ} (sound : session.Sound) (handle : ProgramHandle) :
    (session.without handle).Sound := by
  unfold without
  split
  · refine ⟨sound.table, ?_, sound.counted⟩
    intro handle isBound
    cases isBound
  · exact sound

theorem without_bound_ne (session : Session δ) (handle : ProgramHandle) :
    (session.without handle).bound ≠ some handle := by
  unfold without
  split
  · simp
  · next other => exact other

theorem sound_delete {session : Session δ} (sound : session.Sound) (handle : ProgramHandle) :
    ((delete handle).run session).state.Sound := by
  refine delete_elim handle session fun value final ends => ?_
  cases ends with
  | stale notLive => exact sound_without sound handle
  | deleted removed =>
      refine ⟨ProgramTable.wellFormed_remove? sound.table removed, ?_, rfl⟩
      intro other isBound
      have isBound : (session.without handle).bound = some other := isBound
      have different : other ≠ handle := by
        rintro rfl
        exact without_bound_ne session _ isBound
      have wasLive := (sound_without sound handle).bound_live other isBound
      rw [without_programs] at wasLive
      change (ProgramTable.get? _ other).isSome
      rw [ProgramTable.get?_remove? removed, if_neg different]
      exact wasLive

theorem sound_clear {session : Session δ} (sound : session.Sound) :
    ((clear).run session).state.Sound := by
  unfold clear
  rw [run_read_bind]
  generalize session.programs.handles = handles
  induction handles generalizing session with
  | nil => exact sound
  | cons handle rest ih =>
      rw [state_forEach_cons, state_deleteOrWarn]
      exact ih (sound_delete sound handle)

theorem sound_perform {session : Session δ} (sound : session.Sound) (request : Request) :
    (request.perform.run session).state.Sound := by
  cases request with
  | create name vertex fragment => exact sound_create sound name vertex fragment
  | delete handle => exact sound_delete sound handle
  | bind handle => exact sound_bind sound handle
  | setConstant slot data count rowMajor =>
      have kept := (setConstant_ends slot data count rowMajor session).sameHoldings
      exact sound.of_core (congrArg (·.1.1) kept)
  | setConstantByName name data =>
      have kept := (setConstantByName_ends name data session).sameHoldings
      exact sound.of_core (congrArg (·.1.1) kept)
  | bindTexture unit texture => exact sound.of_core rfl
  | clear => exact sound_clear sound

theorem sound_apply {session : Session δ} (sound : session.Sound) (event : SessionEvent) :
    (event.apply session).Sound := by
  cases event with
  | request asked => exact sound_perform sound asked
  | files tree => exact sound.of_core rfl

theorem sound_after {session : Session δ} (sound : session.Sound) (events : List SessionEvent) :
    (session.after events).Sound := by
  induction events generalizing session with
  | nil => exact sound
  | cons event rest ih => exact ih (sound_apply sound event)

end Session

end ShaderPipeline
