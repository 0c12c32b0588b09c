import ShaderPipeline.Program.Session
import ShaderPipeline.Proofs.Action.Frame
import ShaderPipeline.Proofs.Program.Table

/-!
# What the steps of a session leave alone

Making a program goes through several steps, and most of them touch only the
device and the counters.  Here the runs of `fill` and `create` are taken apart
once, for any device, and it is said which parts of a session each step keeps.
-/

namespace ShaderPipeline.Session

open Action

variable {δ : Type}

/-- The programs of a session, what is bound, its settings and how many programs
it counts. -/
def core (session : Session δ) :
    ProgramTable LinkedProgram × Option ProgramHandle × Capabilities × Option CacheSettings ×
      Nat :=
  (session.programs, session.bound, session.capabilities, session.cache,
    session.statistics.live)

/-- The core of a session and its files. -/
def holdings (session : Session δ) :
    (ProgramTable LinkedProgram × Option ProgramHandle × Capabilities × Option CacheSettings ×
      Nat) × FileTree :=
  (session.core, session.files)

theorem preserves_core {α : Type} {action : Action (Session δ) α}
    (keeps : Preserves holdings action) : Preserves core action :=
  fun session => congrArg Prod.fst (keeps session)

theorem preserves_onDevice_holdings {α : Type} (action : Action δ α) :
    Preserves holdings (onDevice action) :=
  fun _ => rfl

theorem preserves_count_holdings {change : Statistics → Statistics}
    (keepsLive : ∀ statistics, (change statistics).live = statistics.live) :
    Preserves holdings (count change : Action (Session δ) Unit) := by
  intro session
  have same : (change session.statistics).live = session.statistics.live := keepsLive _
  change (((_, _, _, _, (change session.statistics).live), _) : _ × _) = _
  rw [same]
  rfl

/-- Looking at the files changes nothing. -/
theorem preserves_onFiles {α γ : Type} {view : Session δ → γ} {action : Action FileTree α}
    (keeps : Preserves id action) : Preserves view (onFiles action) := by
  intro session
  have sameFiles : (action.run session.files).state = session.files := keeps session.files
  simp only [onFiles, run_onPart, sameFiles]

theorem preserves_load (settings : CacheSettings) (name : String) (expected : UInt32) :
    Preserves id (ProgramCache.load settings name expected) := by
  unfold ProgramCache.load
  split
  · exact preserves_pure _
  · refine preserves_bind preserves_get fun tree => ?_
    split
    · exact preserves_pure _
    · exact preserves_pure _
    · split
      · exact preserves_pure _
      · exact preserves_bind (preserves_note _ _) fun _ => preserves_pure _

variable [ShaderDevice δ]

/-- Looking for a cached binary does nothing but load it into the object. -/
theorem preserves_restore_of {γ : Type} {view : Session δ → γ} {object : ProgramId}
    (loads : ∀ binary, Preserves view (onDevice (ShaderDevice.loadBinary object binary)))
    (name : String) (key : UInt32) :
    Preserves view (restore name key object : Action (Session δ) Bool) := by
  refine preserves_bind (preserves_read _) fun cache => ?_
  split
  · exact preserves_pure _
  · refine preserves_bind (preserves_onFiles (preserves_load _ _ _)) fun found => ?_
    split
    · exact preserves_bind (preserves_note _ _) fun _ => preserves_pure _
    · exact preserves_bind (preserves_note _ _) fun _ => preserves_pure _
    · refine preserves_bind (loads _) fun loaded => ?_
      refine preserves_bind (preserves_read _) fun device => ?_
      split
      · exact preserves_bind (preserves_note _ _) fun _ => preserves_pure _
      · exact preserves_bind (preserves_note _ _) fun _ => preserves_pure _

theorem preserves_restore (name : String) (key : UInt32) (object : ProgramId) :
    Preserves holdings (restore name key object : Action (Session δ) Bool) :=
  preserves_restore_of (fun _ => preserves_onDevice_holdings _) name key

/-- A binary that served was found in the cache and is linked. -/
theorem restore_of_served {name : String} {key : UInt32} {object : ProgramId}
    {session : Session δ} (served : ((restore name key object).run session).value = true) :
    ∃ settings binary, session.cache = some settings ∧
      ((ProgramCache.load settings name key).run session.files).value = .ok (some binary) ∧
      ((restore name key object).run session).state.device =
        ((ShaderDevice.loadBinary object binary).run session.device).state ∧
      ShaderDevice.linkStatus ((restore name key object).run session).state.device object := by
  revert served
  unfold restore
  rw [run_read_bind]
  cases isCached : session.cache with
  | none =>
      intro served
      cases served
  | some settings =>
      simp only
      rw [run_bind]
      cases isLoaded : ((onFiles (ProgramCache.load settings name key)).run session).value with
      | error failure =>
          intro served
          cases served
      | ok found =>
          cases found with
          | none =>
              intro served
              cases served
          | some binary =>
              simp only
              rw [run_bind, run_read_bind]
              split
              · next both =>
                  rw [Bool.and_eq_true] at both
                  exact fun _ => ⟨settings, binary, rfl, isLoaded, rfl, both.2⟩
              · intro served
                cases served

theorem live_countFailure (failure : ShaderError) (statistics : Statistics) :
    (countFailure failure statistics).live = statistics.live := by
  cases failure <;> rfl

theorem preserves_compile (name : String) (program : Dialect.RecastProgram)
    (object : ProgramId) :
    Preserves holdings (compile name program object : Action (Session δ) _) := by
  refine preserves_bind (preserves_read _) fun caps => ?_
  refine preserves_bind (preserves_onDevice_holdings _) fun result => ?_
  split
  · exact preserves_pure _
  · refine preserves_bind (preserves_count_holdings (live_countFailure _)) fun _ => ?_
    exact preserves_bind (preserves_onDevice_holdings _) fun _ => preserves_pure _

theorem compile_of_ok {name : String} {program : Dialect.RecastProgram} {object : ProgramId}
    (session : Session δ) {linked : Outcome δ _}
    (isLinked : (program.compileAndLink session.capabilities name object).run session.device =
      linked)
    (links : linked.value = .ok ()) :
    ((compile name program object).run session).value = .ok () ∧
    ((compile name program object).run session).state =
      { session with device := linked.state } := by
  unfold compile
  rw [run_read_bind, run_bind, onDevice, run_onPart, isLinked]
  simp only [links]
  exact ⟨rfl, rfl⟩

/-- A program object that could not be filled is released. -/
theorem compile_of_error {name : String} {program : Dialect.RecastProgram} {object : ProgramId}
    (session : Session δ) {linked : Outcome δ _} {failure : ShaderError}
    (isLinked : (program.compileAndLink session.capabilities name object).run session.device =
      linked)
    (fails : linked.value = .error failure) :
    ((compile name program object).run session).value = .error failure ∧
    ((compile name program object).run session).state =
      { session with
        device := ((ShaderDevice.deleteProgram object).run linked.state).state
        statistics := countFailure failure session.statistics } := by
  unfold compile
  rw [run_read_bind, run_bind, onDevice, run_onPart, isLinked]
  simp only [fails]
  exact ⟨rfl, rfl⟩

/-- Caching a binary changes nothing but the files. -/
theorem keep_state (name : String) (key : UInt32) (object : ProgramId) (session : Session δ) :
    ∃ files, ((keep name key object).run session).state = { session with files := files } := by
  unfold keep
  simp only [run_bind, run_read]
  split
  · exact ⟨session.files, rfl⟩
  · simp only [run_bind, run_read]
    split
    · exact ⟨session.files, rfl⟩
    · simp only [run_bind, onFiles, run_onPart]
      split
      · exact ⟨_, rfl⟩
      · exact ⟨_, rfl⟩

/-- A binary that the driver exports is stored. -/
theorem files_keep {name : String} {key : UInt32} {object : ProgramId} {session : Session δ}
    {settings : CacheSettings} {binary : ProgramBinary} (isCached : session.cache = some settings)
    (isBinary : ShaderDevice.programBinary session.device object = some binary) :
    ((keep name key object).run session).state.files =
      ((ProgramCache.store settings name key binary).run session.files).state := by
  unfold keep
  rw [run_read_bind, isCached]
  simp only
  rw [run_read_bind, isBinary]
  simp only
  rw [run_bind]
  split <;> rfl

/-- Without a binary there is nothing to store. -/
theorem files_keep_of_none {name : String} {key : UInt32} {object : ProgramId}
    {session : Session δ} (notBoth : ∀ settings binary, session.cache = some settings →
      ShaderDevice.programBinary session.device object ≠ some binary) :
    ((keep name key object).run session).state.files = session.files := by
  unfold keep
  rw [run_read_bind]
  cases isCached : session.cache with
  | none => rfl
  | some settings =>
      simp only
      rw [run_read_bind]
      cases isBinary : ShaderDevice.programBinary session.device object with
      | none => rfl
      | some binary => exact absurd isBinary (notBoth settings binary isCached)

theorem preserves_keep (name : String) (key : UInt32) (object : ProgramId) :
    Preserves core (keep name key object : Action (Session δ) Unit) := by
  intro session
  obtain ⟨files, kept⟩ := keep_state name key object session
  rw [kept]
  rfl

def withHit (session : Session δ) : Session δ :=
  { session with
    statistics := { session.statistics with cacheHits := session.statistics.cacheHits + 1 } }

def withMiss (session : Session δ) : Session δ :=
  { session with
    statistics := { session.statistics with cacheMisses := session.statistics.cacheMisses + 1 } }

/-- How filling a program object can end, after the cache was looked up. -/
inductive FillEnds (name : String) (program : Dialect.RecastProgram) (key : UInt32)
    (object : ProgramId) (looked : Outcome (Session δ) Bool) :
    Except ShaderError Bool → Session δ → Prop where
  /-- The cache served. -/
  | restored (served : looked.value = true) :
      FillEnds name program key object looked (.ok true) looked.state.withHit
  /-- The program was compiled, and its binary was offered to the cache. -/
  | compiled (unserved : looked.value = false)
      (compiles : ((compile name program object).run looked.state.withMiss).value = .ok ()) :
      FillEnds name program key object looked (.ok false)
        ((keep name key object).run
          ((compile name program object).run looked.state.withMiss).state).state
  /-- The program did not compile or did not link. -/
  | failed {failure : ShaderError} (unserved : looked.value = false)
      (fails : ((compile name program object).run looked.state.withMiss).value =
        .error failure) :
      FillEnds name program key object looked (.error failure)
        ((compile name program object).run looked.state.withMiss).state

theorem fill_ends (name : String) (program : Dialect.RecastProgram) (object : ProgramId)
    (session : Session δ) :
    FillEnds name program (programKey program.vertex program.fragment) object
      ((restore name (programKey program.vertex program.fragment) object).run session)
      ((fill name program object).run session).value
      ((fill name program object).run session).state := by
  unfold fill
  simp only [run_bind]
  split
  · next served => exact .restored served
  · next unserved =>
      rw [Bool.not_eq_true] at unserved
      simp only [run_bind]
      split
      · next failure fails => exact .failed unserved fails
      · next compiles => exact .compiled unserved compiles

/-- What holds for all ends holds for the one that is reached. -/
@[elab_as_elim]
theorem fill_elim (name : String) (program : Dialect.RecastProgram) (object : ProgramId)
    (session : Session δ) {motive : Except ShaderError Bool → Session δ → Prop}
    (each : ∀ value final,
      FillEnds name program (programKey program.vertex program.fragment) object
        ((restore name (programKey program.vertex program.fragment) object).run session)
        value final → motive value final) :
    motive ((fill name program object).run session).value
      ((fill name program object).run session).state :=
  each _ _ (fill_ends name program object session)

/-- Filling a program object keeps the programs, what is bound and the settings. -/
theorem preserves_fill (name : String) (program : Dialect.RecastProgram) (object : ProgramId) :
    Preserves core (fill name program object : Action (Session δ) _) := by
  refine preserves_bind (preserves_core (preserves_restore _ _ _)) fun served => ?_
  split
  · exact preserves_bind (preserves_core (preserves_count_holdings fun _ => rfl))
      fun _ => preserves_pure _
  · refine preserves_bind (preserves_core (preserves_count_holdings fun _ => rfl)) fun _ => ?_
    refine preserves_bind (preserves_core (preserves_compile _ _ _)) fun result => ?_
    split
    · exact preserves_pure _
    · exact preserves_bind (preserves_keep _ _ _) fun _ => preserves_pure _

/-- A program object that was not filled leaves the files as they were, too. -/
theorem holdings_of_fill_error {name : String} {program : Dialect.RecastProgram}
    {object : ProgramId} {session : Session δ} {failure : ShaderError}
    (fails : ((fill name program object).run session).value = .error failure) :
    ((fill name program object).run session).state.holdings = session.holdings := by
  revert fails
  refine fill_elim name program object session ?_
  rintro _ final ends rfl
  cases ends with
  | failed unserved fails =>
      rw [preserves_compile]
      exact preserves_restore _ _ _ session

/-- What a session knows about a program that it has made. -/
def linkedAs (name : String) (program : Dialect.RecastProgram) (object : ProgramId)
    (fromCache : Bool) (reflection : Reflection) : LinkedProgram where
  name := name
  object := object
  interface := program.interface
  diagnostics := program.diagnostics
  reflection := reflection
  builtIns := .resolve reflection.findUniform? reflection.samplerUnit?
  fromCache := fromCache

def deviceAfterAdopt (object : ProgramId) (session : Session δ) : δ :=
  ((ShaderDevice.useProgram (session.boundProgram?.map (·.object))).run
    ((Reflection.build object).run session.device).state).state

theorem adopt_value (name : String) (program : Dialect.RecastProgram) (object : ProgramId)
    (fromCache : Bool) (session : Session δ) :
    ((adopt name program object fromCache).run session).value =
      (session.programs.insert (linkedAs name program object fromCache
        ((Reflection.build object).run session.device).value)).1 :=
  rfl

theorem adopt_state (name : String) (program : Dialect.RecastProgram) (object : ProgramId)
    (fromCache : Bool) (session : Session δ) :
    ((adopt name program object fromCache).run session).state =
      { session with
        device := deviceAfterAdopt object session
        programs := (session.programs.insert (linkedAs name program object fromCache
          ((Reflection.build object).run session.device).value)).2
        statistics :=
          { session.statistics with
            created := session.statistics.created + 1
            live := (session.programs.insert (linkedAs name program object fromCache
              ((Reflection.build object).run session.device).value)).2.live } } :=
  rfl

/-- A program's stages, as a session has them compiled. -/
def recast (session : Session δ) (vertex fragment : Option String) : Dialect.RecastProgram :=
  Dialect.recastProgram session.capabilities (vertex.filter hasText) (fragment.filter hasText)

def HasStage (vertex fragment : Option String) : Prop :=
  ¬ (vertex.filter hasText = none ∧ fragment.filter hasText = none)

instance (vertex fragment : Option String) : Decidable (HasStage vertex fragment) :=
  inferInstanceAs (Decidable (¬ (_ ∧ _)))

def objectAnswer (session : Session δ) : Except ShaderError ProgramId :=
  (ShaderDevice.createProgram.run session.device).value

/-- A session whose driver was asked for a program object. -/
def withObject (session : Session δ) : Session δ :=
  { session with device := (ShaderDevice.createProgram.run session.device).state }

inductive CreateEnds (name : String) (vertex fragment : Option String) (session : Session δ) :
    Except ProgramError ProgramHandle → Session δ → Prop where
  | blank (noStage : ¬ HasStage vertex fragment) :
      CreateEnds name vertex fragment session (.error (.shader (.emptySource name))) session
  /-- The driver made no program object. -/
  | refused {failure : ShaderError} (stage : HasStage vertex fragment)
      (refuses : session.objectAnswer = .error failure) :
      CreateEnds name vertex fragment session (.error (.shader failure)) session.withObject
  /-- The program object could not be filled. -/
  | failed {object : ProgramId} {failure : ShaderError} (stage : HasStage vertex fragment)
      (makes : session.objectAnswer = .ok object)
      (fails : ((fill name (session.recast vertex fragment) object).run
        session.withObject).value = .error failure) :
      CreateEnds name vertex fragment session (.error (.shader failure))
        ((fill name (session.recast vertex fragment) object).run session.withObject).state
  /-- The program was taken into the table. -/
  | adopted {object : ProgramId} {fromCache : Bool} {filled : Session δ}
      (stage : HasStage vertex fragment)
      (makes : session.objectAnswer = .ok object)
      (fills : ((fill name (session.recast vertex fragment) object).run
        session.withObject).value = .ok fromCache)
      (isFilled : filled =
        ((fill name (session.recast vertex fragment) object).run session.withObject).state) :
      CreateEnds name vertex fragment session
        (.ok ((adopt name (session.recast vertex fragment) object fromCache).run filled).value)
        ((adopt name (session.recast vertex fragment) object fromCache).run filled).state

theorem create_ends (name : String) (vertex fragment : Option String) (session : Session δ) :
    CreateEnds name vertex fragment session ((create name vertex fragment).run session).value
      ((create name vertex fragment).run session).state := by
  unfold create
  dsimp only
  split
  · next noText =>
      simp only [Bool.and_eq_true, Option.isNone_iff_eq_none] at noText
      exact .blank (not_not_intro noText)
  · next someText =>
      simp only [Bool.and_eq_true, Option.isNone_iff_eq_none] at someText
      have stage : HasStage vertex fragment := someText
      simp only [run_bind, run_read, run_report, onDevice, run_onPart]
      split
      · next failure refuses => exact .refused stage refuses
      · next object makes =>
          simp only [run_bind]
          split
          · next failure fails => exact .failed stage makes fails
          · next fromCache fills => exact .adopted stage makes fills rfl

@[elab_as_elim]
theorem create_elim (name : String) (vertex fragment : Option String) (session : Session δ)
    {motive : Except ProgramError ProgramHandle → Session δ → Prop}
    (each : ∀ value final, CreateEnds name vertex fragment session value final →
      motive value final) :
    motive ((create name vertex fragment).run session).value
      ((create name vertex fragment).run session).state :=
  each _ _ (create_ends name vertex fragment session)

/-- A session whose device was told to use a program, or none. -/
def selecting (session : Session δ) (object : Option ProgramId) : Session δ :=
  { session with device := ((ShaderDevice.useProgram object).run session.device).state }

inductive BindEnds (session : Session δ) :
    Option ProgramHandle → Except ProgramError Unit → Session δ → Prop where
  /-- The handle is bound already. -/
  | same : BindEnds session session.bound (.ok ()) session
  | unbound (wasBound : session.bound ≠ none) :
      BindEnds session none (.ok ()) { session.selecting none with bound := none }
  | bound {handle : ProgramHandle} {program : LinkedProgram}
      (other : session.bound ≠ some handle)
      (live : session.programs.get? handle = some program) :
      BindEnds session (some handle) (.ok ())
        { session.selecting (some program.object) with bound := some handle }
  | stale {handle : ProgramHandle} (other : session.bound ≠ some handle)
      (notLive : session.programs.get? handle = none) :
      BindEnds session (some handle) (.error (.invalidHandle handle)) session

theorem bind_ends (handle : Option ProgramHandle) (session : Session δ) :
    BindEnds session handle ((bind handle).run session).value
      ((bind handle).run session).state := by
  unfold bind
  rw [run_read_bind]
  by_cases isBound : session.bound = handle
  · rw [if_pos isBound, ← isBound]
    exact .same
  · rw [if_neg isBound]
    cases handle with
    | none => exact .unbound isBound
    | some handle =>
        simp only
        rw [run_read_bind]
        cases live : session.programs.get? handle with
        | none => exact .stale isBound live
        | some program => exact .bound isBound live

@[elab_as_elim]
theorem bind_elim (handle : Option ProgramHandle) (session : Session δ)
    {motive : Except ProgramError Unit → Session δ → Prop}
    (each : ∀ value final, BindEnds session handle value final → motive value final) :
    motive ((bind handle).run session).value ((bind handle).run session).state :=
  each _ _ (bind_ends handle session)

/-- A session in which `handle` is not bound. -/
def without (session : Session δ) (handle : ProgramHandle) : Session δ :=
  if session.bound = some handle then { session.selecting none with bound := none } else session

inductive DeleteEnds (handle : ProgramHandle) (session : Session δ) :
    Except ProgramError Unit → Session δ → Prop where
  | stale (notLive : session.programs.get? handle = none) :
      DeleteEnds handle session (.error (.invalidHandle handle)) (session.without handle)
  | deleted {program : LinkedProgram} {rest : ProgramTable LinkedProgram}
      (removed : session.programs.remove? handle = some (program, rest)) :
      DeleteEnds handle session (.ok ())
        { session.without handle with
          programs := rest
          device := ((ShaderDevice.deleteProgram program.object).run
            (session.without handle).device).state
          statistics := { session.statistics with live := rest.live } }

theorem without_programs (session : Session δ) (handle : ProgramHandle) :
    (session.without handle).programs = session.programs := by
  unfold without
  split <;> rfl

theorem without_statistics (session : Session δ) (handle : ProgramHandle) :
    (session.without handle).statistics = session.statistics := by
  unfold without
  split <;> rfl

/-- A bound handle is unbound before its program is taken out of the table. -/
theorem delete_ends (handle : ProgramHandle) (session : Session δ) :
    DeleteEnds handle session ((delete handle).run session).value
      ((delete handle).run session).state := by
  unfold delete
  rw [run_read_bind]
  by_cases isBound : session.bound = some handle
  · have unbound : ((bind none).run session).state = session.without handle := by
      unfold bind without
      rw [run_read_bind, if_neg (by simp [isBound]), if_pos isBound]
      rfl
    rw [if_pos isBound, run_bind, unbound, run_read_bind, without_programs]
    cases removed : session.programs.remove? handle with
    | none => exact .stale (ProgramTable.remove?_eq_none_iff.mp removed)
    | some result =>
        have done := DeleteEnds.deleted removed
        rw [← without_statistics session handle] at done
        exact done
  · have same : session.without handle = session := if_neg isBound
    rw [if_neg isBound, run_read_bind]
    cases removed : session.programs.remove? handle with
    | none =>
        have done := DeleteEnds.stale (ProgramTable.remove?_eq_none_iff.mp removed)
        rwa [same] at done
    | some result =>
        have done := DeleteEnds.deleted removed
        rw [same] at done
        exact done

@[elab_as_elim]
theorem delete_elim (handle : ProgramHandle) (session : Session δ)
    {motive : Except ProgramError Unit → Session δ → Prop}
    (each : ∀ value final, DeleteEnds handle session value final → motive value final) :
    motive ((delete handle).run session).value ((delete handle).run session).state :=
  each _ _ (delete_ends handle session)

theorem state_deleteOrWarn (handle : ProgramHandle) (session : Session δ) :
    ((deleteOrWarn handle).run session).state = ((delete handle).run session).state := by
  unfold deleteOrWarn
  rw [run_bind]
  split <;> rfl

inductive UploadEnds (session : Session δ) : Session δ → Prop where
  | same : UploadEnds session session
  /-- One value goes to the bound program. -/
  | uploaded {program : LinkedProgram} (isBound : session.boundProgram? = some program)
      (location : UniformLocation) (value : UniformValue) :
      UploadEnds session
        { session with
          device := ((ShaderDevice.setUniform location value).run session.device).state }

theorem setConstant_ends (slot : ConstantSlot) (data : ConstantData) (count : UInt64)
    (rowMajor : Bool) (session : Session δ) :
    UploadEnds session ((setConstant slot data count rowMajor).run session).state := by
  unfold setConstant
  split
  · rw [run_get_bind]
    split
    · exact .same
    · next program isBound =>
        split
        · exact .same
        · next uniform isUniform =>
            unfold UniformEntry.upload
            split
            · exact .same
            · split
              · exact .same
              · next shape isShape needed isNeeded =>
                  unfold UniformEntry.uploadFront
                  split
                  · exact .same
                  · exact .uploaded isBound uniform.location _
  · exact .same

theorem setConstantByName_ends (name : String) (data : ConstantData) (session : Session δ) :
    UploadEnds session ((setConstantByName name data).run session).state := by
  unfold setConstantByName
  rw [run_get_bind]
  dsimp only
  split
  · exact .same
  · exact setConstant_ends _ data _ false session

theorem UploadEnds.sameHoldings {session final : Session δ} (ends : UploadEnds session final) :
    (final.holdings, final.statistics) = (session.holdings, session.statistics) := by
  cases ends <;> rfl

end ShaderPipeline.Session
