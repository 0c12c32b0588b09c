import ShaderPipeline.Device.Recorded
import ShaderPipeline.Program.Link
import ShaderPipeline.Program.Reflection

/-!
# The calls that a device is given

What an action asks of a device is said about a recorded device, whose answers
may be anything.  Linking a program releases every stage object that it made, in
the order of their making, behind the last call that uses one.
-/

namespace ShaderPipeline

/-- A failure is a verdict if it is about the texts of a program. -/
def ShaderError.isVerdict : ShaderError → Bool
  | .compilationFailed .. | .linkFailed .. => true
  | .emptySource _ | .driver _ => false

namespace DeviceCall

def madeStage? : DeviceCall → Option StageId
  | .createStage _ (.ok stage) => some stage
  | _ => none

def releasedStage? : DeviceCall → Option StageId
  | .deleteStage stage => some stage
  | _ => none

def madeProgram? : DeviceCall → Option ProgramId
  | .createProgram (.ok program) => some program
  | _ => none

def releasedProgram? : DeviceCall → Option ProgramId
  | .deleteProgram program => some program
  | _ => none

/-- What a call selected as the current program. -/
def selection? : DeviceCall → Option (Option ProgramId)
  | .useProgram program => some program
  | _ => none

/-- The failure that the driver answered a call with. -/
def failure? : DeviceCall → Option ShaderError
  | .createProgram (.error failure) => some failure
  | .createStage _ (.error failure) => some failure
  | _ => none

/-- Calls that compile and link. -/
def builds : DeviceCall → Bool
  | .createStage .. | .compileStage .. | .attachStage .. | .bindAttribute ..
  | .bindFragmentData .. | .linkProgram .. => true
  | _ => false

/-- Calls that select a program or upload to it. -/
def reflects : DeviceCall → Bool
  | .useProgram .. | .setUniform .. => true
  | _ => false

theorem of_builds {call : DeviceCall} (building : call.builds) :
    call.releasedStage? = none ∧ call.madeProgram? = none ∧ call.releasedProgram? = none ∧
      call.reflects = false := by
  cases call <;>
    simp_all [builds, releasedStage?, madeProgram?, releasedProgram?, reflects]

theorem of_reflects {call : DeviceCall} (reflecting : call.reflects) :
    call.madeStage? = none ∧ call.releasedStage? = none ∧ call.madeProgram? = none ∧
      call.releasedProgram? = none ∧ ∀ program, call ≠ .linkProgram program := by
  cases call <;>
    simp_all [reflects, madeStage?, releasedStage?, madeProgram?, releasedProgram?]

end DeviceCall

namespace Action

variable {σ α β : Type} {record : σ → List DeviceCall}

/-- Whatever the device answers, the calls that the action adds to the record are
as shown. -/
def Logs (record : σ → List DeviceCall) (action : Action σ α)
    (shows : α → List DeviceCall → Prop) : Prop :=
  ∀ state, ∃ calls, record (action.run state).state = record state ++ calls ∧
    shows (action.run state).value calls

theorem logs_pure {shows : α → List DeviceCall → Prop} {value : α} (shown : shows value []) :
    Logs record (pure value) shows :=
  fun _ => ⟨[], (List.append_nil _).symm, shown⟩

theorem logs_bind {shows : β → List DeviceCall → Prop} {between : α → List DeviceCall → Prop}
    {first : Action σ α} {next : α → Action σ β} (firstLogs : Logs record first between)
    (nextLogs : ∀ value calls, between value calls →
      Logs record (next value) fun result later => shows result (calls ++ later)) :
    Logs record (first >>= next) shows := by
  intro state
  obtain ⟨calls, logged, shown⟩ := firstLogs state
  obtain ⟨later, loggedLater, shownLater⟩ := nextLogs _ _ shown (first.run state).state
  refine ⟨calls ++ later, ?_, shownLater⟩
  rw [run_bind, loggedLater, logged, List.append_assoc]

theorem Logs.mono {shows weaker : α → List DeviceCall → Prop} {action : Action σ α}
    (logs : Logs record action shows)
    (weaken : ∀ value calls, shows value calls → weaker value calls) :
    Logs record action weaker := by
  intro state
  obtain ⟨calls, logged, shown⟩ := logs state
  exact ⟨calls, logged, weaken _ _ shown⟩

/-- The calls that an action adds are the same however they are described. -/
theorem Logs.and {shows alsoShows : α → List DeviceCall → Prop} {action : Action σ α}
    (logs : Logs record action shows) (alsoLogs : Logs record action alsoShows) :
    Logs record action fun value calls => shows value calls ∧ alsoShows value calls := by
  intro state
  obtain ⟨calls, logged, shown⟩ := logs state
  obtain ⟨calls', logged', alsoShown⟩ := alsoLogs state
  rw [logged, List.append_cancel_left_eq] at logged'
  subst logged'
  exact ⟨calls, logged, shown, alsoShown⟩

/-- An action that makes no call, before others. -/
theorem logs_quiet_bind {shows : β → List DeviceCall → Prop} {first : Action σ α}
    {next : α → Action σ β} (quiet : Logs record first fun _ calls => calls = [])
    (nextLogs : ∀ value, Logs record (next value) shows) :
    Logs record (first >>= next) shows := by
  refine logs_bind quiet fun value calls noCalls => ?_
  subst noCalls
  exact nextLogs value

theorem logs_of_preserves {action : Action σ α}
    (keeps : ∀ state, record (action.run state).state = record state) :
    Logs record action fun _ calls => calls = [] := by
  intro state
  refine ⟨[], ?_, rfl⟩
  rw [keeps state, List.append_nil]

theorem logs_read (look : σ → α) : Logs record (read look) fun _ calls => calls = [] :=
  logs_of_preserves fun _ => rfl

theorem logs_get : Logs record get fun _ calls => calls = [] :=
  logs_of_preserves fun _ => rfl

theorem logs_note (level : LogLevel) (message : String) :
    Logs record (note level message) fun _ calls => calls = [] :=
  logs_of_preserves fun _ => rfl

/-- One call for every element. -/
theorem logs_forEach {act : α → Action σ Unit} (call : α → DeviceCall)
    (logs : ∀ item, Logs record (act item) fun _ calls => calls = [call item])
    (items : List α) :
    Logs record (forEach act items) fun _ calls => calls = items.map call := by
  induction items with
  | nil => exact logs_pure rfl
  | cons first rest ih =>
      refine logs_bind (logs first) fun _ calls logged => ih.mono fun _ later loggedLater => ?_
      rw [logged, loggedLater]
      rfl

theorem logs_foldl {act : β → α → Action σ β} {kind : DeviceCall → Prop}
    (logs : ∀ value item, Logs record (act value item) fun _ calls => ∀ call ∈ calls, kind call)
    (value : β) (items : List α) :
    Logs record (foldl act value items) fun _ calls => ∀ call ∈ calls, kind call := by
  induction items generalizing value with
  | nil => exact logs_pure (by simp)
  | cons first rest ih =>
      refine logs_bind (logs value first) fun next calls shown =>
        (ih next).mono fun _ later shownLater => ?_
      intro call member
      rcases List.mem_append.mp member with early | late
      · exact shown call early
      · exact shownLater call late

end Action

namespace Recorded

open Action Dialect RecastProgram DeviceCall

variable {δ α : Type}

theorem logs_perform_answered (call : α → DeviceCall) (action : Action δ α) :
    Logs calls (perform call action) fun value calls =>
      calls = [call value] ∧ ∃ device, (action.run device).value = value :=
  fun recorded => ⟨_, rfl, rfl, recorded.device, rfl⟩

theorem logs_perform (call : α → DeviceCall) (action : Action δ α) :
    Logs calls (perform call action) fun value calls => calls = [call value] :=
  (logs_perform_answered call action).mono fun _ _ shown => shown.1

variable [ShaderDevice δ]

variable (δ) in
/-- Among the calls is one for a stage object that a device answered with `failure`. -/
def RefusedStage (calls : List DeviceCall) (failure : ShaderError) : Prop :=
  ∃ stage, .createStage stage (.error failure) ∈ calls ∧
    ∃ device : δ, ((ShaderDevice.createStage stage).run device).value = .error failure

theorem RefusedStage.mono {calls more : List DeviceCall} {failure : ShaderError}
    (refused : RefusedStage δ calls failure) (subset : calls ⊆ more) :
    RefusedStage δ more failure := by
  obtain ⟨stage, member, answered⟩ := refused
  exact ⟨stage, subset member, answered⟩

theorem RefusedStage.mem_failures {calls : List DeviceCall} {failure : ShaderError}
    (refused : RefusedStage δ calls failure) : failure ∈ calls.filterMap failure? := by
  obtain ⟨stage, member, -⟩ := refused
  exact List.mem_filterMap.mpr ⟨_, member, rfl⟩

theorem logs_compileFailure (name : String) (stage : Stage) (id : StageId) (text : String) :
    Logs Recorded.calls (compileFailure name stage id text : Action (Recorded δ) _)
      fun failure calls => calls = [] ∧ failure.isVerdict := by
  refine logs_quiet_bind (logs_read _) fun log => ?_
  refine logs_quiet_bind (logs_note _ _) fun _ => ?_
  refine logs_quiet_bind (logs_note _ _) fun _ => ?_
  exact logs_pure ⟨rfl, rfl⟩

/-- Every stage object that is made is in the answer, and a failure that is no
verdict is the driver's answer to a call for a stage object. -/
theorem logs_compileStages (name : String) (stages : List (Stage × String)) :
    Logs Recorded.calls (compileStages name stages : Action (Recorded δ) _) fun result calls =>
      (∀ call ∈ calls, call.builds) ∧ calls.filterMap madeStage? = result.1 ∧
        ∀ failure, result.2 = .error failure →
          failure.isVerdict ∨ RefusedStage δ calls failure := by
  induction stages with
  | nil => exact logs_pure (by simp)
  | cons entry rest ih =>
      obtain ⟨stage, text⟩ := entry
      refine logs_bind (logs_perform_answered _ _) fun answer calls shown => ?_
      obtain ⟨rfl, answered⟩ := shown
      cases answer with
      | error failure =>
          refine logs_pure ⟨by simp [builds], by simp [madeStage?], ?_⟩
          intro other failed
          cases failed
          exact Or.inr ⟨stage, by simp, answered⟩
      | ok id =>
          refine logs_bind (logs_perform _ _) fun compiles calls compiled => ?_
          subst compiled
          cases compiles with
          | true =>
              refine logs_bind ih fun later calls shown => logs_pure ?_
              obtain ⟨building, making, failing⟩ := shown
              refine ⟨?_, ?_, ?_⟩
              · simpa [builds] using building
              · simp [List.filterMap_cons, madeStage?, making]
              · intro failure failed
                refine (failing failure failed).imp_right fun refused => refused.mono ?_
                simp
          | false =>
              refine logs_bind (logs_compileFailure _ _ _ _) fun failure calls shown =>
                logs_pure ?_
              obtain ⟨noCalls, verdict⟩ := shown
              subst noCalls
              refine ⟨by simp [builds], by simp [List.filterMap_cons, madeStage?], ?_⟩
              intro other failed
              cases failed
              exact Or.inl verdict

theorem logs_linkAttached (name : String) (object : ProgramId) :
    Logs Recorded.calls (linkAttached name object : Action (Recorded δ) _) fun result calls =>
      calls = [.linkProgram object] ∧
        ∀ failure, result = .error failure → failure.isVerdict := by
  refine logs_bind (logs_perform _ _) fun _ calls linked => ?_
  refine logs_quiet_bind (logs_read _) fun status => ?_
  split
  · exact logs_pure ⟨by simpa using linked, by simp⟩
  · refine logs_quiet_bind (logs_read _) fun log => ?_
    refine logs_quiet_bind (logs_note _ _) fun _ => ?_
    refine logs_pure ⟨by simpa using linked, ?_⟩
    rintro _ ⟨⟩
    rfl

/-- The stages are attached, then the locations are bound, then the program is linked. -/
theorem logs_attachAndLink_calls (caps : Capabilities) (name : String)
    (program : RecastProgram) (object : ProgramId) (stages : List StageId) :
    Logs Recorded.calls (attachAndLink caps name program object stages : Action (Recorded δ) _)
      fun result calls =>
        calls = stages.map (.attachStage object) ++
          ((program.boundAttributes caps).map (fun slot => .bindAttribute object slot.1 slot.2) ++
          ((program.boundFragmentData caps).map
            (fun slot => .bindFragmentData object slot.1 slot.2) ++ [.linkProgram object])) ∧
        ∀ failure, result = .error failure → failure.isVerdict := by
  refine logs_bind (logs_forEach (.attachStage object) (fun _ => logs_perform _ _) _)
    fun _ attaching attached => ?_
  refine logs_bind (logs_forEach (fun slot : UInt32 × String => .bindAttribute object slot.1 slot.2)
    (fun _ => logs_perform _ _) _) fun _ naming named => ?_
  refine logs_bind (logs_forEach
    (fun slot : UInt32 × String => .bindFragmentData object slot.1 slot.2)
    (fun _ => logs_perform _ _) _) fun _ placing placed => ?_
  refine (logs_linkAttached name object).mono fun result calls shown => ?_
  obtain ⟨linked, verdict⟩ := shown
  subst attached named placed linked
  exact ⟨rfl, verdict⟩

theorem logs_attachAndLink (caps : Capabilities) (name : String) (program : RecastProgram)
    (object : ProgramId) (stages : List StageId) :
    Logs Recorded.calls (attachAndLink caps name program object stages : Action (Recorded δ) _)
      fun result calls =>
        (∀ call ∈ calls, call.builds) ∧ calls.filterMap madeStage? = [] ∧
          ∀ failure, result = .error failure → failure.isVerdict := by
  refine (logs_attachAndLink_calls caps name program object stages).mono
    fun result calls shown => ?_
  obtain ⟨rfl, verdict⟩ := shown
  refine ⟨?_, ?_, verdict⟩
  · simp only [List.mem_append, List.mem_map, List.mem_singleton]
    rintro call (⟨item, -, rfl⟩ | ⟨item, -, rfl⟩ | ⟨item, -, rfl⟩ | rfl)
    all_goals rfl
  · simp [List.filterMap_map, Function.comp_def, madeStage?]

/-- Stage objects are made before any of them is released, and each is released
once, behind the link. -/
theorem logs_compileAndLink (caps : Capabilities) (name : String) (program : RecastProgram)
    (object : ProgramId) :
    Logs Recorded.calls (program.compileAndLink caps name object : Action (Recorded δ) _)
      fun result calls => ∃ building,
        calls = building ++ (building.filterMap madeStage?).map .deleteStage ∧
          (∀ call ∈ building, call.builds) ∧
          ∀ failure, result = .error failure →
            failure.isVerdict ∨ RefusedStage δ building failure := by
  refine logs_bind (logs_compileStages name program.stages) fun compiled compiling shown => ?_
  obtain ⟨building, making, failing⟩ := shown
  have releasing : Logs Recorded.calls (forEach ShaderDevice.deleteStage compiled.1 :
      Action (Recorded δ) Unit) fun _ calls => calls = compiled.1.map .deleteStage :=
    logs_forEach .deleteStage (fun stage => logs_perform (fun _ => .deleteStage stage) _) _
  cases ends : compiled.2 with
  | error failure =>
      have stops : Logs Recorded.calls
          (pure (.error failure) : Action (Recorded δ) (Except ShaderError Unit))
          fun result calls => result = .error failure ∧ calls = [] := logs_pure ⟨rfl, rfl⟩
      refine logs_bind stops fun result calls shown => ?_
      obtain ⟨rfl, rfl⟩ := shown
      refine logs_bind releasing fun _ calls released => logs_pure ?_
      refine ⟨compiling, ?_, building, ?_⟩
      · rw [released, making]
        simp
      · rw [ends] at failing
        exact failing
  | ok done =>
      refine logs_bind (logs_attachAndLink caps name program object compiled.1)
        fun result linking shown => ?_
      obtain ⟨alsoBuilding, noMore, verdict⟩ := shown
      refine logs_bind releasing fun _ calls released => logs_pure ?_
      refine ⟨compiling ++ linking, ?_, ?_, ?_⟩
      · rw [released, List.filterMap_append, making, noMore]
        simp
      · intro call member
        rcases List.mem_append.mp member with early | late
        · exact building call early
        · exact alsoBuilding call late
      · exact fun failure failed => Or.inl (verdict failure failed)

theorem logs_addSampler (program : ProgramId) (table : Reflection) (name : String) :
    Logs Recorded.calls (Reflection.addSampler program table name : Action (Recorded δ) _)
      fun _ calls => ∀ call ∈ calls, call.reflects := by
  refine logs_quiet_bind logs_get fun device => ?_
  split
  · refine logs_bind (logs_perform _ _) fun _ calls uploaded => logs_pure ?_
    subst uploaded
    simp [reflects]
  · exact logs_quiet_bind (logs_note _ _) fun _ => logs_pure (by simp)

theorem logs_addUniform (program : ProgramId) (table : Reflection) (uniform : ActiveUniform) :
    Logs Recorded.calls (Reflection.addUniform program table uniform : Action (Recorded δ) _)
      fun _ calls => ∀ call ∈ calls, call.reflects := by
  unfold Reflection.addUniform
  split
  · exact logs_pure (by simp)
  · refine logs_quiet_bind logs_get fun device => ?_
    split
    · exact logs_pure (by simp)
    · exact logs_quiet_bind (logs_note _ _) fun _ => logs_pure (by simp)

theorem logs_addActive (program : ProgramId) (table : Reflection) (uniform : ActiveUniform) :
    Logs Recorded.calls (Reflection.addActive program table uniform : Action (Recorded δ) _)
      fun _ calls => ∀ call ∈ calls, call.reflects := by
  unfold Reflection.addActive
  split
  · exact logs_pure (by simp)
  · split
    · exact logs_foldl (logs_addSampler program) _ _
    · exact logs_addUniform program table uniform

/-- Looking at the uniforms of a program makes no object and releases none. -/
theorem logs_build (program : ProgramId) :
    Logs Recorded.calls (Reflection.build program : Action (Recorded δ) _)
      fun _ calls => ∀ call ∈ calls, call.reflects := by
  refine logs_bind (logs_perform _ _) fun _ selecting selected => ?_
  refine logs_quiet_bind (logs_read _) fun uniforms => ?_
  refine logs_bind (logs_foldl (logs_addActive program) _ _) fun table calls shown => ?_
  refine logs_quiet_bind (logs_note _ _) fun _ => logs_pure ?_
  subst selected
  simpa [reflects] using shown

end Recorded

end ShaderPipeline
