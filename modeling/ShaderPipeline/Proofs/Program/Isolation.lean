import ShaderPipeline.Proofs.Program.Coherence

/-!
# Programs do not disturb each other

All programs of a session share one device, its numbers and its current program.
Still a request reaches no further than it should: making, binding and deleting
programs leaves all other programs as they are, in the table and on the device,
and setting a constant writes one value of the bound program at most.
-/

namespace ShaderPipeline

open Action Software Software.Device Dialect

namespace Software.Device

/-- The current program, and all programs but that one. -/
def besideCurrent (device : Device) :
    Option ProgramId × (ProgramId → Option ProgramObject) :=
  (device.current,
    fun other => if device.current = some other then none else device.programs.find? other)

theorem setUniform_state {object : ProgramId} {device : Device}
    (isCurrent : device.current = some object) (location : UniformLocation)
    (value : UniformValue) :
    ((setUniform location value).run device).state =
      { device with
        programs := device.programs.adjust object fun entry =>
          { entry with values := entry.values.insert location value }
        uploads := device.uploads ++ [⟨object, location, value⟩] } := by
  unfold setUniform
  rw [run_get_bind]
  split
  · next noCurrent => cases isCurrent.symm.trans noCurrent
  · next current isThis =>
      cases isCurrent.symm.trans isThis
      rfl

/-- Only the current program takes values. -/
theorem besideCurrent_setUniform (location : UniformLocation) (value : UniformValue) :
    Preserves besideCurrent (setUniform location value) := by
  intro device
  cases isCurrent : device.current with
  | none =>
      unfold setUniform
      rw [run_get_bind, isCurrent]
      rfl
  | some object =>
      rw [setUniform_state isCurrent]
      simp only [besideCurrent, isCurrent, Option.some.injEq]
      congr 1
      funext other
      split
      · rfl
      · next different => rw [Registry.find?_adjust, if_neg (Ne.symm different)]

theorem programs_useProgram (object : Option ProgramId) (device : Device) :
    ((useProgram object).run device).state.programs = device.programs := by
  unfold useProgram
  split
  · rfl
  · rw [run_get_bind]
    split <;> rfl

theorem find?_deleteProgram {object other : ProgramId} (different : other ≠ object)
    (device : Device) :
    ((deleteProgram object).run device).state.programs.find? other =
      device.programs.find? other := by
  unfold deleteProgram
  rw [run_get_bind]
  split
  · exact (Registry.find?_erase _ _ _).trans (if_neg different)
  · rfl

theorem find?_of_besideCurrent {object other : ProgramId} {before after : Device}
    (same : besideCurrent after = besideCurrent before) (isCurrent : before.current = some object)
    (different : other ≠ object) : after.programs.find? other = before.programs.find? other := by
  have stillCurrent : after.current = some object := (congrArg (·.1) same).trans isCurrent
  have others := congrFun (congrArg (·.2) same) other
  simpa [besideCurrent, isCurrent, stillCurrent, Ne.symm different] using others

/-- Looking at the uniforms of a linked program touches no other program. -/
theorem find?_build {object other : ProgramId} {device : Device}
    (linked : device.linkStatus object) (different : other ≠ object) :
    ((Reflection.build object).run device).state.programs.find? other =
      device.programs.find? other := by
  have programs := programs_useProgram (some object) device
  have isCurrent := current_useProgram_some linked
  generalize isSelected : ((useProgram (some object)).run device).state = selected
    at programs isCurrent
  have isBuilt : ((Reflection.build object).run device).state =
      ((foldl (Reflection.addActive object) {} (activeUniforms selected object)).run
        selected).state := by
    rw [← isSelected]
    rfl
  rw [isBuilt, ← programs]
  refine find?_of_besideCurrent ?_ isCurrent different
  exact preserves_foldl (preserves_addActive_of besideCurrent_setUniform object) _ _ selected

end Software.Device

namespace Session

/-- The program under a handle is in the table and on the device as it was.  What the
device has for it are its linked texts, its locations and its values. -/
structure Keeps (before after : Session Device) (handle : ProgramHandle)
    (program : LinkedProgram) : Prop where
  record : after.program? handle = some program
  object : ∃ object, before.device.programs.find? program.object = some object ∧
    after.device.programs.find? program.object = some object

theorem Coherent.exists_object {session : Session Device} (coherent : session.Coherent)
    {handle : ProgramHandle} {program : LinkedProgram}
    (live : session.program? handle = some program) :
    ∃ object, session.device.programs.find? program.object = some object :=
  Option.isSome_iff_exists.mp (Registry.mem_keys_iff.mp (coherent.mem_keys live))

theorem Coherent.keeps {session final : Session Device} (coherent : session.Coherent)
    {handle : ProgramHandle} {program : LinkedProgram}
    (live : session.program? handle = some program)
    (record : final.program? handle = some program)
    (same : final.device.programs.find? program.object =
      session.device.programs.find? program.object) : Keeps session final handle program := by
  obtain ⟨object, found⟩ := coherent.exists_object live
  exact ⟨record, object, found, same.trans found⟩

theorem program?_of_core {first second : Session Device} (same : second.core = first.core) :
    second.program? = first.program? := by
  have programs : second.programs = first.programs := congrArg (·.1) same
  funext handle
  rw [program?, program?, programs]

section Requests

variable {session : Session Device} {handle : ProgramHandle} {program : LinkedProgram}

theorem Coherent.object_ne_nextId (coherent : session.Coherent)
    (live : session.program? handle = some program) :
    program.object ≠ ⟨session.device.nextId⟩ := by
  intro isNext
  exact coherent.fresh (isNext ▸ coherent.mem_keys live)

/-- Making an object and filling it touches no other object. -/
theorem find?_of_fills {device : Device} {other : ProgramId}
    (fills : Fills ⟨session.device.nextId⟩ session.device.withProgram device)
    (different : other ≠ ⟨session.device.nextId⟩) :
    device.programs.find? other = session.device.programs.find? other := by
  rw [find?_of_outside fills.outside different]
  simp only [withProgram, Registry.find?_insert, if_neg different]

theorem Coherent.keeps_failed (coherent : session.Coherent)
    (live : session.program? handle = some program) {device : Device} {final : Session Device}
    (fills : Fills ⟨session.device.nextId⟩ session.device.withProgram device)
    (sameCore : final.core = session.core)
    (released : final.device = ((deleteProgram ⟨session.device.nextId⟩).run device).state) :
    Keeps session final handle program := by
  have different := coherent.object_ne_nextId live
  refine coherent.keeps live ?_ ?_
  · rw [program?_of_core sameCore, live]
  · rw [released, find?_deleteProgram different, find?_of_fills fills different]

theorem Coherent.keeps_adopted (coherent : session.Coherent)
    (live : session.program? handle = some program) {filled : Session Device}
    (fills : Fills ⟨session.device.nextId⟩ session.device.withProgram filled.device)
    (linked : filled.device.linkStatus ⟨session.device.nextId⟩)
    (sameCore : filled.core = session.core) (name : String) (made : RecastProgram)
    (fromCache : Bool) :
    Keeps session ((adopt name made ⟨session.device.nextId⟩ fromCache).run filled).state
      handle program := by
  have different := coherent.object_ne_nextId live
  have wasLive : filled.program? handle = some program := by
    rw [program?_of_core sameCore, live]
  rw [adopt_state]
  refine coherent.keeps live ?_ ?_
  · exact ProgramTable.get?_insert_of_get? (coherent.sound.of_core sameCore).table _ wasLive
  · simp only [deviceAfterAdopt]
    refine (congrArg (Registry.find? · program.object) (programs_useProgram _ _)).trans ?_
    rw [find?_build linked different, find?_of_fills fills different]

theorem keeps_create (coherent : session.Coherent) (name : String)
    (vertex fragment : Option String) (live : session.program? handle = some program) :
    Keeps session ((create name vertex fragment).run session).state handle program := by
  have noStages : session.withObject.device.stages.keys = [] := coherent.noStages
  refine create_elim name vertex fragment session fun value final ends => ?_
  cases ends with
  | blank noStage => exact coherent.keeps live live rfl
  | refused stage refuses => cases refuses
  | failed stage makes fails =>
      cases makes
      obtain ⟨device, fills, released⟩ := fills_of_fill_error noStages fails
      exact coherent.keeps_failed live fills (preserves_fill _ _ _ session.withObject) released
  | adopted stage makes fills isFilled =>
      cases makes
      obtain ⟨fills, linked⟩ := fills_of_fill_ok noStages fills
      rw [← isFilled] at fills linked
      refine coherent.keeps_adopted live fills linked ?_ _ _ _
      rw [isFilled]
      exact preserves_fill _ _ _ session.withObject

theorem Coherent.keeps_selecting (coherent : session.Coherent)
    (live : session.program? handle = some program) (object : Option ProgramId)
    (bound : Option ProgramHandle) :
    Keeps session { session.selecting object with bound := bound } handle program :=
  coherent.keeps live live
    (congrArg (Registry.find? · program.object) (programs_useProgram object session.device))

theorem keeps_bind (coherent : session.Coherent) (target : Option ProgramHandle)
    (live : session.program? handle = some program) :
    Keeps session ((bind target).run session).state handle program := by
  refine bind_elim target session fun value final ends => ?_
  cases ends with
  | same => exact coherent.keeps live live rfl
  | unbound wasBound => exact coherent.keeps_selecting live _ _
  | bound other found => exact coherent.keeps_selecting live _ _
  | stale other notLive => exact coherent.keeps live live rfl

theorem keeps_without (coherent : session.Coherent) (target : ProgramHandle)
    (live : session.program? handle = some program) :
    Keeps session (session.without target) handle program := by
  unfold without
  split
  · exact coherent.keeps_selecting live _ _
  · exact coherent.keeps live live rfl

/-- Two handles stand for two objects. -/
theorem Coherent.object_ne (coherent : session.Coherent) {target : ProgramHandle}
    {removed : LinkedProgram} (live : session.program? handle = some program)
    (targeted : session.program? target = some removed) (different : handle ≠ target) :
    program.object ≠ removed.object := by
  obtain ⟨rest, taken⟩ : ∃ rest, session.programs.remove? target = some (removed, rest) :=
    ProgramTable.exists_remove? targeted
  have perm : session.device.programs.keys.Perm (removed.object :: rest.values.map (·.object)) :=
    coherent.objects.trans ((ProgramTable.values_remove?_perm taken).map _)
  have distinct := perm.nodup_iff.mp coherent.distinct
  have stillLive : rest.get? handle = some program := by
    rw [ProgramTable.get?_remove? taken, if_neg different]
    exact live
  intro same
  refine (List.nodup_cons.mp distinct).1 ?_
  rw [← same]
  exact List.mem_map_of_mem (ProgramTable.mem_values_of_get? stillLive)

theorem keeps_delete (coherent : session.Coherent) {target : ProgramHandle}
    (live : session.program? handle = some program) (different : handle ≠ target) :
    Keeps session ((delete target).run session).state handle program := by
  have kept := keeps_without coherent target live
  refine delete_elim target session fun value final ends => ?_
  cases ends with
  | stale notLive => exact kept
  | @deleted removed rest taken =>
      obtain ⟨object, before, after⟩ := kept.object
      have otherObject := coherent.object_ne live (ProgramTable.remove?_cases taken).1 different
      refine ⟨?_, object, before, ?_⟩
      · change rest.get? handle = _
        rw [ProgramTable.get?_remove? taken, if_neg different]
        exact live
      · rw [← after]
        exact find?_deleteProgram otherObject _

theorem program?_delete (target other : ProgramHandle) (session : Session Device) :
    ((delete target).run session).state.program? other =
      if other = target then none else session.program? other := by
  refine delete_elim target session fun value final ends => ?_
  cases ends with
  | stale notLive =>
      rw [program?, without_programs]
      split
      · next same => rw [same, notLive]
      · rfl
  | deleted taken => exact ProgramTable.get?_remove? taken other

/-- Nothing is left in the table of a session that was cleared. -/
theorem program?_clear (coherent : session.Coherent) (handle : ProgramHandle) :
    ((clear).run session).state.program? handle = none := by
  have cleared : ∀ (handles : List ProgramHandle) (session : Session Device),
      ((forEach deleteOrWarn handles).run session).state.program? handle =
        if handle ∈ handles then none else session.program? handle := by
    intro handles
    induction handles with
    | nil => exact fun _ => rfl
    | cons target rest ih =>
        intro session
        rw [state_forEach_cons, state_deleteOrWarn, ih, program?_delete]
        simp only [List.mem_cons]
        split
        · next later => rw [if_pos (Or.inr later)]
        · next notLater => simp only [notLater, or_false]
  unfold clear
  rw [run_read_bind, cleared]
  split
  · rfl
  · next notLive =>
      rw [ProgramTable.mem_handles_iff coherent.sound.table coherent.length_slots_le,
        Option.not_isSome_iff_eq_none] at notLive
      exact notLive

end Requests

/-- Nothing was written but one value of the bound program, or not even that. -/
structure WritesOneValue (before after : Session Device) : Prop where
  others : ∀ handle program, before.program? handle = some program →
    before.bound ≠ some handle → Keeps before after handle program
  bound : ∃ location, ∀ handle program, before.program? handle = some program →
    before.bound = some handle → after.program? handle = some program ∧
      ∃ object values, before.device.programs.find? program.object = some object ∧
        after.device.programs.find? program.object = some { object with values := values } ∧
        ∀ other, other ≠ location → values.find? other = object.values.find? other

section Uploads

variable {session : Session Device}

theorem Coherent.writes_nothing (coherent : session.Coherent) :
    WritesOneValue session session := by
  refine ⟨fun handle program live _ => coherent.keeps live live rfl, ⟨0⟩, ?_⟩
  intro handle program live isBound
  obtain ⟨object, found⟩ := coherent.exists_object live
  exact ⟨live, object, object.values, found, found, fun _ _ => rfl⟩

/-- The device takes a value for the bound program. -/
theorem Coherent.writes_uploaded (coherent : session.Coherent) {uploading : LinkedProgram}
    (isBound : session.boundProgram? = some uploading) (location : UniformLocation)
    (value : UniformValue) :
    WritesOneValue session
      { session with
        device := ((ShaderDevice.setUniform location value).run session.device).state } := by
  have isCurrent : session.device.current = some uploading.object := by
    rw [coherent.current, isBound]
    rfl
  obtain ⟨target, targeted, found⟩ := Option.bind_eq_some_iff.mp isBound
  have programs : ((setUniform location value).run session.device).state.programs =
      session.device.programs.adjust uploading.object fun entry =>
        { entry with values := entry.values.insert location value } := by
    rw [setUniform_state isCurrent]
  refine ⟨?_, location, ?_⟩
  · intro handle program live notBound
    have different : handle ≠ target := fun same => notBound (same ▸ targeted)
    refine coherent.keeps live live ?_
    refine (congrArg (Registry.find? · program.object) programs).trans ?_
    rw [Registry.find?_adjust, if_neg (coherent.object_ne live found different)]
  · intro handle program live bound
    obtain rfl : handle = target := Option.some.inj (bound.symm.trans targeted)
    obtain rfl : program = uploading := Option.some.inj (live.symm.trans found)
    obtain ⟨object, isObject⟩ := coherent.exists_object live
    refine ⟨live, object, object.values.insert location value, isObject, ?_, ?_⟩
    · refine (congrArg (Registry.find? · program.object) programs).trans ?_
      rw [Registry.find?_adjust, if_pos rfl, isObject]
      rfl
    · intro other different
      rw [Registry.find?_insert, if_neg different]

theorem UploadEnds.writesOneValue {final : Session Device} (ends : UploadEnds session final)
    (coherent : session.Coherent) : WritesOneValue session final := by
  cases ends with
  | same => exact coherent.writes_nothing
  | uploaded isBound location value => exact coherent.writes_uploaded isBound location value

end Uploads

/-- How far a request may reach. -/
def Confined (before after : Session Device) : Request → Prop
  | .create _ _ _ | .bind _ | .bindTexture _ _ =>
      ∀ handle program, before.program? handle = some program →
        Keeps before after handle program
  | .delete target =>
      ∀ handle program, before.program? handle = some program → handle ≠ target →
        Keeps before after handle program
  | .setConstant _ _ _ _ | .setConstantByName _ _ => WritesOneValue before after
  | .clear => ∀ handle, after.program? handle = none

/-- The sessions that come about while the device has a number for every object.  The
device may begin or cease to refuse linking, and its uploads may be taken, at any time.  The
bound of an event says that no object it makes lets `nextId` overflow, which would stop the
program. -/
inductive Reachable : Session Device → Prop
  | start (capabilities : Capabilities) (format : UInt32) (failLinks : Bool) (files : FileTree)
      (cache : CacheSettings) :
      Reachable (start (Device.fresh capabilities format failLinks) files cache)
  | event {session : Session Device} (reachable : Reachable session) (event : SessionEvent)
      (numbered : session.device.nextId.toNat +
        allocated session.device (event.apply session).device < UInt32.size) :
      Reachable (event.apply session)
  | failLinks {session : Session Device} (reachable : Reachable session) (fail : Bool) :
      Reachable ((onDevice (setFailLinks fail)).run session).state
  | takeUploads {session : Session Device} (reachable : Reachable session) :
      Reachable ((onDevice takeUploads).run session).state

theorem Reachable.coherent {session : Session Device} (reachable : session.Reachable) :
    session.Coherent := by
  induction reachable with
  | start capabilities format failLinks files cache =>
      exact coherent_start capabilities format failLinks files cache
  | event _ event numbered ih => exact coherent_apply ih event numbered
  | failLinks _ _ ih =>
      exact ih.of_device (ih.sound.of_core rfl) rfl ih.current rfl ih.noStages ih.linked
        (Nat.le_refl _)
  | takeUploads _ ih => exact ih.of_upload rfl rfl

/-- Short runs can be reached. -/
theorem Reachable.after {session : Session Device} (reachable : session.Reachable)
    (events : List SessionEvent)
    (few : session.device.nextId.toNat + 3 * events.length < UInt32.size) :
    (session.after events).Reachable := by
  induction events generalizing session with
  | nil => exact reachable
  | cons event rest ih =>
      rw [List.length_cons] at few
      have atMost := allocated_apply_le reachable.coherent.noStages event
      have numbered : session.device.nextId.toNat +
          allocated session.device (event.apply session).device < UInt32.size := by omega
      have next := nextId_of_room numbered
      exact ih (reachable.event event numbered) (by omega)

/-- No request reaches further than it may, whether it is granted or fails. -/
theorem requests_are_confined {session : Session Device} (reachable : session.Reachable)
    (asked : Request) : Confined session (asked.perform.run session).state asked := by
  have coherent := reachable.coherent
  cases asked with
  | create name vertex fragment =>
      exact fun handle program live => keeps_create coherent name vertex fragment live
  | delete target =>
      exact fun handle program live different => keeps_delete coherent live different
  | bind target => exact fun handle program live => keeps_bind coherent target live
  | setConstant slot data count rowMajor =>
      exact (setConstant_ends slot data count rowMajor session).writesOneValue coherent
  | setConstantByName name data =>
      exact (setConstantByName_ends name data session).writesOneValue coherent
  | bindTexture unit texture => exact fun handle program live => coherent.keeps live live rfl
  | clear => exact program?_clear coherent

/-- Two programs that sample textures, the first of which is bound. -/
def pairRun : List SessionEvent :=
  [ .request (.create "lamp" none (some "uniform float dim; uniform sampler2D shade;")),
    .request (.create "sky" none (some "uniform sampler2D cloud; uniform float haze;")),
    .request (.bind (some ⟨0, 0⟩)) ]

theorem create_is_confined_after_pairRun :
    let session := (start (Device.fresh .gl33 1 false) {} {}).after pairRun
    let asked := Request.create "sea" none (some "uniform sampler2D foam;")
    session.Reachable ∧ Confined session (asked.perform.run session).state asked := by
  intro session asked
  have reachable : session.Reachable :=
    (Reachable.start .gl33 1 false {} {}).after pairRun (by decide)
  exact ⟨reachable, requests_are_confined reachable asked⟩

end Session

end ShaderPipeline
