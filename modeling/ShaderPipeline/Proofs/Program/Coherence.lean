import ShaderPipeline.Proofs.Program.Run
import ShaderPipeline.Proofs.Software.Device

/-!
# A session and its software device agree

The table of a session and the programs of its device are two states that every
request changes in step.  After any run, the programs of the device are exactly
those that the handles stand for, all of them linked, the current program is the
bound one, and no stage object is left over.
-/

namespace ShaderPipeline.Session

open Action Software Software.Device Dialect

theorem preserves_onDevice_view {δ α γ : Type} {view : δ → γ} {action : Action δ α}
    (keeps : Preserves view action) :
    Preserves (fun session : Session δ => view session.device) (onDevice action) :=
  fun session => keeps session.device

theorem linkStatus_of_restore {name : String} {key : UInt32} {object : ProgramId}
    {session : Session Device} (served : ((restore name key object).run session).value = true) :
    ((restore name key object).run session).state.device.linkStatus object := by
  obtain ⟨settings, binary, -, -, -, linked⟩ := restore_of_served served
  exact linked

theorem preserves_restore_device (name : String) (key : UInt32) (object : ProgramId) :
    Preserves (fun session : Session Device =>
        (outside object session.device, session.device.stageSide))
      (restore name key object) :=
  preserves_restore_of (fun binary => preserves_onDevice_view (preserves_loadBinary object binary))
    name key

theorem length_stages_le (program : RecastProgram) : program.stages.length ≤ 2 := by
  obtain ⟨vertex, fragment, interface, diagnostics⟩ := program
  cases vertex <;> cases fragment <;> simp [RecastProgram.stages]

/-- The device changed in `object` only: no stage object is left, and at most two
numbers were given out. -/
structure Fills (object : ProgramId) (before after : Device) : Prop where
  outside : outside object after = outside object before
  noStages : after.stages.keys = []
  numbers : ∃ count ≤ 2, after.nextId = before.nextId + UInt32.ofNat count

/-- Looking into the cache and compiling both change the one object only. -/
theorem fills_compileAndLink {name : String} (program : RecastProgram) {object : ProgramId}
    {session : Session Device} (key : UInt32) (noStages : session.device.stages.keys = []) :
    let found := ((restore name key object).run session).state
    Fills object session.device found.device ∧
    Fills object session.device ((program.compileAndLink found.capabilities name object).run
      found.device).state := by
  intro found
  have looked := preserves_restore_device name key object session
  simp only [stageSide, Prod.mk.injEq] at looked
  obtain ⟨sameOutside, sameStages, sameNext⟩ := looked
  have stillNone : found.device.stages.keys = [] := by rw [sameStages, noStages]
  obtain ⟨noneLeft, ⟨count, bound, next⟩, -⟩ :=
    compileAndLink_leaves found.capabilities name program object found.device stillNone
  refine ⟨⟨sameOutside, stillNone, 0, by simp, ?_⟩, ?_, noneLeft, count, ?_, ?_⟩
  · rw [sameNext]
    exact (UInt32.add_zero _).symm
  · exact (preserves_compileAndLink _ name program object found.device).trans sameOutside
  · exact Nat.le_trans bound (length_stages_le program)
  · rw [next, sameNext]

theorem fills_of_fill_ok {name : String} {program : RecastProgram} {object : ProgramId}
    {session : Session Device} {fromCache : Bool}
    (noStages : session.device.stages.keys = [])
    (fills : ((fill name program object).run session).value = .ok fromCache) :
    Fills object session.device ((fill name program object).run session).state.device ∧
    ((fill name program object).run session).state.device.linkStatus object := by
  revert fills
  refine fill_elim name program object session ?_
  rintro _ final ends rfl
  obtain ⟨looked, compiled⟩ := fills_compileAndLink program
    (programKey program.vertex program.fragment) noStages
  cases ends with
  | restored served => exact ⟨looked, linkStatus_of_restore served⟩
  | compiled unserved compiles =>
      generalize ((restore name (programKey program.vertex program.fragment) object).run
        session).state = found at looked compiled compiles ⊢
      obtain ⟨files, kept⟩ := keep_state name (programKey program.vertex program.fragment) object
        ((compile name program object).run found.withMiss).state
      rw [kept]
      cases links : ((program.compileAndLink found.capabilities name object).run
          found.device).value with
      | error failure =>
          have fails := (compile_of_error found.withMiss rfl links).1
          rw [fails] at compiles
          cases compiles
      | ok done =>
          have final := (compile_of_ok found.withMiss rfl links).2
          rw [final]
          refine ⟨compiled, ?_⟩
          exact (compileAndLink_leaves _ name program object found.device looked.noStages).2.2 links

/-- An object that was not filled is released again. -/
theorem fills_of_fill_error {name : String} {program : RecastProgram} {object : ProgramId}
    {session : Session Device} {failure : ShaderError}
    (noStages : session.device.stages.keys = [])
    (fails : ((fill name program object).run session).value = .error failure) :
    ∃ device, Fills object session.device device ∧
      ((fill name program object).run session).state.device =
        ((deleteProgram object).run device).state := by
  revert fails
  refine fill_elim name program object session ?_
  rintro _ final ends rfl
  obtain ⟨looked, compiled⟩ := fills_compileAndLink program
    (programKey program.vertex program.fragment) noStages
  cases ends with
  | failed unserved fails =>
      generalize ((restore name (programKey program.vertex program.fragment) object).run
        session).state = found at compiled fails ⊢
      cases links : ((program.compileAndLink found.capabilities name object).run
          found.device).value with
      | error failure =>
          have final := (compile_of_error found.withMiss rfl links).2
          rw [final]
          exact ⟨_, compiled, rfl⟩
      | ok done =>
          have linked := (compile_of_ok found.withMiss rfl links).1
          rw [linked] at fails
          cases fails

/-- The session and its device agree. -/
structure Coherent (session : Session Device) : Prop where
  sound : session.Sound
  current : session.device.current = session.boundProgram?.map (·.object)
  noStages : session.device.stages.keys = []
  objects : session.device.programs.keys.Perm (session.programs.values.map (·.object))
  distinct : session.device.programs.keys.Nodup
  linked : ∀ object ∈ session.device.programs.keys, session.device.linkStatus object
  numbered : ∀ object ∈ session.device.programs.keys,
    object.number.toNat < session.device.nextId.toNat
  /-- Every slot was made for an object. -/
  room : session.programs.slots.length < session.device.nextId.toNat

theorem Coherent.mem_keys {session : Session Device} (coherent : session.Coherent)
    {handle : ProgramHandle} {program : LinkedProgram}
    (live : session.programs.get? handle = some program) :
    program.object ∈ session.device.programs.keys :=
  coherent.objects.mem_iff.mpr (List.mem_map_of_mem (ProgramTable.mem_values_of_get? live))

theorem Coherent.mem_keys_of_bound {session : Session Device} (coherent : session.Coherent)
    {object : ProgramId} (isBound : session.boundProgram?.map (·.object) = some object) :
    object ∈ session.device.programs.keys := by
  obtain ⟨program, isProgram, rfl⟩ := Option.map_eq_some_iff.mp isBound
  obtain ⟨handle, -, live⟩ := Option.bind_eq_some_iff.mp isProgram
  exact coherent.mem_keys live

/-- A change of the device that shows in no program of the table. -/
theorem Coherent.of_device {session final : Session Device} (coherent : session.Coherent)
    (sound : final.Sound) (samePrograms : final.programs = session.programs)
    (current : final.device.current = final.boundProgram?.map (·.object))
    (sameKeys : final.device.programs.keys = session.device.programs.keys)
    (noStages : final.device.stages.keys = [])
    (linked : ∀ object ∈ session.device.programs.keys, final.device.linkStatus object)
    (later : session.device.nextId.toNat ≤ final.device.nextId.toNat) : final.Coherent := by
  refine ⟨sound, current, noStages, ?_, ?_, ?_, ?_, ?_⟩
  · rw [sameKeys, samePrograms]
    exact coherent.objects
  · rw [sameKeys]
    exact coherent.distinct
  · rw [sameKeys]
    exact linked
  · rw [sameKeys]
    intro object member
    exact Nat.lt_of_lt_of_le (coherent.numbered object member) later
  · rw [samePrograms]
    exact Nat.lt_of_lt_of_le coherent.room later

theorem boundProgram?_of_core {first second : Session Device}
    (same : second.core = first.core) : second.boundProgram? = first.boundProgram? := by
  simp only [core, Prod.mk.injEq] at same
  rw [boundProgram?, boundProgram?, same.1, same.2.1]

theorem Coherent.of_linkage {session final : Session Device} (coherent : session.Coherent)
    (sound : final.Sound) (samePrograms : final.programs = session.programs)
    (current : final.device.current = final.boundProgram?.map (·.object))
    (sameLinkage : final.device.linkage = session.device.linkage) : final.Coherent := by
  simp only [linkage, Prod.mk.injEq] at sameLinkage
  obtain ⟨keys, status, stages, next, -⟩ := sameLinkage
  refine coherent.of_device sound samePrograms current keys ?_ ?_ (Nat.le_of_eq (by rw [next]))
  · rw [stages, coherent.noStages]
  · rw [status]
    exact coherent.linked

theorem coherent_start (caps : Capabilities) (format : UInt32) (failLinks : Bool)
    (files : FileTree) (cache : CacheSettings) :
    (start (Device.fresh caps format failLinks) files cache).Coherent where
  sound := sound_start _ _ _
  current := rfl
  noStages := rfl
  objects := .refl _
  distinct := List.nodup_nil
  linked := by
    intro object member
    cases member
  numbered := by
    intro object member
    cases member
  room := Nat.zero_lt_one

theorem linkStatus_of_find? {first second : Device} {object : ProgramId}
    (same : first.programs.find? object = second.programs.find? object) :
    first.linkStatus object = second.linkStatus object := by
  rw [linkStatus, linkStatus, same]

theorem find?_of_outside {object other : ProgramId} {before after : Device}
    (same : outside object after = outside object before) (different : other ≠ object) :
    after.programs.find? other = before.programs.find? other := by
  have others := congrFun (congrArg (·.2.1) same) other
  simpa [outside, different] using others

theorem Coherent.fresh {session : Session Device} (coherent : session.Coherent) :
    (⟨session.device.nextId⟩ : ProgramId) ∉ session.device.programs.keys := by
  intro member
  exact Nat.lt_irrefl _ (coherent.numbered _ member)

theorem Coherent.keys_withProgram {session : Session Device} (coherent : session.Coherent) :
    session.device.withProgram.programs.keys =
      ⟨session.device.nextId⟩ :: session.device.programs.keys := by
  simp only [withProgram, Registry.keys_insert]
  rw [Registry.filter_ne_of_notMem coherent.fresh]

/-- A program of the table is as it was while a new one is filled. -/
theorem Coherent.linked_of_fills {session : Session Device} (coherent : session.Coherent)
    {device : Device} (fills : Fills ⟨session.device.nextId⟩ session.device.withProgram device)
    {object : ProgramId} (member : object ∈ session.device.programs.keys) :
    device.linkStatus object := by
  have different : object ≠ ⟨session.device.nextId⟩ := by
    rintro rfl
    exact coherent.fresh member
  rw [linkStatus_of_find? (find?_of_outside fills.outside different),
    ← coherent.linked object member]
  refine linkStatus_of_find? ?_
  simp only [withProgram, Registry.find?_insert, if_neg different]

/-- The number of objects that were made between two states of a device. -/
def allocated (before after : Device) : Nat :=
  (after.nextId - before.nextId).toNat

theorem nextId_of_room {before after : Device}
    (room : before.nextId.toNat + allocated before after < UInt32.size) :
    after.nextId.toNat = before.nextId.toNat + allocated before after := by
  have sum : after.nextId = before.nextId + (after.nextId - before.nextId) := by
    rw [UInt32.add_comm, UInt32.sub_add_cancel]
  conv_lhs => rw [sum]
  rw [UInt32.toNat_add]
  exact Nat.mod_eq_of_lt room

theorem Fills.allocated_eq {object : ProgramId} (before : Device) {after : Device}
    (fills : Fills object before.withProgram after) :
    ∃ count ≤ 2, allocated before after = count + 1 := by
  obtain ⟨count, bound, next⟩ := fills.numbers
  have distance : after.nextId - before.nextId = UInt32.ofNat (count + 1) := by
    rw [next, UInt32.ofNat_add]
    change before.nextId + 1 + UInt32.ofNat count - before.nextId = UInt32.ofNat count + 1
    rw [UInt32.add_assoc, UInt32.add_comm before.nextId, UInt32.add_sub_cancel, UInt32.add_comm]
  refine ⟨count, bound, ?_⟩
  rw [allocated, distance, UInt32.toNat_ofNat_of_lt']
  change count + 1 < 4294967296
  omega

theorem Coherent.failed {session final : Session Device} (coherent : session.Coherent)
    {device : Device} (fills : Fills ⟨session.device.nextId⟩ session.device.withProgram device)
    (sameCore : final.core = session.core)
    (released : final.device = ((deleteProgram ⟨session.device.nextId⟩).run device).state)
    (room : session.device.nextId.toNat + allocated session.device final.device < UInt32.size) :
    final.Coherent := by
  have later := nextId_of_room room
  have keys : device.programs.keys = ⟨session.device.nextId⟩ :: session.device.programs.keys := by
    rw [← coherent.keys_withProgram]
    exact congrArg (·.1) fills.outside
  have current : device.current = session.device.current :=
    congrArg (·.2.2.1) fills.outside
  have notCurrent : device.current ≠ some ⟨session.device.nextId⟩ := by
    rw [current, coherent.current]
    exact fun isCurrent => coherent.fresh (coherent.mem_keys_of_bound isCurrent)
  rw [deleteProgram_state (by simp [keys]), if_neg notCurrent] at released
  refine coherent.of_device (coherent.sound.of_core sameCore) (congrArg (·.1) sameCore) ?_ ?_ ?_ ?_
    (by omega)
  · rw [boundProgram?_of_core sameCore, ← coherent.current, released, ← current]
  · rw [released]
    rw [Registry.keys_erase, keys, List.filter_cons_of_neg (by simp),
      Registry.filter_ne_of_notMem coherent.fresh]
  · rw [released]
    exact fills.noStages
  · intro object member
    have different : object ≠ ⟨session.device.nextId⟩ := by
      rintro rfl
      exact coherent.fresh member
    rw [released, ← coherent.linked_of_fills fills member]
    refine linkStatus_of_find? ?_
    simp only [Registry.find?_erase, if_neg different]

/-- Whatever is told to the device, it is current if it is none or linked. -/
theorem current_useProgram {object : Option ProgramId} {device : Device}
    (linked : ∀ id, object = some id → device.linkStatus id) :
    ((useProgram object).run device).state.current = object := by
  cases object with
  | none => exact current_useProgram_none device
  | some id => exact current_useProgram_some (linked id rfl)

theorem boundProgram?_insert {session : Session Device} (sound : session.Sound)
    (added : LinkedProgram) :
    session.bound.bind (session.programs.insert added).2.get? = session.boundProgram? := by
  unfold boundProgram?
  cases isBound : session.bound with
  | none => rfl
  | some handle =>
      obtain ⟨program, live⟩ := Option.isSome_iff_exists.mp (sound.bound_live handle isBound)
      simp only [Option.bind_some]
      rw [live, ProgramTable.get?_insert_of_get? sound.table added live]

theorem linkage_deviceAfterAdopt (object : ProgramId) (session : Session Device) :
    (deviceAfterAdopt object session).linkage = session.device.linkage :=
  (preserves_useProgram _ _).trans (preserves_build object session.device)

/-- Filling a new object hands out its number. -/
theorem Fills.nextId_lt {object : ProgramId} {before filled after : Device}
    (fills : Fills object before.withProgram filled) (sameNext : after.nextId = filled.nextId)
    (room : before.nextId.toNat + allocated before after < UInt32.size) :
    before.nextId.toNat < after.nextId.toNat := by
  have next := nextId_of_room room
  obtain ⟨count, -, isCount⟩ := Fills.allocated_eq _ fills
  have same : allocated before after = allocated before filled := by
    rw [allocated, allocated, sameNext]
  omega

theorem Coherent.current_deviceAfterAdopt {session filled : Session Device}
    (coherent : session.Coherent)
    (fills : Fills ⟨session.device.nextId⟩ session.device.withProgram filled.device)
    (sameCore : filled.core = session.core) :
    (deviceAfterAdopt ⟨session.device.nextId⟩ filled).current =
      filled.boundProgram?.map (·.object) := by
  refine current_useProgram ?_
  intro object isBound
  rw [boundProgram?_of_core sameCore] at isBound
  have built : ((Reflection.build _).run filled.device).state.linkStatus =
      filled.device.linkStatus :=
    congrArg (·.2.1) (preserves_build ⟨session.device.nextId⟩ filled.device)
  rw [built]
  exact coherent.linked_of_fills fills (coherent.mem_keys_of_bound isBound)

theorem Coherent.adopted {session filled : Session Device} (coherent : session.Coherent)
    (fills : Fills ⟨session.device.nextId⟩ session.device.withProgram filled.device)
    (isLinked : filled.device.linkStatus ⟨session.device.nextId⟩)
    (sameCore : filled.core = session.core) {name : String} {program : RecastProgram}
    {fromCache : Bool} {final : Session Device}
    (isFinal : final = ((adopt name program ⟨session.device.nextId⟩ fromCache).run filled).state)
    (room : session.device.nextId.toNat + allocated session.device final.device < UInt32.size) :
    final.Coherent := by
  have soundFilled := coherent.sound.of_core sameCore
  have soundFinal := sound_adopt soundFilled name program ⟨session.device.nextId⟩ fromCache
  have sameLinkage : final.device.linkage = filled.device.linkage := by
    rw [isFinal, adopt_state]
    exact linkage_deviceAfterAdopt _ _
  rw [← isFinal] at soundFinal
  simp only [linkage, Prod.mk.injEq] at sameLinkage
  obtain ⟨sameKeys, sameStatus, sameStages, sameNext, -⟩ := sameLinkage
  have keys : final.device.programs.keys =
      ⟨session.device.nextId⟩ :: session.device.programs.keys := by
    rw [sameKeys, ← coherent.keys_withProgram]
    exact congrArg (·.1) fills.outside
  have linked : ∀ object ∈ final.device.programs.keys, final.device.linkStatus object := by
    rw [keys, sameStatus]
    intro object member
    rcases List.mem_cons.mp member with rfl | old
    · exact isLinked
    · exact coherent.linked_of_fills fills old
  have grows : session.device.nextId.toNat < final.device.nextId.toNat :=
    fills.nextId_lt sameNext room
  have programs : filled.programs = session.programs := congrArg (·.1) sameCore
  have selected : final.device.current = filled.boundProgram?.map (·.object) := by
    rw [isFinal, adopt_state]
    exact coherent.current_deviceAfterAdopt fills sameCore
  have stillBound : final.boundProgram? = filled.boundProgram? := by
    rw [isFinal, adopt_state]
    exact boundProgram?_insert soundFilled _
  refine ⟨soundFinal, ?_, ?_, ?_, ?_, linked, ?_, ?_⟩
  · rw [selected, stillBound]
  · rw [sameStages]
    exact fills.noStages
  · rw [keys, isFinal, adopt_state]
    refine List.Perm.symm ?_
    refine ((ProgramTable.values_insert_perm soundFilled.table _).map _).trans ?_
    rw [programs]
    exact (coherent.objects.symm).cons _
  · rw [keys]
    exact List.nodup_cons.mpr ⟨coherent.fresh, coherent.distinct⟩
  · rw [keys]
    intro object member
    rcases List.mem_cons.mp member with rfl | old
    · exact grows
    · exact Nat.lt_trans (coherent.numbered object old) grows
  · have slots := ProgramTable.length_slots_insert_le soundFilled.table
      (linkedAs name program ⟨session.device.nextId⟩ fromCache
        ((Reflection.build ⟨session.device.nextId⟩).run filled.device).value)
    have room := coherent.room
    rw [programs] at slots
    rw [isFinal] at grows ⊢
    rw [adopt_state] at grows ⊢
    simp only [programs] at grows ⊢
    omega

theorem coherent_create {session : Session Device} (coherent : session.Coherent) (name : String)
    (vertex fragment : Option String) {final : Session Device}
    (isFinal : ((create name vertex fragment).run session).state = final)
    (room : session.device.nextId.toNat + allocated session.device final.device < UInt32.size) :
    final.Coherent := by
  have noStages : session.withObject.device.stages.keys = [] := coherent.noStages
  revert isFinal
  refine create_elim name vertex fragment session ?_
  rintro value _ ends rfl
  cases ends with
  | blank noStage => exact coherent
  | refused stage refuses => cases refuses
  | failed stage makes fails =>
      cases makes
      obtain ⟨device, fills, released⟩ := fills_of_fill_error noStages fails
      exact coherent.failed fills (preserves_fill _ _ _ session.withObject) released room
  | adopted stage makes fills isFilled =>
      cases makes
      obtain ⟨filled, linked⟩ := fills_of_fill_ok noStages fills
      rw [← isFilled] at filled linked
      refine coherent.adopted filled linked ?_ rfl room
      rw [isFilled]
      exact preserves_fill _ _ _ session.withObject

/-- Telling the device to use what is to be bound. -/
theorem Coherent.selecting {session : Session Device} (coherent : session.Coherent)
    {bound : Option ProgramHandle} {object : Option ProgramId}
    (isObject : (bound.bind session.programs.get?).map (·.object) = object)
    (live : ∀ handle, bound = some handle → (session.programs.get? handle).isSome) :
    ({ session.selecting object with bound := bound } : Session Device).Coherent := by
  refine coherent.of_linkage ⟨coherent.sound.table, live, coherent.sound.counted⟩ rfl ?_
    (preserves_useProgram object session.device)
  refine Eq.trans (current_useProgram ?_) isObject.symm
  intro id isId
  rw [isId] at isObject
  obtain ⟨program, isProgram, rfl⟩ := Option.map_eq_some_iff.mp isObject
  obtain ⟨handle, -, found⟩ := Option.bind_eq_some_iff.mp isProgram
  exact coherent.linked _ (coherent.mem_keys found)

theorem coherent_bind {session : Session Device} (coherent : session.Coherent)
    (handle : Option ProgramHandle) : ((bind handle).run session).state.Coherent := by
  refine bind_elim handle session fun value final ends => ?_
  cases ends with
  | same => exact coherent
  | unbound wasBound => exact coherent.selecting rfl (by simp)
  | bound other live =>
      refine coherent.selecting ?_ ?_
      · simp [live]
      · intro handle isBound
        cases isBound
        exact Option.isSome_of_eq_some live
  | stale other notLive => exact coherent

theorem coherent_without {session : Session Device} (coherent : session.Coherent)
    (handle : ProgramHandle) : (session.without handle).Coherent := by
  unfold without
  split
  · exact coherent.selecting rfl (by simp)
  · exact coherent

theorem boundProgram?_of_remove? {session final : Session Device} {handle : ProgramHandle}
    {program : LinkedProgram} {rest : ProgramTable LinkedProgram}
    (removed : session.programs.remove? handle = some (program, rest))
    (notBound : session.bound ≠ some handle) (isRest : final.programs = rest)
    (sameBound : final.bound = session.bound) :
    final.boundProgram? = session.boundProgram? := by
  unfold boundProgram?
  rw [isRest, sameBound]
  cases isBound : session.bound with
  | none => rfl
  | some other =>
      simp only [Option.bind_some]
      rw [ProgramTable.get?_remove? removed, if_neg]
      rintro rfl
      exact notBound isBound

/-- Releasing a program that is not bound. -/
theorem Coherent.removed {session final : Session Device} (coherent : session.Coherent)
    {handle : ProgramHandle} {program : LinkedProgram} {rest : ProgramTable LinkedProgram}
    (removed : session.programs.remove? handle = some (program, rest))
    (notBound : session.bound ≠ some handle) (sound : final.Sound)
    (isRest : final.programs = rest) (sameBound : final.bound = session.bound)
    (released : final.device = ((deleteProgram program.object).run session.device).state) :
    final.Coherent := by
  have perm : session.device.programs.keys.Perm (program.object :: rest.values.map (·.object)) :=
    coherent.objects.trans ((ProgramTable.values_remove?_perm removed).map _)
  have distinct := perm.nodup_iff.mp coherent.distinct
  rw [List.nodup_cons] at distinct
  have stillBound := boundProgram?_of_remove? removed notBound isRest sameBound
  -- Releasing the selected object would leave the driver without a selection.
  have notCurrent : session.device.current ≠ some program.object := by
    rw [coherent.current, ← stillBound]
    intro isCurrent
    obtain ⟨bound, isProgram, sameObject⟩ := Option.map_eq_some_iff.mp isCurrent
    obtain ⟨other, -, live⟩ := Option.bind_eq_some_iff.mp isProgram
    rw [isRest] at live
    refine distinct.1 ?_
    rw [← sameObject]
    exact List.mem_map_of_mem (ProgramTable.mem_values_of_get? live)
  rw [deleteProgram_state (perm.mem_iff.mpr (by simp)), if_neg notCurrent] at released
  have keys : final.device.programs.keys.Perm (rest.values.map (·.object)) := by
    rw [released, Registry.keys_erase]
    refine (perm.filter _).trans ?_
    rw [List.filter_cons_of_neg (by simp), Registry.filter_ne_of_notMem distinct.1]
  have kept : ∀ object ∈ final.device.programs.keys,
      object ≠ program.object ∧ object ∈ session.device.programs.keys := by
    intro object member
    have member := keys.mem_iff.mp member
    refine ⟨?_, perm.mem_iff.mpr (List.mem_cons_of_mem _ member)⟩
    rintro rfl
    exact distinct.1 member
  refine ⟨sound, ?_, ?_, ?_, ?_, ?_, ?_, ?_⟩
  · rw [stillBound, ← coherent.current, released]
  · rw [released]
    exact coherent.noStages
  · rw [isRest]
    exact keys
  · exact keys.nodup_iff.mpr distinct.2
  · intro object member
    obtain ⟨different, wasKey⟩ := kept object member
    rw [← coherent.linked object wasKey, released]
    refine linkStatus_of_find? ?_
    simp only [Registry.find?_erase, if_neg different]
  · intro object member
    rw [released]
    exact coherent.numbered object (kept object member).2
  · rw [isRest, ProgramTable.length_slots_remove? removed, released]
    exact coherent.room

theorem coherent_delete {session : Session Device} (coherent : session.Coherent)
    (handle : ProgramHandle) : ((delete handle).run session).state.Coherent := by
  have sound := sound_delete coherent.sound handle
  revert sound
  refine delete_elim handle session fun value final ends sound => ?_
  cases ends with
  | stale notLive => exact coherent_without coherent handle
  | deleted removed =>
      rw [← without_programs session handle] at removed
      exact (coherent_without coherent handle).removed removed (without_bound_ne session handle)
        sound rfl rfl rfl

theorem coherent_clear {session : Session Device} (coherent : session.Coherent) :
    ((clear).run session).state.Coherent := by
  unfold clear
  rw [run_read_bind]
  generalize session.programs.handles = handles
  induction handles generalizing session with
  | nil => exact coherent
  | cons handle rest ih =>
      rw [state_forEach_cons, state_deleteOrWarn]
      exact ih (coherent_delete coherent handle)

theorem UploadEnds.sameLinkage {session final : Session Device}
    (ends : UploadEnds session final) :
    (final.device.linkage, final.device.current) =
      (session.device.linkage, session.device.current) := by
  cases ends with
  | same => rfl
  | uploaded isBound location value => exact preserves_setUniform location value session.device

/-- Uploads do not show. -/
theorem Coherent.of_upload {session final : Session Device} (coherent : session.Coherent)
    (sameCore : final.core = session.core)
    (same : (final.device.linkage, final.device.current) =
      (session.device.linkage, session.device.current)) : final.Coherent := by
  rw [Prod.mk.injEq] at same
  refine coherent.of_linkage (coherent.sound.of_core sameCore) (congrArg (·.1) sameCore) ?_ same.1
  rw [same.2, boundProgram?_of_core sameCore, coherent.current]

theorem coherent_apply {session : Session Device} (coherent : session.Coherent)
    (event : SessionEvent)
    (room : session.device.nextId.toNat +
      allocated session.device (event.apply session).device < UInt32.size) :
    (event.apply session).Coherent := by
  cases event with
  | files tree => exact coherent.of_upload rfl rfl
  | request asked =>
      cases asked with
      | create name vertex fragment => exact coherent_create coherent name vertex fragment rfl room
      | delete handle => exact coherent_delete coherent handle
      | bind handle => exact coherent_bind coherent handle
      | setConstant slot data count rowMajor =>
          have kept := (setConstant_ends slot data count rowMajor session).sameHoldings
          exact coherent.of_upload (congrArg (·.1.1) kept)
            (setConstant_ends slot data count rowMajor session).sameLinkage
      | setConstantByName name data =>
          have kept := (setConstantByName_ends name data session).sameHoldings
          exact coherent.of_upload (congrArg (·.1.1) kept)
            (setConstantByName_ends name data session).sameLinkage
      | bindTexture unit texture => exact coherent.of_upload rfl rfl
      | clear => exact coherent_clear coherent

/-- The number of objects that the device makes during a run. -/
def allocations (session : Session Device) : List SessionEvent → Nat
  | [] => 0
  | event :: rest =>
      allocated session.device (event.apply session).device +
        allocations (event.apply session) rest

theorem coherent_after {session : Session Device} (coherent : session.Coherent)
    (events : List SessionEvent)
    (room : session.device.nextId.toNat + allocations session events < UInt32.size) :
    (session.after events).Coherent := by
  induction events generalizing session with
  | nil => exact coherent
  | cons event rest ih =>
      rw [allocations] at room
      have roomNow : session.device.nextId.toNat +
          allocated session.device (event.apply session).device < UInt32.size := by omega
      have next := nextId_of_room roomNow
      exact ih (coherent_apply coherent event roomNow) (by omega)

theorem nextId_deleteProgram (object : ProgramId) :
    Preserves (fun device => device.nextId) (deleteProgram object) := by
  refine preserves_bind preserves_get fun device => ?_
  split
  · exact preserves_bind (preserves_modify fun _ => rfl) fun _ => preserves_note _ _
  · exact preserves_pure _

theorem nextId_useProgram (object : Option ProgramId) :
    Preserves (fun device => device.nextId) (useProgram object) :=
  fun device => congrArg (·.2.2.2.1) (preserves_useProgram object device)

theorem nextId_bind (handle : Option ProgramHandle) :
    Preserves (fun session : Session Device => session.device.nextId) (bind handle) := by
  intro session
  refine bind_elim handle session fun value final ends => ?_
  cases ends with
  | same => rfl
  | unbound wasBound => exact nextId_useProgram none session.device
  | bound other live => exact nextId_useProgram _ session.device
  | stale other notLive => rfl

theorem nextId_delete (handle : ProgramHandle) :
    Preserves (fun session : Session Device => session.device.nextId) (delete handle) := by
  intro session
  have sameNext : (session.without handle).device.nextId = session.device.nextId := by
    unfold without
    split
    · exact nextId_useProgram none session.device
    · rfl
  refine delete_elim handle session fun value final ends => ?_
  cases ends with
  | stale notLive => exact sameNext
  | deleted removed => exact (nextId_deleteProgram _ _).trans sameNext

theorem nextId_clear : Preserves (fun session : Session Device => session.device.nextId) clear := by
  refine preserves_bind (preserves_read _) fun programs => ?_
  refine preserves_forEach (fun handle session => ?_) _
  rw [state_deleteOrWarn]
  exact nextId_delete handle session

theorem allocated_congr (before : Device) {after final : Device}
    (same : final.nextId = after.nextId) : allocated before final = allocated before after := by
  rw [allocated, allocated, same]

theorem allocated_of_nextId {before after : Device} (same : after.nextId = before.nextId) :
    allocated before after = 0 := by
  rw [allocated, same, UInt32.sub_self]
  rfl

/-- Making a program takes an object for it and one for each of its stages. -/
theorem allocated_create_le {session : Session Device}
    (noStages : session.device.stages.keys = []) (name : String)
    (vertex fragment : Option String) :
    allocated session.device ((create name vertex fragment).run session).state.device ≤ 3 := by
  have noStages : session.withObject.device.stages.keys = [] := noStages
  refine create_elim name vertex fragment session fun value final ends => ?_
  cases ends with
  | blank noStage =>
      rw [allocated_of_nextId rfl]
      omega
  | refused stage refuses => cases refuses
  | failed stage makes fails =>
      cases makes
      obtain ⟨device, fills, released⟩ := fills_of_fill_error noStages fails
      obtain ⟨count, bound, isCount⟩ := Fills.allocated_eq session.device fills
      rw [released, allocated_congr _ (nextId_deleteProgram _ _), isCount]
      omega
  | @adopted object fromCache filled stage makes fills isFilled =>
      cases makes
      obtain ⟨fills, -⟩ := fills_of_fill_ok noStages fills
      obtain ⟨count, bound, isCount⟩ := Fills.allocated_eq session.device fills
      rw [← isFilled] at isCount
      rw [adopt_state]
      have sameNext := congrArg (·.2.2.2.1)
        (linkage_deviceAfterAdopt ⟨session.device.nextId⟩ filled)
      refine Nat.le_trans (Nat.le_of_eq (allocated_congr _ sameNext)) ?_
      omega

theorem allocated_apply_le {session : Session Device}
    (noStages : session.device.stages.keys = []) (event : SessionEvent) :
    allocated session.device (event.apply session).device ≤ 3 := by
  have quiet : ∀ {after : Device}, after.nextId = session.device.nextId →
      allocated session.device after ≤ 3 := by
    intro after same
    rw [allocated_of_nextId same]
    omega
  cases event with
  | files tree => exact quiet rfl
  | request asked =>
      cases asked with
      | create name vertex fragment => exact allocated_create_le noStages name vertex fragment
      | delete handle => exact quiet (nextId_delete handle session)
      | bind handle => exact quiet (nextId_bind handle session)
      | setConstant slot data count rowMajor =>
          have kept := (setConstant_ends slot data count rowMajor session).sameLinkage
          exact quiet (congrArg (·.1.2.2.2.1) kept)
      | setConstantByName name data =>
          have kept := (setConstantByName_ends name data session).sameLinkage
          exact quiet (congrArg (·.1.2.2.2.1) kept)
      | bindTexture unit texture => exact quiet rfl
      | clear => exact quiet (nextId_clear session)

theorem allocations_le {session : Session Device} (coherent : session.Coherent)
    (events : List SessionEvent)
    (room : session.device.nextId.toNat + 3 * events.length < UInt32.size) :
    allocations session events ≤ 3 * events.length := by
  induction events generalizing session with
  | nil => exact Nat.zero_le _
  | cons event rest ih =>
      have atMost := allocated_apply_le coherent.noStages event
      rw [List.length_cons] at room ⊢
      rw [allocations]
      have roomNow : session.device.nextId.toNat +
          allocated session.device (event.apply session).device < UInt32.size := by omega
      have next := nextId_of_room roomNow
      have later := ih (coherent_apply coherent event roomNow) (by omega)
      omega

/-- What is true of a session and its device between requests. -/
structure Agrees (session : Session Device) : Prop where
  live : ∀ handle, handle ∈ session.programs.handles ↔ (session.program? handle).isSome
  bound_live : ∀ handle, session.bound = some handle → handle ∈ session.programs.handles
  current : session.device.current = session.boundProgram?.map (·.object)
  noStages : session.device.stages.size = 0
  /-- The device has one program for every handle. -/
  objects : (session.device.programs.keys.map some).Perm
    (session.programs.handles.map fun handle => (session.program? handle).map (·.object))
  distinct : session.device.programs.keys.Nodup
  linked : ∀ object ∈ session.device.programs.keys, session.device.linkStatus object
  counted : session.statistics.live = session.programs.handles.length

theorem Coherent.length_slots_le {session : Session Device} (coherent : session.Coherent) :
    session.programs.slots.length ≤ UInt32.size := by
  have small := session.device.nextId.toNat_lt
  have room := coherent.room
  change _ ≤ 4294967296
  omega

theorem Coherent.agrees {session : Session Device} (coherent : session.Coherent) :
    session.Agrees := by
  have numbered := coherent.length_slots_le
  have live : ∀ handle, handle ∈ session.programs.handles ↔ (session.program? handle).isSome :=
    fun handle => ProgramTable.mem_handles_iff coherent.sound.table numbered
  refine ⟨live, ?_, coherent.current, ?_, ?_, coherent.distinct, coherent.linked, ?_⟩
  · intro handle isBound
    exact (live handle).mpr (coherent.sound.bound_live handle isBound)
  · rw [Registry.size_eq_length_keys, coherent.noStages, List.length_nil]
  · have reached := congrArg (List.map (Option.map fun program : LinkedProgram => program.object))
      (ProgramTable.map_get?_handles coherent.sound.table numbered)
    simp only [List.map_map] at reached
    refine (coherent.objects.map some).trans ?_
    rw [List.map_map]
    exact List.Perm.of_eq reached.symm
  · rw [coherent.sound.counted, ProgramTable.live_eq_length_values coherent.sound.table,
      ProgramTable.length_handles]

/-- A session over a new device agrees with it after any run, as long as the device
does not run out of numbers. -/
theorem agrees_after_run (caps : Capabilities) (format : UInt32) (failLinks : Bool)
    (files : FileTree) (cache : CacheSettings) (events : List SessionEvent)
    (few : allocations (start (Device.fresh caps format failLinks) files cache) events <
      UInt32.size - 1) :
    ((start (Device.fresh caps format failLinks) files cache).after events).Agrees := by
  refine (coherent_after (coherent_start caps format failLinks files cache) events ?_).agrees
  change 1 + _ < _
  omega

/-- A run with a program that is made twice, one that does not compile, a stale
handle and files that are left by others. -/
def mixedRun : List SessionEvent :=
  [ .request (.create "lamp" (some "in vec4 place : POSITION; void main() { }") none),
    .request (.create "fault" none (some "#error unfinished")),
    .request (.bind (some ⟨0, 0⟩)),
    .files {},
    .request (.create "lamp" (some "in vec4 place : POSITION; void main() { }") none),
    .request (.delete ⟨0, 0⟩),
    .request (.bind (some ⟨0, 0⟩)),
    .request .clear ]

theorem agrees_after_mixedRun :
    allocations (start (Device.fresh .gl33 1 false) {} {}) mixedRun < UInt32.size - 1 ∧
    ((start (Device.fresh .gl33 1 false) {} {}).after mixedRun).Agrees := by
  have few : allocations (start (Device.fresh .gl33 1 false) {} {}) mixedRun <
      UInt32.size - 1 :=
    Nat.lt_of_le_of_lt
      (allocations_le (coherent_start .gl33 1 false {} {}) mixedRun (by decide)) (by decide)
  exact ⟨few, agrees_after_run .gl33 1 false {} {} mixedRun few⟩

end ShaderPipeline.Session
