import ShaderPipeline.Program.Link
import ShaderPipeline.Program.Upload
import ShaderPipeline.Proofs.Action.Frame
import ShaderPipeline.Proofs.Registry
import ShaderPipeline.Software.Device

/-!
# What the operations of the software device touch

Operations on stages leave the programs alone, operations on a program leave all
other programs alone, and uploads change no link.  Compiling and linking a
program therefore touches that program only, and no stage object outlives it.
-/

namespace ShaderPipeline.Software.Device

open Action Dialect RecastProgram

/-- A device that has made no object yet. -/
def fresh (caps : Capabilities) (format : UInt32) (failLinks : Bool) : Device where
  capabilities := caps
  binaryFormat := format
  failLinks := failLinks

/-- What a device was made with. -/
def settings (device : Device) : Capabilities × UInt32 × Bool :=
  (device.capabilities, device.binaryFormat, device.failLinks)

/-- The programs of a device, what is current and what was uploaded. -/
def programSide (device : Device) :
    Registry ProgramId ProgramObject × Option ProgramId × (Capabilities × UInt32 × Bool) ×
      List Upload :=
  (device.programs, device.current, device.settings, device.uploads)

/-- All programs but one, what is current and what was uploaded. -/
def outside (object : ProgramId) (device : Device) :
    List ProgramId × (ProgramId → Option ProgramObject) × Option ProgramId ×
      (Capabilities × UInt32 × Bool) × List Upload :=
  (device.programs.keys,
    fun other => if other = object then none else device.programs.find? other,
    device.current, device.settings, device.uploads)

/-- The stage objects of a device and the next number. -/
def stageSide (device : Device) : Registry StageId StageObject × UInt32 :=
  (device.stages, device.nextId)

/-- Which programs there are, which of them are linked, and the stage objects. -/
def linkage (device : Device) :
    List ProgramId × (ProgramId → Bool) × List StageId × UInt32 × Capabilities × UInt32 × Bool :=
  (device.programs.keys, device.linkStatus, device.stages.keys, device.nextId, device.settings)

theorem preserves_outside_of_programSide {α : Type} {action : Action Device α}
    (keeps : Preserves programSide action) (object : ProgramId) :
    Preserves (outside object) action := by
  intro device
  have same := keeps device
  simp only [programSide, Prod.mk.injEq] at same
  simp only [outside, same.1, same.2.1, same.2.2.1, same.2.2.2]

theorem preserves_createStage (stage : Stage) : Preserves programSide (createStage stage) :=
  fun _ => rfl

theorem preserves_compileStage (id : StageId) (source : String) :
    Preserves programSide (compileStage id source) := by
  refine preserves_bind (preserves_modify fun _ => rfl) fun _ => ?_
  refine preserves_bind preserves_get fun device => ?_
  split
  · exact preserves_bind (preserves_note _ _) fun _ => preserves_pure _
  · refine preserves_bind (preserves_modify fun _ => rfl) fun _ => ?_
    exact preserves_bind (preserves_note _ _) fun _ => preserves_pure _

theorem preserves_deleteStage (id : StageId) : Preserves programSide (deleteStage id) := by
  refine preserves_bind preserves_get fun device => ?_
  split
  · exact preserves_bind (preserves_modify fun _ => rfl) fun _ => preserves_note _ _
  · exact preserves_pure _

theorem preserves_adjustProgram (object : ProgramId) (change : ProgramObject → ProgramObject) :
    Preserves (fun device => (outside object device, device.stageSide))
      (adjustProgram object change) := by
  refine preserves_modify fun device => ?_
  have others : (fun other => if other = object then none
      else (device.programs.adjust object change).find? other) =
        fun other => if other = object then none else device.programs.find? other := by
    funext other
    rw [Registry.find?_adjust]
    split <;> rfl
  simp only [outside, Registry.keys_adjust, others]
  rfl

theorem preserves_attachStage (object : ProgramId) (stage : StageId) :
    Preserves (fun device => (outside object device, device.stageSide))
      (attachStage object stage) := by
  refine preserves_bind preserves_get fun device => ?_
  split
  · exact preserves_adjustProgram _ _
  · exact preserves_note _ _

theorem preserves_linkProgram (object : ProgramId) :
    Preserves (fun device => (outside object device, device.stageSide))
      (linkProgram object) := by
  refine preserves_bind (preserves_read _) fun failLinks => ?_
  exact preserves_bind (preserves_adjustProgram _ _) fun _ => preserves_read _

theorem preserves_loadBinary (object : ProgramId) (binary : ProgramBinary) :
    Preserves (fun device => (outside object device, device.stageSide))
      (loadBinary object binary) := by
  refine preserves_bind (preserves_read _) fun format => ?_
  exact preserves_bind (preserves_adjustProgram _ _) fun _ => preserves_read _

theorem preserves_attachAndLink (caps : Capabilities) (name : String) (program : RecastProgram)
    (object : ProgramId) (stages : List StageId) :
    Preserves (fun device => (outside object device, device.stageSide))
      (attachAndLink caps name program object stages) := by
  refine preserves_bind (preserves_forEach (preserves_attachStage object) _) fun _ => ?_
  refine preserves_bind (preserves_forEach (fun _ => preserves_adjustProgram object _) _)
    fun _ => ?_
  refine preserves_bind (preserves_forEach (fun _ => preserves_adjustProgram object _) _)
    fun _ => ?_
  refine preserves_bind (preserves_linkProgram object) fun _ => ?_
  refine preserves_bind (preserves_read _) fun linked => ?_
  split
  · exact preserves_pure _
  · refine preserves_bind (preserves_read _) fun log => ?_
    exact preserves_bind (preserves_note _ _) fun _ => preserves_pure _

theorem preserves_compileFailure {γ : Type} {view : Device → γ} (name : String) (stage : Stage)
    (id : StageId) (text : String) : Preserves view (compileFailure name stage id text) := by
  refine preserves_bind (preserves_read _) fun log => ?_
  refine preserves_bind (preserves_note _ _) fun _ => ?_
  exact preserves_bind (preserves_note _ _) fun _ => preserves_pure _

theorem preserves_compileStages (name : String) (stages : List (Stage × String)) :
    Preserves programSide (compileStages name stages) := by
  induction stages with
  | nil => exact preserves_pure _
  | cons entry rest ih =>
      refine preserves_bind (preserves_createStage _) fun answer => ?_
      split
      · exact preserves_pure _
      · refine preserves_bind (preserves_compileStage _ _) fun compiles => ?_
        split
        · exact preserves_bind ih fun _ => preserves_pure _
        · exact preserves_bind (preserves_compileFailure _ _ _ _) fun _ => preserves_pure _

/-- Compiling and linking a program touches no other program. -/
theorem preserves_compileAndLink (caps : Capabilities) (name : String) (program : RecastProgram)
    (object : ProgramId) :
    Preserves (outside object) (program.compileAndLink caps name object) := by
  refine preserves_bind
    (preserves_outside_of_programSide (preserves_compileStages name _) object) fun compiled => ?_
  have releasing : ∀ result : Except ShaderError Unit, Preserves (outside object)
      (do
        forEach ShaderDevice.deleteStage compiled.1
        return result : Action Device _) := by
    intro result
    refine preserves_bind (preserves_outside_of_programSide ?_ object) fun _ => preserves_pure _
    exact preserves_forEach preserves_deleteStage _
  have linking := preserves_attachAndLink caps name program object compiled.1
  dsimp only
  split
  · exact preserves_bind (preserves_pure _) releasing
  · exact preserves_bind (fun device => congrArg Prod.fst (linking device)) releasing

def withStage (device : Device) (stage : Stage) : Device :=
  { device with
    nextId := device.nextId + 1
    stages := device.stages.insert ⟨device.nextId⟩ { stage := stage } }

/-- The stage object that is compiled first has the next number. -/
theorem compileStages_cons (name : String) (stage : Stage) (text : String)
    (rest : List (Stage × String)) (device : Device) :
    (compileStages name ((stage, text) :: rest)).run device =
      (do
        if ← compileStage ⟨device.nextId⟩ text then
          let later ← compileStages name rest
          return (⟨device.nextId⟩ :: later.1, later.2)
        else
          return ([⟨device.nextId⟩],
            .error (← compileFailure name stage ⟨device.nextId⟩ text)) :
        Action Device _).run (device.withStage stage) :=
  rfl

theorem preserves_compileStage_keys (id : StageId) (source : String) :
    Preserves (fun device => (device.stages.keys, device.nextId)) (compileStage id source) := by
  refine preserves_bind (preserves_modify fun _ => rfl) fun _ => ?_
  refine preserves_bind preserves_get fun device => ?_
  split
  · exact preserves_bind (preserves_note _ _) fun _ => preserves_pure _
  · refine preserves_bind (preserves_modify fun device => ?_) fun _ => ?_
    · simp only [Registry.keys_adjust]
    · exact preserves_bind (preserves_note _ _) fun _ => preserves_pure _

/-- The stage objects that compiling leaves behind are in its answer, and each of
them took one number. -/
theorem stages_compileStages (name : String) (stages : List (Stage × String))
    (device : Device) :
    (∀ key ∈ ((compileStages name stages).run device).state.stages.keys,
      key ∈ device.stages.keys ∨ key ∈ ((compileStages name stages).run device).value.1) ∧
    ∃ count ≤ stages.length, ((compileStages name stages).run device).state.nextId =
      device.nextId + UInt32.ofNat count := by
  induction stages generalizing device with
  | nil => exact ⟨fun _ member => Or.inl member, 0, Nat.le_refl _, (UInt32.add_zero _).symm⟩
  | cons entry rest ih =>
      obtain ⟨stage, text⟩ := entry
      rw [compileStages_cons, run_bind]
      have compiled := preserves_compileStage_keys ⟨device.nextId⟩ text (device.withStage stage)
      generalize (compileStage ⟨device.nextId⟩ text).run (device.withStage stage) = outcome
        at compiled
      simp only [Prod.mk.injEq] at compiled
      obtain ⟨sameKeys, sameNext⟩ := compiled
      have keysBefore : ∀ key ∈ outcome.state.stages.keys,
          key = ⟨device.nextId⟩ ∨ key ∈ device.stages.keys := by
        rw [sameKeys]
        simp only [withStage, Registry.keys_insert, List.mem_cons, List.mem_filter]
        rintro key (isNew | ⟨old, -⟩)
        · exact Or.inl isNew
        · exact Or.inr old
      split
      · obtain ⟨keysAfter, count, bound, nextAfter⟩ := ih outcome.state
        refine ⟨?_, count + 1, Nat.succ_le_succ bound, ?_⟩
        · intro key member
          rcases keysAfter key member with earlier | later
          · rcases keysBefore key earlier with isNew | old
            · exact Or.inr (List.mem_cons.mpr (Or.inl isNew))
            · exact Or.inl old
          · exact Or.inr (List.mem_cons.mpr (Or.inr later))
        · refine nextAfter.trans ?_
          rw [sameNext, UInt32.ofNat_add, UInt32.add_comm (UInt32.ofNat count), ← UInt32.add_assoc]
          rfl
      · refine ⟨?_, 1, by simp, ?_⟩
        · intro key member
          rcases keysBefore key member with isNew | old
          · exact Or.inr (List.mem_singleton.mpr isNew)
          · exact Or.inl old
        · exact sameNext

theorem keys_deleteStage (id : StageId) (device : Device) :
    ((deleteStage id).run device).state.stages.keys = device.stages.keys.filter (· ≠ id) := by
  unfold deleteStage
  rw [run_get_bind]
  split
  · exact Registry.keys_erase _ _
  · next absent =>
      rw [Registry.contains_iff_mem_keys] at absent
      exact (Registry.filter_ne_of_notMem absent).symm

theorem keys_forEach_deleteStage (ids : List StageId) (device : Device) :
    ((forEach deleteStage ids).run device).state.stages.keys =
      device.stages.keys.filter (· ∉ ids) := by
  induction ids generalizing device with
  | nil =>
      refine (List.filter_eq_self.mpr ?_).symm
      simp
  | cons id rest ih =>
      rw [state_forEach_cons, ih, keys_deleteStage, List.filter_filter]
      refine List.filter_congr fun key _ => ?_
      simp [Bool.and_comm]

theorem nextId_deleteStage (id : StageId) :
    Preserves (fun device => device.nextId) (deleteStage id) := by
  refine preserves_bind preserves_get fun device => ?_
  split
  · exact preserves_bind (preserves_modify fun _ => rfl) fun _ => preserves_note _ _
  · exact preserves_pure _

theorem shaderDevice_deleteStage :
    (ShaderDevice.deleteStage : StageId → Action Device Unit) = deleteStage :=
  rfl

theorem linkStatus_of_attachAndLink {caps : Capabilities} {name : String}
    {program : RecastProgram} {object : ProgramId} {stages : List StageId} {device : Device}
    (links : ((attachAndLink caps name program object stages).run device).value = .ok ()) :
    ((attachAndLink caps name program object stages).run device).state.linkStatus object := by
  revert links
  unfold attachAndLink
  simp only [run_bind]
  generalize ((forEach _ _).run _).state = attached
  unfold linkAttached
  rw [run_bind, run_read_bind]
  intro links
  split
  · next linked => exact linked
  · next unlinked =>
      rw [if_neg unlinked] at links
      cases links

/-- No stage object outlives compiling and linking, and a program that was linked
stays so. -/
theorem compileAndLink_leaves (caps : Capabilities) (name : String) (program : RecastProgram)
    (object : ProgramId) (device : Device) (noStages : device.stages.keys = []) :
    ((program.compileAndLink caps name object).run device).state.stages.keys = [] ∧
    (∃ count ≤ program.stages.length,
      ((program.compileAndLink caps name object).run device).state.nextId =
        device.nextId + UInt32.ofNat count) ∧
    (((program.compileAndLink caps name object).run device).value = .ok () →
      ((program.compileAndLink caps name object).run device).state.linkStatus object) := by
  obtain ⟨keysAfter, count, bound, nextAfter⟩ := stages_compileStages name program.stages device
  generalize isCompiled : (compileStages name program.stages).run device = compiled
    at keysAfter nextAfter
  have released : compiled.state.stages.keys.filter (· ∉ compiled.value.1) = [] := by
    rw [List.filter_eq_nil_iff]
    intro key member
    have known := keysAfter key member
    rw [noStages] at known
    simpa using known
  cases ends : compiled.value.2 with
  | error failure =>
      rw [← isCompiled] at ends
      obtain ⟨fails, final⟩ := compileAndLink_of_error caps object ends
      rw [shaderDevice_deleteStage] at final
      rw [fails, final, isCompiled]
      refine ⟨?_, ⟨count, bound, ?_⟩, by simp⟩
      · rw [keys_forEach_deleteStage, released]
      · exact (preserves_forEach nextId_deleteStage _ _).trans nextAfter
  | ok done =>
      obtain ⟨links, final⟩ := compileAndLink_of_ok caps object isCompiled ends
      rw [shaderDevice_deleteStage] at final
      have linking := preserves_attachAndLink caps name program object compiled.value.1
        compiled.state
      simp only [stageSide, Prod.mk.injEq] at linking
      obtain ⟨-, sameStages, sameNext⟩ := linking
      rw [links, final]
      refine ⟨?_, ⟨count, bound, ?_⟩, ?_⟩
      · rw [keys_forEach_deleteStage, sameStages, released]
      · refine (preserves_forEach nextId_deleteStage _ _).trans ?_
        exact sameNext.trans nextAfter
      · intro linked
        have status := linkStatus_of_attachAndLink linked
        have kept := preserves_forEach preserves_deleteStage compiled.value.1
          ((attachAndLink caps name program object compiled.value.1).run compiled.state).state
        simp only [programSide, Prod.mk.injEq] at kept
        unfold linkStatus at status ⊢
        rw [kept.1]
        exact status

/-- A change of a program that does not concern its link. -/
theorem linkStatus_adjust {device : Device} {object : ProgramId}
    {change : ProgramObject → ProgramObject}
    (sameLink : ∀ entry, (change entry).linked = entry.linked) :
    ({ device with programs := device.programs.adjust object change } : Device).linkStatus =
      device.linkStatus := by
  funext other
  simp only [linkStatus, Registry.find?_adjust]
  split
  · cases device.programs.find? other with
    | none => rfl
    | some entry => simp [sameLink]
  · rfl

theorem preserves_useProgram (object : Option ProgramId) :
    Preserves linkage (useProgram object) := by
  unfold useProgram
  split
  · exact preserves_modify fun _ => rfl
  · refine preserves_bind preserves_get fun device => ?_
    split
    · exact preserves_modify fun _ => rfl
    · exact preserves_note _ _

theorem preserves_setUniform (location : UniformLocation) (value : UniformValue) :
    Preserves (fun device => (linkage device, device.current)) (setUniform location value) := by
  refine preserves_bind preserves_get fun device => ?_
  split
  · exact preserves_note _ _
  · refine preserves_bind (preserves_modify fun device => ?_) fun _ =>
      preserves_modify fun _ => rfl
    simp only [linkage, Registry.keys_adjust]
    rw [linkStatus_adjust]
    · rfl
    · exact fun _ => rfl

/-- Taking a uniform into the tables sets its samplers; nothing else happens to the
device. -/
theorem preserves_addActive_of {γ : Type} {view : Device → γ}
    (sets : ∀ location value, Preserves view (setUniform location value)) (object : ProgramId)
    (table : Reflection) (uniform : ActiveUniform) :
    Preserves view (Reflection.addActive object table uniform : Action Device _) := by
  have addSampler : ∀ table name,
      Preserves view (Reflection.addSampler object table name : Action Device _) := by
    intro table name
    refine preserves_bind preserves_get fun device => ?_
    split
    · exact preserves_bind (sets _ _) fun _ => preserves_pure _
    · exact preserves_bind (preserves_note _ _) fun _ => preserves_pure _
  have addUniform : ∀ table uniform,
      Preserves view (Reflection.addUniform object table uniform : Action Device _) := by
    intro table uniform
    unfold Reflection.addUniform
    split
    · exact preserves_pure _
    · refine preserves_bind preserves_get fun device => ?_
      split
      · exact preserves_pure _
      · exact preserves_bind (preserves_note _ _) fun _ => preserves_pure _
  unfold Reflection.addActive
  split
  · exact preserves_pure _
  · split
    · exact preserves_foldl addSampler _ _
    · exact addUniform table uniform

/-- Looking at the uniforms of a program makes it current and sets its samplers;
nothing else happens to the device. -/
theorem preserves_build_of {γ : Type} {view : Device → γ}
    (uses : ∀ object, Preserves view (useProgram object))
    (sets : ∀ location value, Preserves view (setUniform location value)) (object : ProgramId) :
    Preserves view (Reflection.build object) := by
  refine preserves_bind (uses _) fun _ => ?_
  refine preserves_bind (preserves_read _) fun uniforms => ?_
  refine preserves_bind (preserves_foldl (preserves_addActive_of sets object) _ _) fun table => ?_
  exact preserves_bind (preserves_note _ _) fun _ => preserves_pure _

theorem preserves_build (object : ProgramId) :
    Preserves linkage (Reflection.build object : Action Device _) :=
  preserves_build_of preserves_useProgram
    (fun location value device => congrArg Prod.fst (preserves_setUniform location value device))
    object

theorem current_useProgram_none (device : Device) :
    ((useProgram none).run device).state.current = none :=
  rfl

theorem current_useProgram_some {object : ProgramId} {device : Device}
    (linked : device.linkStatus object) :
    ((useProgram (some object)).run device).state.current = some object := by
  unfold useProgram
  rw [run_get_bind, if_pos linked]
  rfl

def withProgram (device : Device) : Device :=
  { device with
    nextId := device.nextId + 1
    programs := device.programs.insert ⟨device.nextId⟩ {} }

/-- The device after a program object was released. -/
theorem deleteProgram_state {object : ProgramId} {device : Device}
    (present : object ∈ device.programs.keys) :
    ((deleteProgram object).run device).state =
      { device with
        programs := device.programs.erase object
        current := if device.current = some object then none else device.current } := by
  unfold deleteProgram
  rw [run_get_bind, if_pos (Registry.contains_iff_mem_keys.mpr present)]
  rfl

end ShaderPipeline.Software.Device
