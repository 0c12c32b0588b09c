import ShaderPipeline.Proofs.Action.Simulation
import ShaderPipeline.Proofs.Software.Device

/-!
# What a program object of the software device holds

A program object that was linked from stages holds their texts and the layout of
their uniforms, whatever else the device holds.  The same is true of an object
that was loaded from a binary with these stages, so that looking at the uniforms
of the two gives the same tables.
-/

namespace ShaderPipeline.Software.Device

open Action Dialect RecastProgram

/-- What compiling makes of a stage. -/
def compiledStage (entry : Stage × String) : StageObject :=
  compiled { stage := entry.1 } entry.2

theorem source_compiledStage (entry : Stage × String) :
    (compiledStage entry).stage = entry.1 ∧ (compiledStage entry).source = entry.2 := by
  unfold compiledStage compiled
  split <;> exact ⟨rfl, rfl⟩

/-- The failure of the first stage that does not compile. -/
def fault? (name : String) (stages : List (Stage × String)) : Option ShaderError :=
  stages.findSome? fun entry =>
    if (compiledStage entry).compiled then none
    else
      some (.compilationFailed name entry.1 (compiledStage entry).log (Listing.numbered entry.2))

theorem fault?_cons_of_compiled (name : String) {entry : Stage × String}
    (compiles : (compiledStage entry).compiled) (rest : List (Stage × String)) :
    fault? name (entry :: rest) = fault? name rest := by
  rw [fault?, List.findSome?_cons, if_pos compiles]
  rfl

theorem compiled_of_fault?_eq_none {name : String} {stages : List (Stage × String)}
    (sound : fault? name stages = none) : ∀ entry ∈ stages, (compiledStage entry).compiled := by
  intro entry member
  have noFault := List.findSome?_eq_none_iff.mp sound entry member
  by_contra fails
  rw [if_neg fails] at noFault
  cases noFault

theorem fault?_eq_none {stages : List (Stage × String)}
    (compiles : ∀ entry ∈ stages, (compiledStage entry).compiled) (name : String) :
    fault? name stages = none := by
  rw [fault?, List.findSome?_eq_none_iff]
  intro entry member
  rw [if_pos (compiles entry member)]

theorem compileStage_run {device : Device} {id : StageId} {object : StageObject}
    (found : device.stages.find? id = some object) (source : String) :
    ((compileStage id source).run device).value = (compiled object source).compiled ∧
    ∀ other, ((compileStage id source).run device).state.stages.find? other =
      if other = id then some (compiled object source) else device.stages.find? other := by
  unfold compileStage
  rw [run_bind, run_get_bind]
  simp only [run_modify, found]
  refine ⟨rfl, ?_⟩
  intro other
  change (device.stages.adjust id _).find? other = _
  rw [Registry.find?_adjust]
  split
  · next same => rw [same, found, Option.map_some]
  · rfl

/-- Compiling touches only the stage objects that it makes. -/
theorem find?_compileStages (name : String) (stages : List (Stage × String)) (device : Device)
    {id : StageId}
    (other : ∀ count < stages.length, id ≠ ⟨device.nextId + UInt32.ofNat count⟩) :
    ((compileStages name stages).run device).state.stages.find? id = device.stages.find? id := by
  induction stages generalizing device with
  | nil => rfl
  | cons entry rest ih =>
      obtain ⟨stage, text⟩ := entry
      have notFirst : id ≠ ⟨device.nextId⟩ := by
        have different := other 0 (by simp)
        rwa [show device.nextId + UInt32.ofNat 0 = device.nextId from UInt32.add_zero _]
          at different
      have made : (device.withStage stage).stages.find? ⟨device.nextId⟩ =
          some { stage := stage } := by
        simp [withStage, Registry.find?_insert]
      obtain ⟨-, after⟩ := compileStage_run made text
      have next := congrArg (·.2) (preserves_compileStage_keys ⟨device.nextId⟩ text
        (device.withStage stage))
      rw [compileStages_cons, run_bind]
      generalize (compileStage ⟨device.nextId⟩ text).run (device.withStage stage) = outcome
        at after next
      have untouched : outcome.state.stages.find? id = device.stages.find? id := by
        rw [after, if_neg notFirst]
        simp [withStage, Registry.find?_insert, notFirst]
      have next : outcome.state.nextId = device.nextId + 1 := next
      split
      · refine (ih outcome.state ?_).trans untouched
        intro count inRest
        rw [next]
        have different := other (count + 1) (by simpa using inRest)
        rwa [UInt32.ofNat_add, UInt32.add_comm (UInt32.ofNat count), ← UInt32.add_assoc]
          at different
      · exact untouched

/-- Compiling ends with the first stage that fails. -/
theorem compileStages_of_fault {name : String} {stages : List (Stage × String)}
    {failure : ShaderError} (fails : fault? name stages = some failure) (device : Device) :
    ((compileStages name stages).run device).value.2 = .error failure := by
  induction stages generalizing device with
  | nil => cases fails
  | cons entry rest ih =>
      obtain ⟨stage, text⟩ := entry
      have made : (device.withStage stage).stages.find? ⟨device.nextId⟩ =
          some { stage := stage } := by
        simp [withStage, Registry.find?_insert]
      obtain ⟨status, after⟩ := compileStage_run made text
      have status : _ = (compiledStage (stage, text)).compiled := status
      rw [compileStages_cons, run_bind]
      generalize (compileStage ⟨device.nextId⟩ text).run (device.withStage stage) = outcome
        at status after
      by_cases compiles : (compiledStage (stage, text)).compiled
      · rw [if_pos (status.trans compiles)]
        rw [fault?_cons_of_compiled name compiles] at fails
        exact ih fails outcome.state
      · rw [if_neg (by rw [status]; exact compiles)]
        rw [fault?, List.findSome?_cons, if_neg compiles] at fails
        cases fails
        have log : outcome.state.stageLog ⟨device.nextId⟩ = (compiledStage (stage, text)).log := by
          rw [stageLog, after, if_pos rfl]
          rfl
        rw [← log]
        rfl

/-- Stages that all compile are there when compiling is done. -/
theorem compileStages_of_sound {name : String} {stages : List (Stage × String)}
    (sound : fault? name stages = none) (few : stages.length < UInt32.size) (device : Device) :
    ((compileStages name stages).run device).value.2 = .ok () ∧
    List.Forall₂ (fun id entry =>
        ((compileStages name stages).run device).state.stages.find? id =
          some (compiledStage entry))
      ((compileStages name stages).run device).value.1 stages := by
  induction stages generalizing device with
  | nil => exact ⟨rfl, .nil⟩
  | cons entry rest ih =>
      obtain ⟨stage, text⟩ := entry
      have compiles := compiled_of_fault?_eq_none sound (stage, text) List.mem_cons_self
      rw [fault?_cons_of_compiled name compiles] at sound
      have made : (device.withStage stage).stages.find? ⟨device.nextId⟩ =
          some { stage := stage } := by
        simp [withStage, Registry.find?_insert]
      obtain ⟨status, after⟩ := compileStage_run made text
      have next := congrArg (·.2) (preserves_compileStage_keys ⟨device.nextId⟩ text
        (device.withStage stage))
      rw [compileStages_cons, run_bind]
      generalize (compileStage ⟨device.nextId⟩ text).run (device.withStage stage) = outcome
        at status after next
      have next : outcome.state.nextId = device.nextId + 1 := next
      rw [List.length_cons] at few
      obtain ⟨done, objects⟩ := ih sound (by omega) outcome.state
      rw [if_pos (status.trans compiles)]
      refine ⟨done, .cons ?_ objects⟩
      -- The numbers of the later stage objects are all greater than the first one.
      refine (find?_compileStages name rest outcome.state ?_).trans ?_
      · intro count inRest same
        rw [next, StageId.mk.injEq, UInt32.add_assoc] at same
        have number := congrArg UInt32.toNat same
        have small : (UInt32.ofNat count).toNat = count :=
          UInt32.toNat_ofNat_of_lt' (by omega)
        have bound := device.nextId.toNat_lt
        rw [UInt32.toNat_add, UInt32.toNat_add, small] at number
        change count < rest.length at inRest
        change rest.length + 1 < 4294967296 at few
        simp only [UInt32.toNat_one, Nat.reducePow] at number bound
        omega
      · rw [after, if_pos rfl]
        rfl

def attachedTo (object : ProgramId) (device : Device) : Option (List AttachedStage) :=
  (device.programs.find? object).map (·.attached)

/-- What linking and uploading leave in a program. -/
def contentOf (object : ProgramId) (device : Device) :
    Option (List (Stage × String) × Bool × String × UniformLayout ×
      Registry UniformLocation UniformValue) :=
  (device.programs.find? object).map fun entry =>
    (entry.linkedStages, entry.linked, entry.log, entry.layout, entry.values)

def linkedContent (stages : List (Stage × String)) :
    List (Stage × String) × Bool × String × UniformLayout ×
      Registry UniformLocation UniformValue :=
  (stages, true, "", .ofStages stages, {})

theorem find?_adjustProgram (object : ProgramId) (change : ProgramObject → ProgramObject)
    (device : Device) :
    ((adjustProgram object change).run device).state.programs.find? object =
      (device.programs.find? object).map change := by
  change (device.programs.adjust object change).find? object = _
  rw [Registry.find?_adjust, if_pos rfl]

/-- A stage as it is attached after it was compiled. -/
def attachedAs (entry : Stage × String) : AttachedStage :=
  ⟨entry.1, entry.2, (compiledStage entry).compiled⟩

theorem attachedTo_attachStage {object : ProgramId} {id : StageId} {entry : Stage × String}
    {device : Device} {before : List AttachedStage}
    (present : attachedTo object device = some before)
    (found : device.stages.find? id = some (compiledStage entry)) :
    attachedTo object ((attachStage object id).run device).state =
      some (before ++ [attachedAs entry]) := by
  obtain ⟨program, isProgram, rfl⟩ := Option.map_eq_some_iff.mp present
  obtain ⟨isStage, isSource⟩ := source_compiledStage entry
  unfold attachStage
  rw [run_get_bind]
  simp only [isProgram, found]
  rw [attachedTo, find?_adjustProgram, isProgram]
  simp [attachedAs, isStage, isSource]

theorem attachedTo_attachStages {object : ProgramId} {ids : List StageId}
    {stages : List (Stage × String)} {device : Device} {before : List AttachedStage}
    (present : attachedTo object device = some before)
    (found : List.Forall₂ (fun id entry => device.stages.find? id = some (compiledStage entry))
      ids stages) :
    attachedTo object ((forEach (attachStage object) ids).run device).state =
      some (before ++ stages.map attachedAs) := by
  induction ids generalizing stages device before with
  | nil =>
      cases found
      rw [List.map_nil, List.append_nil]
      exact present
  | cons id rest ih =>
      cases found with
      | @cons _ entry _ later isStage found =>
          have sameStages : ((attachStage object id).run device).state.stages = device.stages :=
            congrArg (·.2.1) (preserves_attachStage object id device)
          rw [← sameStages] at found
          rw [state_forEach_cons, ih (attachedTo_attachStage present isStage) found,
            List.map_cons, List.append_assoc]
          rfl

theorem preserves_attachedTo_adjust {object : ProgramId} {change : ProgramObject → ProgramObject}
    (same : ∀ entry, (change entry).attached = entry.attached) :
    Preserves (attachedTo object) (adjustProgram object change) := by
  intro device
  rw [attachedTo, find?_adjustProgram, attachedTo, Option.map_map]
  congr 1
  funext entry
  exact same entry

theorem link_of_attached {entry : ProgramObject} {stages : List (Stage × String)}
    (attached : entry.attached = stages.map attachedAs) (notEmpty : stages ≠ [])
    (compiles : ∀ stage ∈ stages, (compiledStage stage).compiled) :
    entry.link false = entry.relink stages := by
  have noFault : entry.linkFault? false = none := by
    unfold ProgramObject.linkFault?
    have someStage : entry.attached.isEmpty = false := by
      rw [attached]
      simpa using notEmpty
    have allCompiled : entry.attached.any (!·.compiled) = false := by
      rw [attached, List.any_eq_false]
      intro stage member
      obtain ⟨source, isSource, rfl⟩ := List.mem_map.mp member
      simpa [attachedAs] using compiles source isSource
    simp [someStage, allCompiled]
  unfold ProgramObject.link
  rw [noFault]
  simp only [attached, List.map_map]
  congr 1
  simp [Function.comp_def, attachedAs]

theorem contentOf_relink {object : ProgramId} {device : Device} {entry : ProgramObject}
    {stages : List (Stage × String)}
    (found : device.programs.find? object = some (entry.relink stages)) :
    contentOf object device = some (linkedContent stages) := by
  rw [contentOf, found]
  rfl

theorem linkStatus_relink {object : ProgramId} {device : Device} {entry : ProgramObject}
    {stages : List (Stage × String)}
    (found : device.programs.find? object = some (entry.relink stages)) :
    device.linkStatus object = true := by
  rw [linkStatus, found]
  rfl

theorem linkAttached_of_sound (name : String) {object : ProgramId} {device : Device}
    {stages : List (Stage × String)} (links : device.failLinks = false)
    (attached : attachedTo object device = some (stages.map attachedAs)) (notEmpty : stages ≠ [])
    (compiles : ∀ stage ∈ stages, (compiledStage stage).compiled) :
    ((linkAttached name object).run device).value = .ok () ∧
    contentOf object ((linkAttached name object).run device).state =
      some (linkedContent stages) := by
  obtain ⟨entry, isEntry, isAttached⟩ := Option.map_eq_some_iff.mp attached
  have found : ((linkProgram object).run device).state.programs.find? object =
      some (entry.relink stages) := by
    change ((adjustProgram object (·.link device.failLinks)).run device).state.programs.find? _ = _
    rw [find?_adjustProgram, isEntry, Option.map_some, links,
      link_of_attached isAttached notEmpty compiles]
  have status : ShaderDevice.linkStatus ((ShaderDevice.linkProgram object).run device).state
      object = true :=
    linkStatus_relink found
  unfold linkAttached
  rw [run_bind, run_read_bind, if_pos status]
  exact ⟨rfl, contentOf_relink found⟩

/-- Compiled stages are linked, unless links are made to fail. -/
theorem attachAndLink_of_sound (caps : Capabilities) (name : String) {program : RecastProgram}
    {object : ProgramId} {ids : List StageId} {device : Device}
    (links : device.failLinks = false) (present : attachedTo object device = some [])
    (notEmpty : program.stages ≠ [])
    (compiles : ∀ stage ∈ program.stages, (compiledStage stage).compiled)
    (found : List.Forall₂ (fun id entry => device.stages.find? id = some (compiledStage entry))
      ids program.stages) :
    ((attachAndLink caps name program object ids).run device).value = .ok () ∧
    contentOf object ((attachAndLink caps name program object ids).run device).state =
      some (linkedContent program.stages) := by
  have attached := attachedTo_attachStages present found
  have links : ((forEach (attachStage object) ids).run device).state.failLinks = false := by
    rw [← links]
    exact congrArg (·.1.2.2.2.1.2.2) (preserves_forEach (preserves_attachStage object) ids device)
  have keeps : ∀ change : ProgramObject → ProgramObject,
      (∀ entry, (change entry).attached = entry.attached) →
        Preserves (fun device => (attachedTo object device, device.failLinks))
          (adjustProgram object change) := by
    intro change same device
    exact Prod.ext (preserves_attachedTo_adjust same device) rfl
  -- Binding locations changes neither the attached stages nor the settings.
  have attributes : ∀ slots, Preserves (fun device => (attachedTo object device, device.failLinks))
      (forEach (fun slot : UInt32 × String => bindAttribute object slot.1 slot.2) slots) :=
    preserves_forEach fun slot => keeps _ fun _ => rfl
  have fragmentData : ∀ slots,
      Preserves (fun device => (attachedTo object device, device.failLinks))
        (forEach (fun slot : UInt32 × String => bindFragmentData object slot.1 slot.2) slots) :=
    preserves_forEach fun slot => keeps _ fun _ => rfl
  have kept := (fragmentData (program.boundFragmentData caps) _).trans
    (attributes (program.boundAttributes caps)
      ((forEach (attachStage object) ids).run device).state)
  rw [Prod.mk.injEq, attached, links] at kept
  unfold attachAndLink
  simp only [run_bind]
  exact linkAttached_of_sound name kept.2 kept.1 notEmpty compiles

theorem attachedTo_of_programSide (object : ProgramId) {first second : Device}
    (same : first.programSide = second.programSide) :
    attachedTo object first = attachedTo object second ∧ first.failLinks = second.failLinks := by
  simp only [programSide, settings, Prod.mk.injEq] at same
  rw [attachedTo, attachedTo, same.1]
  exact ⟨rfl, same.2.2.1.2.2⟩

/-- Compiling and linking fails where a stage does. -/
theorem compileAndLink_of_fault (caps : Capabilities) {name : String} {program : RecastProgram}
    {failure : ShaderError} (fails : fault? name program.stages = some failure)
    (object : ProgramId) (device : Device) :
    ((program.compileAndLink caps name object).run device).value = .error failure :=
  (compileAndLink_of_error caps object (compileStages_of_fault fails device)).1

/-- Stages that compile are linked into the program. -/
theorem compileAndLink_of_sound (caps : Capabilities) {name : String} {program : RecastProgram}
    {object : ProgramId} {device : Device} (sound : fault? name program.stages = none)
    (notEmpty : program.stages ≠ []) (few : program.stages.length < UInt32.size)
    (links : device.failLinks = false) (present : attachedTo object device = some []) :
    ((program.compileAndLink caps name object).run device).value = .ok () ∧
    contentOf object ((program.compileAndLink caps name object).run device).state =
      some (linkedContent program.stages) := by
  obtain ⟨done, found⟩ := compileStages_of_sound sound few device
  obtain ⟨sameAttached, sameLinks⟩ := attachedTo_of_programSide object
    (preserves_compileStages name program.stages device)
  generalize isCompiled : (compileStages name program.stages).run device = compiled
    at done found sameAttached sameLinks
  obtain ⟨value, state⟩ := compileAndLink_of_ok caps object isCompiled done
  rw [shaderDevice_deleteStage] at state
  obtain ⟨linked, content⟩ := attachAndLink_of_sound caps name (sameLinks.trans links)
    (sameAttached.trans present) notEmpty (compiled_of_fault?_eq_none sound) found
  rw [value, state]
  refine ⟨linked, ?_⟩
  rw [← content]
  have released := preserves_forEach preserves_deleteStage compiled.value.1
    ((attachAndLink caps name program object compiled.value.1).run compiled.state).state
  simp only [programSide, Prod.mk.injEq] at released
  rw [contentOf, released.1]
  rfl

theorem attached_load (entry : ProgramObject) (format : UInt32) (binary : ProgramBinary) :
    (entry.load format binary).attached = entry.attached := by
  unfold ProgramObject.load
  split
  · rfl
  · split <;> rfl

theorem preserves_attachedTo_loadBinary (object : ProgramId) (binary : ProgramBinary) :
    Preserves (attachedTo object) (loadBinary object binary) := by
  intro device
  exact preserves_attachedTo_adjust (fun entry => attached_load entry device.binaryFormat binary)
    device

/-- A program that was loaded holds the stages in the binary. -/
theorem contentOf_loadBinary {object : ProgramId} {binary : ProgramBinary} {device : Device}
    (linked : ((loadBinary object binary).run device).state.linkStatus object) :
    ∃ stages, decodeStages? binary.payload = some stages ∧
      contentOf object ((loadBinary object binary).run device).state =
        some (linkedContent stages) := by
  have found : ((loadBinary object binary).run device).state.programs.find? object =
      (device.programs.find? object).map (·.load device.binaryFormat binary) :=
    find?_adjustProgram object _ device
  cases isEntry : device.programs.find? object with
  | none =>
      rw [isEntry, Option.map_none] at found
      rw [linkStatus, found] at linked
      cases linked
  | some entry =>
      rw [isEntry, Option.map_some] at found
      rw [linkStatus, found] at linked
      have linked : (entry.load device.binaryFormat binary).linked = true := linked
      unfold ProgramObject.load at linked found
      split at linked
      · cases linked
      · next sameFormat =>
          rw [if_neg sameFormat] at found
          split at linked
          · cases linked
          · next stages decoded =>
              rw [decoded] at found
              exact ⟨stages, decoded, contentOf_relink found⟩

/-- Two devices, each with its own program current, in which these programs have
the same content and got the same uploads since some time. -/
structure Twins (first second : ProgramId) (earlier earlier' : List Upload)
    (left right : Device) : Prop where
  current : left.current = some first
  current' : right.current = some second
  content : contentOf first left = contentOf second right
  uploads : ∃ values : List (UniformLocation × UniformValue),
    left.uploads = earlier ++ values.map (fun value => ⟨first, value.1, value.2⟩) ∧
    right.uploads = earlier' ++ values.map (fun value => ⟨second, value.1, value.2⟩)

section Twins

variable {first second : ProgramId} {earlier earlier' : List Upload}

theorem uniformLocation_eq (object : ProgramId) (name : String) (device : Device) :
    device.uniformLocation object name =
      (contentOf object device).bind fun content => content.2.2.2.1.location? name := by
  rw [uniformLocation, contentOf, Option.bind_map]
  rfl

theorem activeUniforms_eq (object : ProgramId) (device : Device) :
    device.activeUniforms object =
      ((contentOf object device).map fun content => content.2.2.2.1.uniforms).getD [] := by
  rw [activeUniforms, contentOf, Option.map_map]
  rfl

theorem contentOf_setUniform {object : ProgramId} {device : Device}
    (current : device.current = some object) (location : UniformLocation) (value : UniformValue) :
    contentOf object ((setUniform location value).run device).state =
      (contentOf object device).map fun content =>
        (content.1, content.2.1, content.2.2.1, content.2.2.2.1,
          content.2.2.2.2.insert location value) := by
  unfold setUniform
  rw [run_get_bind, current]
  change ((device.programs.adjust object _).find? object).map _ = _
  rw [Registry.find?_adjust, if_pos rfl, contentOf, Option.map_map, Option.map_map]
  rfl

theorem uploads_setUniform {object : ProgramId} {device : Device}
    (current : device.current = some object) (location : UniformLocation) (value : UniformValue) :
    ((setUniform location value).run device).state.uploads =
      device.uploads ++ [⟨object, location, value⟩] := by
  unfold setUniform
  rw [run_get_bind, current]
  rfl

theorem simulates_setUniform (location : UniformLocation) (value : UniformValue) :
    Simulates (Twins first second earlier earlier') Eq (setUniform location value)
      (setUniform location value) := by
  intro left right twins
  refine ⟨rfl, ?_, ?_, ?_, ?_⟩
  · exact (congrArg (·.2) (preserves_setUniform location value left)).trans twins.current
  · exact (congrArg (·.2) (preserves_setUniform location value right)).trans twins.current'
  · rw [contentOf_setUniform twins.current, contentOf_setUniform twins.current', twins.content]
  · obtain ⟨values, isLeft, isRight⟩ := twins.uploads
    refine ⟨values ++ [(location, value)], ?_, ?_⟩
    · rw [uploads_setUniform twins.current, isLeft]
      simp
    · rw [uploads_setUniform twins.current', isRight]
      simp

theorem Twins.uniformLocation {left right : Device}
    (twins : Twins first second earlier earlier' left right) (name : String) :
    ShaderDevice.uniformLocation left first name =
      ShaderDevice.uniformLocation right second name := by
  change left.uniformLocation first name = right.uniformLocation second name
  rw [uniformLocation_eq, uniformLocation_eq, twins.content]

theorem simulates_addSampler (table : Reflection) (name : String) :
    Simulates (Twins first second earlier earlier') Eq (Reflection.addSampler first table name)
      (Reflection.addSampler second table name) := by
  refine simulates_bind simulates_get fun left right twins => ?_
  rw [twins.uniformLocation name]
  cases ShaderDevice.uniformLocation right second name with
  | none => exact simulates_bind (simulates_note _ _ _ _) fun _ _ _ => simulates_pure rfl
  | some location =>
      exact simulates_bind (simulates_setUniform location _) fun _ _ _ => simulates_pure rfl

theorem simulates_addUniform (table : Reflection) (uniform : ActiveUniform) :
    Simulates (Twins first second earlier earlier') Eq
      (Reflection.addUniform first table uniform) (Reflection.addUniform second table uniform) := by
  unfold Reflection.addUniform
  cases Reflection.baseName? uniform.name with
  | none => exact simulates_pure rfl
  | some name =>
      refine simulates_bind simulates_get fun left right twins => ?_
      rw [twins.uniformLocation name]
      cases ShaderDevice.uniformLocation right second name with
      | none => exact simulates_bind (simulates_note _ _ _ _) fun _ _ _ => simulates_pure rfl
      | some location => exact simulates_pure rfl

theorem simulates_addActive (table : Reflection) (uniform : ActiveUniform) :
    Simulates (Twins first second earlier earlier') Eq
      (Reflection.addActive first table uniform) (Reflection.addActive second table uniform) := by
  unfold Reflection.addActive
  split
  · exact simulates_pure rfl
  · split
    · exact simulates_foldl simulates_addSampler table _
    · exact simulates_addUniform table uniform

theorem twins_useProgram {left right : Device}
    (content : contentOf first left = contentOf second right)
    (linked : left.linkStatus first) (linked' : right.linkStatus second) :
    Twins first second left.uploads right.uploads ((useProgram (some first)).run left).state
      ((useProgram (some second)).run right).state := by
  have selected : ((useProgram (some first)).run left).state =
      { left with current := some first } := by
    unfold useProgram
    rw [run_get_bind, if_pos linked]
    rfl
  have selected' : ((useProgram (some second)).run right).state =
      { right with current := some second } := by
    unfold useProgram
    rw [run_get_bind, if_pos linked']
    rfl
  rw [selected, selected']
  exact ⟨rfl, rfl, content, [], by simp, by simp⟩

/-- Programs with the same content look alike. -/
theorem build_alike {left right : Device}
    (content : contentOf first left = contentOf second right)
    (linked : left.linkStatus first) (linked' : right.linkStatus second) :
    ((Reflection.build first).run left).value = ((Reflection.build second).run right).value ∧
      Twins first second left.uploads right.uploads ((Reflection.build first).run left).state
        ((Reflection.build second).run right).state := by
  have twins := twins_useProgram content linked linked'
  have sameUniforms : Simulates (Twins first second left.uploads right.uploads) Eq
      (Action.read (ShaderDevice.activeUniforms · first))
      (Action.read (ShaderDevice.activeUniforms · second)) := by
    refine simulates_read fun left right twins => ?_
    change left.activeUniforms first = right.activeUniforms second
    rw [activeUniforms_eq, activeUniforms_eq, twins.content]
  refine simulates_after twins (simulates_bind sameUniforms ?_)
  rintro uniforms _ rfl
  refine simulates_bind (simulates_foldl simulates_addActive {} uniforms) ?_
  rintro table _ rfl
  exact simulates_bind (simulates_note _ _ _ _) fun _ _ _ => simulates_pure rfl

end Twins

/-- A device with nothing but one linked program. -/
def bare (stages : List (Stage × String)) : Device :=
  { programs := ({} : Registry _ _).insert ⟨0⟩ (({} : ProgramObject).relink stages) }

theorem contentOf_bare (stages : List (Stage × String)) :
    contentOf ⟨0⟩ (bare stages) = some (linkedContent stages) := by
  have found : (bare stages).programs.find? ⟨0⟩ = some (({} : ProgramObject).relink stages) := by
    simp [bare, Registry.find?_insert]
  exact contentOf_relink found

/-- The tables of a program that was linked from stages. -/
def reflectionOf (stages : List (Stage × String)) : Reflection :=
  ((Reflection.build ⟨0⟩).run (bare stages)).value

/-- What a program that was linked from stages holds when its samplers are set. -/
def reflectedContent (stages : List (Stage × String)) :
    Option (List (Stage × String) × Bool × String × UniformLayout ×
      Registry UniformLocation UniformValue) :=
  contentOf ⟨0⟩ ((Reflection.build ⟨0⟩).run (bare stages)).state

def samplerValues (stages : List (Stage × String)) : List (UniformLocation × UniformValue) :=
  ((Reflection.build ⟨0⟩).run (bare stages)).state.uploads.map fun upload =>
    (upload.location, upload.value)

def stagesOf (object : ProgramId) (device : Device) : Option (List (Stage × String)) :=
  (contentOf object device).map (·.1)

theorem preserves_programs_useProgram (selected : Option ProgramId) :
    Preserves (fun device => (device.programs, device.uploads)) (useProgram selected) := by
  unfold useProgram
  split
  · exact preserves_modify fun _ => rfl
  · refine preserves_bind preserves_get fun device => ?_
    split
    · exact preserves_modify fun _ => rfl
    · exact preserves_note _ _

theorem contentOf_useProgram (object : ProgramId) (selected : Option ProgramId) :
    Preserves (contentOf object) (useProgram selected) := by
  intro device
  have same : ((useProgram selected).run device).state.programs = device.programs :=
    congrArg (·.1) (preserves_programs_useProgram selected device)
  rw [contentOf, same]
  rfl

theorem preserves_stagesOf_setUniform (object : ProgramId) (location : UniformLocation)
    (value : UniformValue) : Preserves (stagesOf object) (setUniform location value) := by
  refine preserves_bind preserves_get fun device => ?_
  split
  · exact preserves_note _ _
  · refine preserves_bind (preserves_modify fun device => ?_) fun _ =>
      preserves_modify fun _ => rfl
    simp only [stagesOf, contentOf, Registry.find?_adjust]
    split
    · rw [Option.map_map, Option.map_map, Option.map_map]
      rfl
    · rfl

theorem linkStatus_of_content {object : ProgramId} {device : Device}
    {stages : List (Stage × String)}
    (content : contentOf object device = some (linkedContent stages)) :
    device.linkStatus object := by
  obtain ⟨entry, isEntry, isContent⟩ := Option.map_eq_some_iff.mp content
  rw [linkStatus, isEntry]
  exact congrArg (·.2.1) isContent

/-- A linked program is exported with the texts that it was linked from. -/
theorem programBinary_of_content {object : ProgramId} {device : Device}
    {stages : List (Stage × String)}
    (content : contentOf object device = some (linkedContent stages)) :
    device.programBinary object =
      if device.capabilities.programBinary then
        some ⟨device.binaryFormat, encodeStages stages⟩
      else none := by
  obtain ⟨entry, isEntry, isContent⟩ := Option.map_eq_some_iff.mp content
  have sameStages : entry.linkedStages = stages := congrArg (·.1) isContent
  have isLinked : entry.linked = true := congrArg (·.2.1) isContent
  rw [programBinary, isEntry]
  simp only [isLinked, if_true, sameStages]

/-- What is found out about a linked program depends on its stages only. -/
theorem build_of_content {object : ProgramId} {device : Device} {stages : List (Stage × String)}
    (content : contentOf object device = some (linkedContent stages)) :
    ((Reflection.build object).run device).value = reflectionOf stages ∧
    contentOf object ((Reflection.build object).run device).state = reflectedContent stages ∧
    ((Reflection.build object).run device).state.uploads =
      device.uploads ++ (samplerValues stages).map fun value => ⟨object, value.1, value.2⟩ := by
  have bareContent := contentOf_bare stages
  obtain ⟨sameTables, twins⟩ := build_alike (content.trans bareContent.symm)
    (linkStatus_of_content content) (linkStatus_of_content bareContent)
  obtain ⟨values, uploads, bareUploads⟩ := twins.uploads
  refine ⟨sameTables, twins.content, ?_⟩
  have sameValues : samplerValues stages = values := by
    rw [samplerValues, bareUploads]
    simp [bare, Function.comp_def]
  rw [uploads, sameValues]

theorem stages_reflectedContent (stages : List (Stage × String)) :
    (reflectedContent stages).map (·.1) = some stages := by
  have uses : ∀ selected, Preserves (stagesOf ⟨0⟩) (useProgram selected) := by
    intro selected device
    rw [stagesOf, contentOf_useProgram]
    rfl
  refine (preserves_build_of uses (preserves_stagesOf_setUniform ⟨0⟩) ⟨0⟩ (bare stages)).trans ?_
  rw [stagesOf, contentOf_bare]
  rfl

theorem linkedSource?_of_reflected {object : ProgramId} {device : Device}
    {stages : List (Stage × String)} (content : contentOf object device = reflectedContent stages)
    (stage : Stage) :
    device.linkedSource? object stage = (stages.find? (·.1 == stage)).map (·.2) := by
  have linked := congrArg (Option.map (·.1)) content
  rw [stages_reflectedContent, contentOf, Option.map_map] at linked
  obtain ⟨entry, isEntry, isStages⟩ := Option.map_eq_some_iff.mp linked
  have isStages : entry.linkedStages = stages := isStages
  rw [linkedSource?, isEntry, Option.bind_some, isStages]

end ShaderPipeline.Software.Device
