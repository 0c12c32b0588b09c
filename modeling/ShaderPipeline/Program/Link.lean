import ShaderPipeline.Device
import ShaderPipeline.Dialect
import ShaderPipeline.Listing

/-!
# Compiling and linking

The recast stages of a program are compiled one after the other, attached and
linked.  Locations that the text cannot express are bound before the link.  All
stage objects are released in the end, whether that worked or not.
-/

namespace ShaderPipeline.Dialect.RecastProgram

variable {δ : Type} [ShaderDevice δ]

/-- Reports that the driver refused a stage. -/
def compileFailure (name : String) (stage : Stage) (id : StageId) (text : String) :
    Action δ ShaderError := do
  let log ← Action.read (ShaderDevice.stageLog · id)
  let listing := Listing.numbered text
  Action.note .warn
    ("SHADER COMPILE ERROR: " ++ stage.word ++ " stage of '" ++ name ++ "'\n" ++ log)
  Action.note .info
    ("ShaderCompiler: submitted source of '" ++ name ++ "':\n" ++ listing)
  return .compilationFailed name stage log listing

/-- Compiles stages until one fails.  The answer has every stage object that
was made, and the failure. -/
def compileStages (name : String) :
    List (Stage × String) → Action δ (List StageId × Except ShaderError Unit)
  | [] => return ([], .ok ())
  | (stage, text) :: rest => do
      match ← ShaderDevice.createStage stage with
      | .error failure => return ([], .error failure)
      | .ok id =>
          if ← ShaderDevice.compileStage id text then
            let later ← compileStages name rest
            return (id :: later.1, later.2)
          else
            return ([id], .error (← compileFailure name stage id text))

/-- The interface slots of a list that have a location. -/
def located (slots : List InterfaceSlot) : List (UInt32 × String) :=
  slots.filterMap fun slot => slot.location.map fun location => (location, slot.name)

/-- The vertex inputs whose locations the driver has to be told. -/
def boundAttributes (caps : Capabilities) (program : RecastProgram) : List (UInt32 × String) :=
  if program.vertex.isSome && caps.bindsAttributes then located program.interface.vertexInputs
  else []

/-- The fragment outputs whose locations the driver has to be told. -/
def boundFragmentData (caps : Capabilities) (program : RecastProgram) :
    List (UInt32 × String) :=
  if program.fragment.isSome && caps.bindsFragmentData then
    located program.interface.fragmentOutputs
  else []

/-- Links a program whose stages are attached. -/
def linkAttached (name : String) (object : ProgramId) : Action δ (Except ShaderError Unit) := do
  let _ ← ShaderDevice.linkProgram object
  if ← Action.read (ShaderDevice.linkStatus · object) then
    return .ok ()
  else
    let log ← Action.read (ShaderDevice.programLog · object)
    Action.note .warn ("ShaderCompiler: failed to link '" ++ name ++ "':\n" ++ log)
    return .error (.linkFailed name log)

/-- Attaches compiled stages, binds locations and links. -/
def attachAndLink (caps : Capabilities) (name : String) (program : RecastProgram)
    (object : ProgramId) (stages : List StageId) : Action δ (Except ShaderError Unit) := do
  Action.forEach (ShaderDevice.attachStage object) stages
  Action.forEach (fun slot => ShaderDevice.bindAttribute object slot.1 slot.2)
    (program.boundAttributes caps)
  Action.forEach (fun slot => ShaderDevice.bindFragmentData object slot.1 slot.2)
    (program.boundFragmentData caps)
  linkAttached name object

/-- Compiles the stages of a program and links them into `object`. -/
def compileAndLink (caps : Capabilities) (name : String) (program : RecastProgram)
    (object : ProgramId) : Action δ (Except ShaderError Unit) := do
  let compiled ← compileStages name program.stages
  let result ← match compiled.2 with
    | .error failure => pure (.error failure)
    | .ok _ => attachAndLink caps name program object compiled.1
  Action.forEach ShaderDevice.deleteStage compiled.1
  return result

/-- Compiling that fails only releases the stage objects. -/
theorem compileAndLink_of_error (caps : Capabilities) {name : String} {program : RecastProgram}
    (object : ProgramId) {device : δ} {failure : ShaderError}
    (fails : ((compileStages name program.stages).run device).value.2 = .error failure) :
    ((program.compileAndLink caps name object).run device).value = .error failure ∧
    ((program.compileAndLink caps name object).run device).state =
      ((Action.forEach ShaderDevice.deleteStage
        ((compileStages name program.stages).run device).value.1).run
        ((compileStages name program.stages).run device).state).state := by
  unfold compileAndLink
  rw [Action.run_bind]
  generalize (compileStages name program.stages).run device = compiled at fails
  obtain ⟨⟨ids, result⟩, state, events⟩ := compiled
  cases fails
  exact ⟨rfl, rfl⟩

/-- Stages that compile are linked before they are released. -/
theorem compileAndLink_of_ok (caps : Capabilities) {name : String} {program : RecastProgram}
    (object : ProgramId) {device : δ} {compiled : Outcome δ _}
    (isCompiled : (compileStages name program.stages).run device = compiled)
    (compiles : compiled.value.2 = .ok ()) :
    ((program.compileAndLink caps name object).run device).value =
      ((attachAndLink caps name program object compiled.value.1).run compiled.state).value ∧
    ((program.compileAndLink caps name object).run device).state =
      ((Action.forEach ShaderDevice.deleteStage compiled.value.1).run
        ((attachAndLink caps name program object compiled.value.1).run
          compiled.state).state).state := by
  unfold compileAndLink
  rw [Action.run_bind, isCompiled]
  obtain ⟨⟨ids, result⟩, state, events⟩ := compiled
  cases compiles
  exact ⟨rfl, rfl⟩

end ShaderPipeline.Dialect.RecastProgram
