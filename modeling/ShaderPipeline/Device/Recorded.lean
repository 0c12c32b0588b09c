import ShaderPipeline.Device

/-!
# Recorded devices

A recorded device keeps the calls that it was given, in order, and answers as
the device behind it does.  Queries change nothing and are not kept.
-/

namespace ShaderPipeline

/-- A call that a device was given; a call that makes an object is kept with
its answer. -/
inductive DeviceCall where
  | createStage (stage : Stage) (answer : Except ShaderError StageId)
  | compileStage (stage : StageId) (source : String)
  | deleteStage (stage : StageId)
  | createProgram (answer : Except ShaderError ProgramId)
  | deleteProgram (program : ProgramId)
  | attachStage (program : ProgramId) (stage : StageId)
  | bindAttribute (program : ProgramId) (location : UInt32) (name : String)
  | bindFragmentData (program : ProgramId) (location : UInt32) (name : String)
  | linkProgram (program : ProgramId)
  | loadBinary (program : ProgramId) (binary : ProgramBinary)
  | useProgram (program : Option ProgramId)
  | setUniform (location : UniformLocation) (value : UniformValue)
  | bindTexture (unit : UInt32) (texture : TextureId)

/-- A device with the calls that it was given. -/
structure Recorded (δ : Type) where
  device : δ
  calls : List DeviceCall := []

namespace Recorded

variable {δ α : Type}

/-- Runs an action of the device and keeps the call that it stands for. -/
def perform (call : α → DeviceCall) (action : Action δ α) : Action (Recorded δ) α :=
  fun recorded =>
    let done := action.run recorded.device
    ⟨done.value, ⟨done.state, recorded.calls ++ [call done.value]⟩, done.events⟩

variable [ShaderDevice δ]

instance : ShaderDevice (Recorded δ) where
  capabilities recorded := ShaderDevice.capabilities recorded.device
  createStage stage := perform (.createStage stage) (ShaderDevice.createStage stage)
  compileStage stage source :=
    perform (fun _ => .compileStage stage source) (ShaderDevice.compileStage stage source)
  stageLog recorded stage := ShaderDevice.stageLog recorded.device stage
  deleteStage stage := perform (fun _ => .deleteStage stage) (ShaderDevice.deleteStage stage)
  createProgram := perform .createProgram ShaderDevice.createProgram
  deleteProgram program :=
    perform (fun _ => .deleteProgram program) (ShaderDevice.deleteProgram program)
  attachStage program stage :=
    perform (fun _ => .attachStage program stage) (ShaderDevice.attachStage program stage)
  bindAttribute program location name :=
    perform (fun _ => .bindAttribute program location name)
      (ShaderDevice.bindAttribute program location name)
  bindFragmentData program location name :=
    perform (fun _ => .bindFragmentData program location name)
      (ShaderDevice.bindFragmentData program location name)
  linkProgram program :=
    perform (fun _ => .linkProgram program) (ShaderDevice.linkProgram program)
  linkStatus recorded program := ShaderDevice.linkStatus recorded.device program
  programLog recorded program := ShaderDevice.programLog recorded.device program
  programBinary recorded program := ShaderDevice.programBinary recorded.device program
  loadBinary program binary :=
    perform (fun _ => .loadBinary program binary) (ShaderDevice.loadBinary program binary)
  activeUniforms recorded program := ShaderDevice.activeUniforms recorded.device program
  uniformLocation recorded program name :=
    ShaderDevice.uniformLocation recorded.device program name
  useProgram program :=
    perform (fun _ => .useProgram program) (ShaderDevice.useProgram program)
  setUniform location value :=
    perform (fun _ => .setUniform location value) (ShaderDevice.setUniform location value)
  bindTexture unit texture :=
    perform (fun _ => .bindTexture unit texture) (ShaderDevice.bindTexture unit texture)

end Recorded

end ShaderPipeline
