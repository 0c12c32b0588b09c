import ShaderPipeline.Device

/-!
# Scripted devices

A script stands in front of a device and gives answers in its place.  It shows
how a session copes with a driver that fails or that reports odd uniforms.
-/

namespace ShaderPipeline

/-- The answers that are given in place of a device's own. -/
structure DeviceScript where
  /-- Program objects cannot be made, for this reason. -/
  failProgram : Option String := none
  /-- Stage objects cannot be made, for this reason, after so many more. -/
  failStage : Option (Nat × String) := none
  /-- The status of every link. -/
  linkStatus : Option Bool := none
  /-- The uniforms of every program. -/
  uniforms : Option (List ActiveUniform) := none
  /-- The locations of every program. -/
  locations : Option (List (String × UniformLocation)) := none
deriving Repr, DecidableEq

/-- A device behind a script. -/
structure Scripted (δ : Type) where
  device : δ
  script : DeviceScript := {}
deriving Repr, DecidableEq

namespace Scripted

variable {δ : Type}

def onDevice {α : Type} (action : Action δ α) : Action (Scripted δ) α :=
  Action.onPart (·.device) (fun scripted device => { scripted with device := device }) action

variable [ShaderDevice δ]

/-- Makes a stage object, unless the script says otherwise. -/
def createStage (stage : Stage) : Action (Scripted δ) (Except ShaderError StageId) := do
  match (← Action.get).script.failStage with
  | some (0, reason) => return .error (.driver reason)
  | some (more + 1, reason) =>
      match ← onDevice (ShaderDevice.createStage stage) with
      | .error failure => return .error failure
      | .ok id =>
          Action.modify fun scripted =>
            { scripted with script := { scripted.script with failStage := some (more, reason) } }
          return .ok id
  | none => onDevice (ShaderDevice.createStage stage)

/-- Makes a program object, unless the script says otherwise. -/
def createProgram : Action (Scripted δ) (Except ShaderError ProgramId) := do
  match (← Action.get).script.failProgram with
  | some reason => return .error (.driver reason)
  | none => onDevice ShaderDevice.createProgram

instance : ShaderDevice (Scripted δ) where
  capabilities scripted := ShaderDevice.capabilities scripted.device
  createStage := createStage
  compileStage id source := onDevice (ShaderDevice.compileStage id source)
  stageLog scripted id := ShaderDevice.stageLog scripted.device id
  deleteStage id := onDevice (ShaderDevice.deleteStage id)
  createProgram := createProgram
  deleteProgram id := onDevice (ShaderDevice.deleteProgram id)
  attachStage program stage := onDevice (ShaderDevice.attachStage program stage)
  bindAttribute program location name :=
    onDevice (ShaderDevice.bindAttribute program location name)
  bindFragmentData program location name :=
    onDevice (ShaderDevice.bindFragmentData program location name)
  linkProgram program := onDevice (ShaderDevice.linkProgram program)
  linkStatus scripted program :=
    scripted.script.linkStatus.getD (ShaderDevice.linkStatus scripted.device program)
  programLog scripted program := ShaderDevice.programLog scripted.device program
  programBinary scripted program := ShaderDevice.programBinary scripted.device program
  loadBinary program binary := onDevice (ShaderDevice.loadBinary program binary)
  activeUniforms scripted program :=
    scripted.script.uniforms.getD (ShaderDevice.activeUniforms scripted.device program)
  uniformLocation scripted program name :=
    match scripted.script.locations with
    | some locations => locations.lookup name
    | none => ShaderDevice.uniformLocation scripted.device program name
  useProgram program := onDevice (ShaderDevice.useProgram program)
  setUniform location value := onDevice (ShaderDevice.setUniform location value)
  bindTexture unit texture := onDevice (ShaderDevice.bindTexture unit texture)

end Scripted

end ShaderPipeline
