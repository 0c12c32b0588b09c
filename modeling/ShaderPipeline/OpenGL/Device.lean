import ShaderPipeline.Device
import ShaderPipeline.OpenGL.Code
import ShaderPipeline.OpenGL.Context
import ShaderPipeline.Text.Quoted

/-!
# The OpenGL device

A shader device over a context.  An object with the number zero is no object:
calls on it are left out, and queries about it have an empty answer.
-/

namespace ShaderPipeline.OpenGL

/-- A context and what it is taken to accept. -/
structure Device where
  context : Context
  capabilities : Capabilities
deriving Repr, DecidableEq

namespace Device

/-- A truth value as messages show it. -/
def truthText (value : Bool) : String :=
  if value then "true" else "false"

/-- A device with the capabilities of its context. -/
def ofContext (context : Context) : Device :=
  ⟨context, context.capabilities⟩

/-- The event that the capabilities of a context were found out. -/
def detectionEvent (context : Context) : LogEvent :=
  ⟨.info, "GlowDevice: " ++ context.vendor ++ " (GLSL '" ++ context.capabilities.versionText ++
    "', binaries: " ++ truthText context.capabilities.programBinary ++ ")"⟩

/-- A device in one line. -/
def description (device : Device) : String :=
  let caps := device.capabilities
  "GlowDevice \x7b caps: DriverCapabilities \x7b glsl_version: " ++
    Nat.repr caps.version.toNat ++
    ", glsl_version_string: " ++ Text.quoted caps.versionText ++
    ", gpu_shader5: " ++ truthText caps.gpuShader5 ++
    ", gpu_shader4: " ++ truthText caps.gpuShader4 ++
    ", shader_texture_lod: " ++ truthText caps.textureLod ++
    ", ext_shader_texture_lod: " ++ truthText caps.textureLodExt ++
    ", program_binary: " ++ truthText caps.programBinary ++ " \x7d, .. \x7d"

def onContext {α : Type} (action : Action Context α) : Action Device α :=
  Action.onPart (·.context) (fun device context => { device with context := context }) action

def perform (call : Call) : Action Device Unit :=
  onContext (Context.perform call)

/-- Makes a call unless an object has the number zero. -/
def performOn (objects : List UInt32) (call : Call) : Action Device Unit :=
  if 0 ∈ objects then return () else perform call

def createStage (stage : Stage) : Action Device (Except ShaderError StageId) := do
  match ← onContext (Context.create? (.createShader (stageCode stage))) with
  | some id => return .ok ⟨id⟩
  | none => return .error (.driver "Unable to create Shader object")

/-- Gives a stage object its text and compiles it. -/
def compileStage (stage : StageId) (source : String) : Action Device Bool := do
  if stage.number = 0 then return false
  else
    perform (.shaderSource stage.number source)
    perform (.compileShader stage.number)
    Action.read (·.context.answers.compileStatus)

def stageLog (device : Device) (stage : StageId) : String :=
  if stage.number = 0 then "" else device.context.answers.shaderLog

def createProgram : Action Device (Except ShaderError ProgramId) := do
  match ← onContext (Context.create? .createProgram) with
  | some id => return .ok ⟨id⟩
  | none => return .error (.driver "Unable to create Program object")

def linkStatus (device : Device) (program : ProgramId) : Bool :=
  program.number ≠ 0 && device.context.answers.linkStatus

def linkProgram (program : ProgramId) : Action Device Bool := do
  performOn [program.number] (.linkProgram program.number)
  Action.read (linkStatus · program)

def programLog (device : Device) (program : ProgramId) : String :=
  if program.number = 0 then "" else device.context.answers.programLog

def programBinary (device : Device) (program : ProgramId) : Option ProgramBinary :=
  if device.capabilities.programBinary && program.number ≠ 0 then device.context.answers.binary
  else none

def loadBinary (program : ProgramId) (binary : ProgramBinary) : Action Device Bool := do
  performOn [program.number] (.programBinary program.number binary)
  Action.read (linkStatus · program)

def activeUniforms (device : Device) (program : ProgramId) : List ActiveUniform :=
  if program.number = 0 then []
  else
    device.context.answers.uniforms.map fun uniform =>
      ⟨uniform.name, uniform.size, typeOfCode uniform.code⟩

def uniformLocation (device : Device) (program : ProgramId) (name : String) :
    Option UniformLocation :=
  if program.number = 0 then none else device.context.location? name

/-- The number of scalars in a vector that a call uploads; calls exist for up
to four. -/
def vectorWidth (components : UInt8) : Nat :=
  if components = 1 then 1
  else if components = 2 then 2
  else if components = 3 then 3
  else 4

/-- The dimension of a matrix that a call uploads. -/
def matrixDimension (dimension : UInt8) : Nat :=
  if dimension = 2 then 2 else if dimension = 3 then 3 else 4

/-- The whole elements of `width` scalars each: their number and their scalars. -/
def wholeElements {α : Type} (width : Nat) (data : List α) : Nat × List α :=
  (data.length / width, data.take (data.length / width * width))

def uploadCall (location : UniformLocation) : UniformValue → Call
  | .float components data =>
      let width := vectorWidth components
      let elements := wholeElements width data
      .uniformFloats width location.number.toInt32 elements.1 elements.2
  | .int components data =>
      let width := vectorWidth components
      let elements := wholeElements width data
      .uniformInts width location.number.toInt32 elements.1 elements.2
  | .matrix dimension transpose data =>
      let side := matrixDimension dimension
      let elements := wholeElements (side * side) data
      .uniformMatrices side location.number.toInt32 elements.1 transpose elements.2

def bindTexture (unit : UInt32) (texture : TextureId) : Action Device Unit := do
  perform (.activeTexture (firstTextureUnit + unit))
  perform (.bindTexture flatTexture texture.number)

instance : ShaderDevice Device where
  capabilities := capabilities
  createStage := createStage
  compileStage := compileStage
  stageLog := stageLog
  deleteStage stage := performOn [stage.number] (.deleteShader stage.number)
  createProgram := createProgram
  deleteProgram program := performOn [program.number] (.deleteProgram program.number)
  attachStage program stage :=
    performOn [program.number, stage.number] (.attachShader program.number stage.number)
  bindAttribute program location name :=
    performOn [program.number] (.bindAttribLocation program.number location name)
  bindFragmentData program location name :=
    performOn [program.number] (.bindFragDataLocation program.number location name)
  linkProgram := linkProgram
  linkStatus := linkStatus
  programLog := programLog
  programBinary := programBinary
  loadBinary := loadBinary
  activeUniforms := activeUniforms
  uniformLocation := uniformLocation
  useProgram program := perform (.useProgram ((program.map (·.number)).getD 0))
  setUniform location value := perform (uploadCall location value)
  bindTexture := bindTexture

end Device

end ShaderPipeline.OpenGL
