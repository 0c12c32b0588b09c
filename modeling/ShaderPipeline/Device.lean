import ShaderPipeline.Action
import ShaderPipeline.Capabilities
import ShaderPipeline.ProgramBinary
import ShaderPipeline.ShaderError
import ShaderPipeline.Uniform

/-!
# Shader devices

A shader device is a driver as far as programs are concerned: it compiles
stages, links them, reports the uniforms of a linked program and takes values
for them.
-/

namespace ShaderPipeline

/-- A driver's number for a stage object. -/
structure StageId where
  number : UInt32
deriving Repr, DecidableEq

def StageId.label (id : StageId) : String :=
  "StageObjectId(" ++ Nat.repr id.number.toNat ++ ")"

/-- A driver's number for a program object. -/
structure ProgramId where
  number : UInt32
deriving Repr, DecidableEq

def ProgramId.label (id : ProgramId) : String :=
  "ProgramObjectId(" ++ Nat.repr id.number.toNat ++ ")"

/-- A driver's number for a texture. -/
structure TextureId where
  number : UInt32
deriving Repr, DecidableEq

/-- What a driver does with stages, programs and uniforms. -/
class ShaderDevice (δ : Type) where
  /-- What the driver accepts. -/
  capabilities : δ → Capabilities
  /-- Makes an empty stage object. -/
  createStage : Stage → Action δ (Except ShaderError StageId)
  /-- Gives a stage object its text and compiles it.  The answer is the status. -/
  compileStage : StageId → String → Action δ Bool
  /-- What compiling a stage object had to say. -/
  stageLog : δ → StageId → String
  /-- Releases a stage object. -/
  deleteStage : StageId → Action δ Unit
  /-- Makes an empty program object. -/
  createProgram : Action δ (Except ShaderError ProgramId)
  /-- Releases a program object. -/
  deleteProgram : ProgramId → Action δ Unit
  /-- Adds a compiled stage to a program. -/
  attachStage : ProgramId → StageId → Action δ Unit
  /-- Gives a vertex input a location, from the next link on. -/
  bindAttribute : ProgramId → UInt32 → String → Action δ Unit
  /-- Gives a fragment output a location, from the next link on. -/
  bindFragmentData : ProgramId → UInt32 → String → Action δ Unit
  /-- Links the stages of a program.  The answer is the status. -/
  linkProgram : ProgramId → Action δ Bool
  /-- The status of the last link. -/
  linkStatus : δ → ProgramId → Bool
  /-- What linking a program had to say. -/
  programLog : δ → ProgramId → String
  /-- A linked program in exported form, if the driver has that. -/
  programBinary : δ → ProgramId → Option ProgramBinary
  /-- Puts an exported program into a program object.  The answer is the status. -/
  loadBinary : ProgramId → ProgramBinary → Action δ Bool
  /-- The uniforms of a linked program, in the driver's order. -/
  activeUniforms : δ → ProgramId → List ActiveUniform
  /-- The location of a uniform by its full name. -/
  uniformLocation : δ → ProgramId → String → Option UniformLocation
  /-- Makes a program the current one, or none. -/
  useProgram : Option ProgramId → Action δ Unit
  /-- Uploads a value to the current program. -/
  setUniform : UniformLocation → UniformValue → Action δ Unit
  /-- Binds a texture to a texture unit. -/
  bindTexture : UInt32 → TextureId → Action δ Unit

end ShaderPipeline
