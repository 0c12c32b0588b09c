import ShaderPipeline.Uniform

/-!
# Built-in constants and samplers

Names that the draw layer sets on every program which declares them.  Each
program resolves them once, so that later uploads need no search by name.
-/

namespace ShaderPipeline

/-- The constants that the draw layer sets. -/
inductive BuiltInConstant where
  | modelViewMatrix
  | projectionMatrix
  | modelViewProjectionMatrix
  | modelViewMatrixTranspose
  | projectionMatrixTranspose
  | modelViewProjectionMatrixTranspose
  | textureMatrixS
  | textureMatrixT
  | vertexColorScale
  | vertexColorAdd
  | constantColor
deriving Repr, DecidableEq

namespace BuiltInConstant

def all : List BuiltInConstant :=
  [.modelViewMatrix, .projectionMatrix, .modelViewProjectionMatrix, .modelViewMatrixTranspose,
    .projectionMatrixTranspose, .modelViewProjectionMatrixTranspose, .textureMatrixS,
    .textureMatrixT, .vertexColorScale, .vertexColorAdd, .constantColor]

/-- The name in shader text. -/
def name : BuiltInConstant → String
  | .modelViewMatrix => "modelViewMatrix"
  | .projectionMatrix => "projectionMatrix"
  | .modelViewProjectionMatrix => "modelViewProjectionMatrix"
  | .modelViewMatrixTranspose => "modelViewMatrixTranspose"
  | .projectionMatrixTranspose => "projectionMatrixTranspose"
  | .modelViewProjectionMatrixTranspose => "modelViewProjectionMatrixTranspose"
  | .textureMatrixS => "textureMatrixS"
  | .textureMatrixT => "textureMatrixT"
  | .vertexColorScale => "vertexColorScale"
  | .vertexColorAdd => "vertexColorAdd"
  | .constantColor => "constantColor"

end BuiltInConstant

/-- The samplers that the draw layer binds. -/
inductive BuiltInSampler where
  | diffuseMap
  | normalMap
  | jointsMap
deriving Repr, DecidableEq

namespace BuiltInSampler

def all : List BuiltInSampler :=
  [.diffuseMap, .normalMap, .jointsMap]

/-- The name in shader text. -/
def name : BuiltInSampler → String
  | .diffuseMap => "diffuseMap"
  | .normalMap => "normalMap"
  | .jointsMap => "jointsMap"

end BuiltInSampler

/-- Where a program has the built-in names. -/
structure BuiltInSlots where
  constant : BuiltInConstant → ConstantSlot
  samplerUnit : BuiltInSampler → Option UInt32

namespace BuiltInSlots

/-- Resolves every built-in name with the given searches. -/
def resolve (constant : String → Option ConstantSlot) (samplerUnit : String → Option UInt32) :
    BuiltInSlots where
  constant builtIn := (constant builtIn.name).getD .absent
  samplerUnit builtIn := samplerUnit builtIn.name

/-- The slots of a program without built-in names. -/
def unresolved : BuiltInSlots :=
  resolve (fun _ => none) (fun _ => none)

def constants (slots : BuiltInSlots) : List ConstantSlot :=
  BuiltInConstant.all.map slots.constant

def samplerUnits (slots : BuiltInSlots) : List (Option UInt32) :=
  BuiltInSampler.all.map slots.samplerUnit

end BuiltInSlots

end ShaderPipeline
