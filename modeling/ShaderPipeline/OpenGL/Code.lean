import ShaderPipeline.Stage
import ShaderPipeline.Uniform

/-!
# Numeric codes

OpenGL names kinds of objects and types by number.
-/

namespace ShaderPipeline.OpenGL

def stageCode : Stage → UInt32
  | .vertex => 35633
  | .fragment => 35632

def typeCodes : List (UInt32 × UniformType) :=
  [(5126, .float), (35664, .floatVec2), (35665, .floatVec3), (35666, .floatVec4),
    (5124, .int), (35667, .intVec2), (35668, .intVec3), (35669, .intVec4),
    (5125, .uint), (36294, .uintVec2), (36295, .uintVec3), (36296, .uintVec4),
    (35670, .bool), (35671, .boolVec2), (35672, .boolVec3), (35673, .boolVec4),
    (35674, .floatMat2), (35675, .floatMat3), (35676, .floatMat4),
    (35678, .sampler2D), (35679, .sampler3D), (35680, .samplerCube),
    (35682, .sampler2DShadow), (36293, .samplerCubeShadow), (36289, .sampler2DArray),
    (36292, .sampler2DArrayShadow)]

/-- The type with a code; a code that is not known is kept. -/
def typeOfCode (code : UInt32) : UniformType :=
  (typeCodes.lookup code).getD (.other code)

def firstTextureUnit : UInt32 := 33984

def flatTexture : UInt32 := 3553

end ShaderPipeline.OpenGL
