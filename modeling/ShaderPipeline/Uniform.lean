/-!
# Uniforms

Uniforms are the constants of a program.  A driver reports their names, types
and array sizes after linking; values are uploaded to their locations.
-/

namespace ShaderPipeline

/-- The bit pattern of a single-precision number.  Such numbers are only moved,
never computed with, so every pattern is kept as it is. -/
structure Binary32 where
  bits : UInt32
deriving Repr, DecidableEq

namespace Binary32

/-- The signed integer with the same bits. -/
def toInt32 (number : Binary32) : Int32 :=
  number.bits.toInt32

/-- The number with the same bits as a signed integer. -/
def ofInt32 (word : Int32) : Binary32 :=
  ⟨word.toUInt32⟩

end Binary32

inductive UniformType where
  | float
  | floatVec2
  | floatVec3
  | floatVec4
  | int
  | intVec2
  | intVec3
  | intVec4
  | uint
  | uintVec2
  | uintVec3
  | uintVec4
  | bool
  | boolVec2
  | boolVec3
  | boolVec4
  | floatMat2
  | floatMat3
  | floatMat4
  | sampler2D
  | sampler3D
  | samplerCube
  | sampler2DShadow
  | samplerCubeShadow
  | sampler2DArray
  | sampler2DArrayShadow
  /-- A type without an upload, by the driver's own number. -/
  | other (code : UInt32)
deriving Repr, DecidableEq

namespace UniformType

/-- The types that shader text can name. -/
def keywords : List (String × UniformType) :=
  [("float", .float), ("vec2", .floatVec2), ("vec3", .floatVec3), ("vec4", .floatVec4),
    ("int", .int), ("ivec2", .intVec2), ("ivec3", .intVec3), ("ivec4", .intVec4),
    ("uint", .uint), ("uvec2", .uintVec2), ("uvec3", .uintVec3), ("uvec4", .uintVec4),
    ("bool", .bool), ("bvec2", .boolVec2), ("bvec3", .boolVec3), ("bvec4", .boolVec4),
    ("mat2", .floatMat2), ("mat3", .floatMat3), ("mat4", .floatMat4),
    ("sampler2D", .sampler2D), ("sampler3D", .sampler3D), ("samplerCube", .samplerCube),
    ("sampler2DShadow", .sampler2DShadow), ("samplerCubeShadow", .samplerCubeShadow),
    ("sampler2DArray", .sampler2DArray), ("sampler2DArrayShadow", .sampler2DArrayShadow)]

def ofKeyword? (keyword : String) : Option UniformType :=
  keywords.lookup keyword

/-- The types that are bound to texture units. -/
def isSampler : UniformType → Bool
  | .sampler2D | .sampler3D | .samplerCube | .sampler2DShadow | .samplerCubeShadow
  | .sampler2DArray | .sampler2DArrayShadow => true
  | _ => false

def label : UniformType → String
  | .float => "Float"
  | .floatVec2 => "FloatVec2"
  | .floatVec3 => "FloatVec3"
  | .floatVec4 => "FloatVec4"
  | .int => "Int"
  | .intVec2 => "IntVec2"
  | .intVec3 => "IntVec3"
  | .intVec4 => "IntVec4"
  | .uint => "UInt"
  | .uintVec2 => "UIntVec2"
  | .uintVec3 => "UIntVec3"
  | .uintVec4 => "UIntVec4"
  | .bool => "Bool"
  | .boolVec2 => "BoolVec2"
  | .boolVec3 => "BoolVec3"
  | .boolVec4 => "BoolVec4"
  | .floatMat2 => "FloatMat2"
  | .floatMat3 => "FloatMat3"
  | .floatMat4 => "FloatMat4"
  | .sampler2D => "Sampler2D"
  | .sampler3D => "Sampler3D"
  | .samplerCube => "SamplerCube"
  | .sampler2DShadow => "Sampler2DShadow"
  | .samplerCubeShadow => "SamplerCubeShadow"
  | .sampler2DArray => "Sampler2DArray"
  | .sampler2DArrayShadow => "Sampler2DArrayShadow"
  | .other code => "Other(" ++ Nat.repr code.toNat ++ ")"

end UniformType

/-- A uniform as a driver reports it. -/
structure ActiveUniform where
  /-- The name; an array is reported by its first element. -/
  name : String
  /-- The number of array elements, one without an array. -/
  size : Int32
  type : UniformType
deriving Repr, DecidableEq

/-- The place of a uniform in a linked program. -/
structure UniformLocation where
  number : UInt32
deriving Repr, DecidableEq

/-- A typed value that is ready for upload.  The number of elements follows
from the length of the data. -/
inductive UniformValue where
  | float (components : UInt8) (data : List Binary32)
  | int (components : UInt8) (data : List Int32)
  | matrix (dimension : UInt8) (transpose : Bool) (data : List Binary32)
deriving Repr, DecidableEq

/-- A caller's buffer of scalars.  The kind only says how it was packed. -/
inductive ConstantData where
  | floats (data : List Binary32)
  | ints (data : List Int32)
deriving Repr, DecidableEq

namespace ConstantData

def length : ConstantData → Nat
  | .floats data => data.length
  | .ints data => data.length

def isEmpty (data : ConstantData) : Bool :=
  data.length == 0

/-- The scalars as single-precision numbers, bit for bit. -/
def toFloats : ConstantData → List Binary32
  | .floats data => data
  | .ints data => data.map Binary32.ofInt32

/-- The scalars as signed integers, bit for bit. -/
def toInts : ConstantData → List Int32
  | .floats data => data.map Binary32.toInt32
  | .ints data => data

end ConstantData

/-- An index into a program's table of uniforms.  A negative slot stands for a
uniform that the program does not have. -/
structure ConstantSlot where
  number : Int32
deriving Repr, DecidableEq

namespace ConstantSlot

/-- The slot of a uniform that a program does not have. -/
def absent : ConstantSlot := ⟨-1⟩

def isValid (slot : ConstantSlot) : Bool :=
  0 ≤ slot.number

/-- The table index of a slot that is not negative. -/
def index? (slot : ConstantSlot) : Option Nat :=
  if slot.isValid then some slot.number.toInt.toNat else none

/-- The number of a slot as messages show it. -/
def text (slot : ConstantSlot) : String :=
  Int.repr slot.number.toInt

end ConstantSlot

end ShaderPipeline
