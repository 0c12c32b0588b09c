import ShaderPipeline.Program.Reflection
import ShaderPipeline.Word

/-!
# Uploads

A caller's buffer goes to the driver in the shape that the type of the uniform
asks for.  Scalars of the other kind are taken bit for bit.
-/

namespace ShaderPipeline

inductive UploadShape where
  | float (components : UInt8)
  | int (components : UInt8)
  | matrix (dimension : UInt8)
deriving Repr, DecidableEq

namespace UploadShape

/-- The shape in which a type is uploaded. -/
def ofType? : UniformType → Option UploadShape
  | .float => some (.float 1)
  | .floatVec2 => some (.float 2)
  | .floatVec3 => some (.float 3)
  | .floatVec4 => some (.float 4)
  | .int | .uint | .bool => some (.int 1)
  | .intVec2 | .uintVec2 | .boolVec2 => some (.int 2)
  | .intVec3 | .uintVec3 | .boolVec3 => some (.int 3)
  | .intVec4 | .uintVec4 | .boolVec4 => some (.int 4)
  | .floatMat2 => some (.matrix 2)
  | .floatMat3 => some (.matrix 3)
  | .floatMat4 => some (.matrix 4)
  | _ => none

/-- The number of scalars of one element. -/
def width : UploadShape → Nat
  | .float components | .int components => components.toNat
  | .matrix dimension => dimension.toNat * dimension.toNat

/-- The first `length` scalars of a buffer as a value of this shape. -/
def value (shape : UploadShape) (data : ConstantData) (length : Nat) (rowMajor : Bool) :
    UniformValue :=
  match shape with
  | .float components => .float components (data.toFloats.take length)
  | .int components => .int components (data.toInts.take length)
  | .matrix dimension => .matrix dimension rowMajor (data.toFloats.take length)

end UploadShape

namespace UniformEntry

/-- The number of scalars of `count` elements, at least one. -/
def scalarsNeeded (shape : UploadShape) (count : UInt64) : Except Abort UInt64 :=
  Word.fit64 (shape.width * max count.toNat 1)

/-- The number of whole elements that `length` scalars cover: at least one and
no more than the uniform has. -/
def elementsIn? (uniform : UniformEntry) (length : Nat) : Option Nat :=
  (UploadShape.ofType? uniform.type).map fun shape =>
    let declared := if 0 ≤ uniform.count then max uniform.count.toInt.toNat 1 else 1
    min (max (length / shape.width) 1) declared

variable {δ : Type} [ShaderDevice δ]

/-- Uploads the first scalars of a buffer.  A buffer that is too short is refused with a
warning. -/
def uploadFront (uniform : UniformEntry) (shape : UploadShape) (data : ConstantData)
    (needed : Nat) (rowMajor : Bool) : Action δ Unit :=
  if data.length < needed then
    Action.note .warn
      ("ConstantDispatcher: '" ++ uniform.name ++ "' needs " ++ Nat.repr needed ++
        " scalars, got " ++ Nat.repr data.length)
  else ShaderDevice.setUniform uniform.location (shape.value data needed rowMajor)

/-- Uploads `count` elements of a buffer.  A type that takes no upload is refused with a
warning. -/
def upload (uniform : UniformEntry) (data : ConstantData) (count : UInt64) (rowMajor : Bool) :
    Action δ (Except Abort Unit) := do
  match UploadShape.ofType? uniform.type with
  | none =>
      Action.note .warn
        ("ConstantDispatcher: '" ++ uniform.name ++ "' has type " ++ uniform.type.label ++
          ", which takes no constant upload")
      return .ok ()
  | some shape =>
      match scalarsNeeded shape count with
      | .error reason => return .error reason
      | .ok needed =>
          uniform.uploadFront shape data needed.toNat rowMajor
          return .ok ()

end UniformEntry

end ShaderPipeline
