/-!
# Program binaries

A linked program as its driver exports it.
-/

namespace ShaderPipeline

/-- A linked program in a form that only its driver reads. -/
structure ProgramBinary where
  /-- The driver's tag for the form of the payload. -/
  format : UInt32
  payload : List UInt8
deriving Repr, DecidableEq

end ShaderPipeline
