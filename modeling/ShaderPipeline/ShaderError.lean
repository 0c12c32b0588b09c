import ShaderPipeline.Stage

/-!
# Failures of program creation

The ways in which shader text does not become a linked program, and the wording
of each.
-/

namespace ShaderPipeline

/-- Why shader text did not become a linked program. -/
inductive ShaderError where
  /-- Neither stage has any text. -/
  | emptySource (name : String)
  /-- The driver refused a stage; the listing shows what it was given. -/
  | compilationFailed (name : String) (stage : Stage) (log listing : String)
  /-- The driver refused to link the compiled stages. -/
  | linkFailed (name log : String)
  /-- The driver could not make an object. -/
  | driver (reason : String)
deriving Repr, DecidableEq

def ShaderError.message : ShaderError → String
  | .emptySource name => "Program '" ++ name ++ "' has neither a vertex nor a fragment source"
  | .compilationFailed name stage log _ =>
      "Failed to compile " ++ stage.word ++ " stage of '" ++ name ++ "': " ++ log
  | .linkFailed name log => "Failed to link program '" ++ name ++ "': " ++ log
  | .driver reason => "Driver object allocation failed: " ++ reason

/-- The name of a program in a table.  A slot of the table is used again with a
new generation, so that an old handle never reaches a new program. -/
structure ProgramHandle where
  index : UInt32
  generation : UInt32
deriving Repr, DecidableEq

def ProgramHandle.label (handle : ProgramHandle) : String :=
  "#" ++ Nat.repr handle.index.toNat ++ "v" ++ Nat.repr handle.generation.toNat

/-- Why a request about programs failed. -/
inductive ProgramError where
  | shader (cause : ShaderError)
  | invalidHandle (handle : ProgramHandle)
deriving Repr, DecidableEq

namespace ProgramError

def message : ProgramError → String
  | .shader cause => "Program creation failed: " ++ cause.message
  | .invalidHandle handle => "Invalid or stale program handle " ++ handle.label

def cause? : ProgramError → Option ShaderError
  | .shader cause => some cause
  | .invalidHandle _ => none

end ProgramError

end ShaderPipeline
