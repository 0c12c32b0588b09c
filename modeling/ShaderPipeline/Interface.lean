import ShaderPipeline.Stage

/-!
# Stage interfaces

The declarations through which a program meets its surroundings: the inputs of
the vertex stage and the outputs of the fragment stage.
-/

namespace ShaderPipeline

/-- An input or output of a stage. -/
structure InterfaceSlot where
  /-- The declared type, with its precision if one is written. -/
  type : String
  name : String
  /-- The location that the semantic stands for. -/
  location : Option UInt32
  /-- The array brackets as written, or nothing. -/
  arraySuffix : String
deriving Repr, DecidableEq

namespace InterfaceSlot

def isArray (slot : InterfaceSlot) : Bool :=
  slot.arraySuffix != ""

/-- The location as a signed number, minus one without a location. -/
def rawLocation (slot : InterfaceSlot) : Int32 :=
  match slot.location with
  | some location => location.toInt32
  | none => -1

end InterfaceSlot

/-- The interface of a program, in declaration order. -/
structure ProgramInterface where
  vertexInputs : List InterfaceSlot := []
  fragmentOutputs : List InterfaceSlot := []
deriving Repr, DecidableEq

/-- What is wrong with a declaration of an input or output. -/
inductive DeclarationProblem where
  | typeMissing
  | typeMissingAfter (precision : String)
  | nameExpected (type found : String)
  | nameMissing (type : String)
  | semanticUnknown (semantic name : String)
  | semanticMissing (name : String)
  | semanticAbsent (name : String)
deriving Repr, DecidableEq

namespace DeclarationProblem

def message : DeclarationProblem → String
  | .typeMissing => "expected a type in interface declaration"
  | .typeMissingAfter precision => "expected a type after '" ++ precision ++ "'"
  | .nameExpected type found =>
      "expected a name after '" ++ type ++ "', found '" ++ found ++ "'"
  | .nameMissing type => "declaration of '" ++ type ++ "' ends without a name"
  | .semanticUnknown semantic name =>
      "unknown semantic '" ++ semantic ++ "' for '" ++ name ++ "'"
  | .semanticMissing name => "missing semantic for '" ++ name ++ "'"
  | .semanticAbsent name => "no semantic given for '" ++ name ++ "'"

end DeclarationProblem

/-- A problem that a stage's text was accepted in spite of. -/
structure Diagnostic where
  stage : Stage
  line : Nat
  problem : DeclarationProblem
deriving Repr, DecidableEq

end ShaderPipeline
