import ShaderPipeline.Action
import ShaderPipeline.OpenGL.Version
import ShaderPipeline.ProgramBinary
import ShaderPipeline.Uniform

/-!
# Contexts

A context as a device sees it: calls go in, and queries are answered.  This one
answers every query from a record, whatever object is asked about, and keeps the
calls.
-/

namespace ShaderPipeline.OpenGL

/-- A call that changes the state of a context.  Objects are given by number,
and zero stands for none. -/
inductive Call where
  | createShader (kind : UInt32)
  | createProgram
  | shaderSource (shader : UInt32) (source : String)
  | compileShader (shader : UInt32)
  | deleteShader (shader : UInt32)
  | deleteProgram (program : UInt32)
  | attachShader (program shader : UInt32)
  | bindAttribLocation (program location : UInt32) (name : String)
  | bindFragDataLocation (program location : UInt32) (name : String)
  | linkProgram (program : UInt32)
  | programBinary (program : UInt32) (binary : ProgramBinary)
  | useProgram (program : UInt32)
  | activeTexture (unit : UInt32)
  | bindTexture (target texture : UInt32)
  | uniformFloats (components : Nat) (location : Int32) (count : Nat) (data : List Binary32)
  | uniformInts (components : Nat) (location : Int32) (count : Nat) (data : List Int32)
  | uniformMatrices (dimension : Nat) (location : Int32) (count : Nat) (transpose : Bool)
      (data : List Binary32)
deriving Repr, DecidableEq

/-- A uniform as a context reports it. -/
structure ReportedUniform where
  name : String
  size : Int32
  /-- The code of its type. -/
  code : UInt32
deriving Repr, DecidableEq

/-- What a context answers to queries. -/
structure Answers where
  /-- Objects cannot be made. -/
  failCreate : Bool := false
  compileStatus : Bool := true
  linkStatus : Bool := true
  shaderLog : String := ""
  programLog : String := ""
  uniforms : List ReportedUniform := []
  /-- The locations of uniforms; other names have a negative one. -/
  locations : List (String × Int32) := []
  /-- Every program in exported form; without it the query is an error. -/
  binary : Option ProgramBinary := none
deriving Repr, DecidableEq

/-- A context that answers from a record. -/
structure Context where
  version : Version
  extensions : List String
  vendor : String
  answers : Answers := {}
  nextId : UInt32 := 1
  /-- The calls since they were last taken, in order. -/
  calls : List Call := []
deriving Repr, DecidableEq

namespace Context

def capabilities (context : Context) : Capabilities :=
  capabilitiesFor context.version context.extensions.contains

def perform (call : Call) : Action Context Unit :=
  Action.modify fun context => { context with calls := context.calls ++ [call] }

/-- Records a call that makes an object.  The answer is the number of the
object, if it could be made. -/
def create? (call : Call) : Action Context (Option UInt32) := do
  perform call
  let context ← Action.get
  if context.answers.failCreate then
    return none
  else
    Action.modify fun context => { context with nextId := context.nextId + 1 }
    return some context.nextId

def location? (context : Context) (name : String) : Option UniformLocation :=
  match context.answers.locations.lookup name with
  | some location => if 0 ≤ location then some ⟨location.toUInt32⟩ else none
  | none => none

/-- The recorded calls, which are then forgotten. -/
def takeCalls : Action Context (List Call) := do
  let calls ← Action.read (·.calls)
  Action.modify fun context => { context with calls := [] }
  return calls

end Context

end ShaderPipeline.OpenGL
