import ShaderPipeline.Dialect.Body
import ShaderPipeline.Dialect.Intrinsics
import ShaderPipeline.Dialect.Preamble
import ShaderPipeline.Log

/-!
# Recasting programs

A program's stages are written once, in one dialect.  This file gives each
stage the text that a target compiles: the header of the target and the recast
body.
-/

namespace ShaderPipeline.Dialect

/-- The text in front of every body of a stage. -/
def header (caps : Capabilities) (stage : Stage) : String :=
  preamble caps ++ precision caps stage ++ intrinsics caps stage

/-- A stage as the target compiles it, and what was found while recasting it. -/
structure RecastStage where
  stage : Stage
  text : String
  slots : List InterfaceSlot
  diagnostics : List Diagnostic
deriving Repr, DecidableEq

def recastStage (caps : Capabilities) (stage : Stage) (source : String) : RecastStage :=
  let body := Body.ofSource caps stage source
  { stage := stage
    text := header caps stage ++ body.text
    slots := body.slots
    diagnostics := body.diagnostics }

/-- A program as the target compiles it. -/
structure RecastProgram where
  vertex : Option String
  fragment : Option String
  interface : ProgramInterface
  /-- The diagnostics of both stages, the vertex stage first. -/
  diagnostics : List Diagnostic
deriving Repr, DecidableEq

namespace RecastProgram

/-- The stages that a program has, the vertex stage first. -/
def stages (program : RecastProgram) : List (Stage × String) :=
  (program.vertex.map fun text => (Stage.vertex, text)).toList ++
    (program.fragment.map fun text => (Stage.fragment, text)).toList

end RecastProgram

/-- Recasts a program, of which either stage may be absent. -/
def recastProgram (caps : Capabilities) (vertex fragment : Option String) : RecastProgram :=
  let vertexStage := vertex.map (recastStage caps .vertex)
  let fragmentStage := fragment.map (recastStage caps .fragment)
  { vertex := vertexStage.map (·.text)
    fragment := fragmentStage.map (·.text)
    interface :=
      { vertexInputs := (vertexStage.map (·.slots)).getD []
        fragmentOutputs := (fragmentStage.map (·.slots)).getD [] }
    diagnostics := (vertexStage.map (·.diagnostics)).getD [] ++
      (fragmentStage.map (·.diagnostics)).getD [] }

def targetEvent (caps : Capabilities) : LogEvent :=
  ⟨.debug, "DialectRewriter: targeting GLSL " ++ Nat.repr caps.version.toNat ++ " ('" ++
    caps.versionText ++ "')"⟩

def diagnosticEvent (name : String) (diagnostic : Diagnostic) : LogEvent :=
  ⟨.warn, "DialectRewriter: '" ++ name ++ "' " ++ diagnostic.stage.word ++ " line " ++
    Nat.repr diagnostic.line ++ ": " ++ diagnostic.problem.message⟩

def stageEvents (name : String) (recast : RecastStage) : List LogEvent :=
  recast.diagnostics.map (diagnosticEvent name) ++
    [⟨.debug, "DialectRewriter: rewrote " ++ recast.stage.word ++ " stage of '" ++ name ++
      "' (" ++ Nat.repr recast.slots.length ++ " interface slots, " ++
      Nat.repr recast.diagnostics.length ++ " diagnostics)"⟩]

/-- The events of recasting a program called `name`, the vertex stage first. -/
def programEvents (caps : Capabilities) (name : String) (vertex fragment : Option String) :
    List LogEvent :=
  (vertex.map fun source => stageEvents name (recastStage caps .vertex source)).getD [] ++
    (fragment.map fun source => stageEvents name (recastStage caps .fragment source)).getD []

end ShaderPipeline.Dialect
