import ShaderPipeline.Listing
import ShaderPipeline.Program.Session
import ShaderPipeline.Software.Device

/-!
# Reports

What the command line prints about a program that was made.
-/

namespace ShaderPipeline.CommandLine

/-- A text filled up with blanks on the left to two characters. -/
def column (text : String) : String :=
  String.ofList (List.replicate (2 - text.length) ' ') ++ text

def stageReport (device : Software.Device) (program : ProgramId) (stage : Stage) : String :=
  match device.linkedSource? program stage with
  | some text => "===== " ++ stage.word ++ " stage =====\n" ++ Listing.numbered text
  | none => ""

def slotLine (slot : InterfaceSlot) : String :=
  "  [" ++ column ((slot.location.map fun location => Nat.repr location.toNat).getD "-") ++
    "] " ++ slot.type ++ " " ++ slot.name ++ slot.arraySuffix ++ "\n"

def slotsReport (title : String) (slots : List InterfaceSlot) : String :=
  title ++ ":\n" ++
    (if slots.isEmpty then "  (none)\n" else String.join (slots.map slotLine))

def diagnosticLine (diagnostic : Diagnostic) : String :=
  "warning: " ++ diagnostic.stage.word ++ " line " ++ Nat.repr diagnostic.line ++ ": " ++
    diagnostic.problem.message ++ "\n"

def samplerLine (sampler : SamplerEntry) : String :=
  "  unit " ++ column (Nat.repr sampler.unit.toNat) ++ "  " ++ sampler.name ++ "\n"

def uniformLine (slot : Nat) (uniform : UniformEntry) : String :=
  "  slot " ++ column (Nat.repr slot) ++ "  " ++ uniform.name ++ " " ++ uniform.type.label ++
    " x" ++ Int.repr uniform.count.toInt ++ " @ " ++
    Nat.repr uniform.location.number.toNat ++ "\n"

def reflectionReport (reflection : Reflection) : String :=
  "Samplers:\n" ++ String.join (reflection.samplers.map samplerLine) ++
    "Uniforms:\n" ++
    String.join (reflection.uniforms.zipIdx.map fun entry => uniformLine entry.2 entry.1)

/-- All that is printed about a program; `quiet` leaves its text out. -/
def programReport (session : Session Software.Device) (handle : ProgramHandle)
    (program : LinkedProgram) (quiet : Bool) : String :=
  (if quiet then ""
    else stageReport session.device program.object .vertex ++
      stageReport session.device program.object .fragment) ++
    slotsReport "Vertex inputs" program.interface.vertexInputs ++
    slotsReport "Fragment outputs" program.interface.fragmentOutputs ++
    String.join (program.diagnostics.map diagnosticLine) ++
    "Program " ++ handle.label ++ " (" ++
      (if program.fromCache then "restored from cache" else "compiled") ++ ")\n" ++
    reflectionReport program.reflection ++
    session.statistics.text ++ "\n"

end ShaderPipeline.CommandLine
