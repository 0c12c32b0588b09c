import ShaderPipeline.Capabilities
import ShaderPipeline.Stage

/-!
# The lines in front of a stage

Shader text starts with its version line, a few definitions and the extensions
it enables, followed by the default precisions of embedded targets.
-/

namespace ShaderPipeline.Dialect

def enableLine (extension : String) : String :=
  "#extension " ++ extension ++ " : enable\n"

/-- The definitions and extensions that the feature level asks for. -/
def featureLines (caps : Capabilities) : String :=
  if caps.gpuShader5 then "#define GPU_SHADER 5\n"
  else if caps.gpuShader4 then
    "#define GPU_SHADER 4\n" ++ enableLine "GL_EXT_gpu_shader4"
  else "#define GPU_SHADER 3\n"

/-- The line that enables sampling at an explicit level of detail. -/
def lodLine (caps : Capabilities) : String :=
  match caps.lodExtension? with
  | some extension => enableLine extension.pragmaName
  | none => ""

/-- The version line and the lines that follow from the capabilities alone. -/
def preamble (caps : Capabilities) : String :=
  "#version " ++ caps.versionText ++ "\n" ++
    "#define GLSL_VERSION " ++ Nat.repr caps.version.toNat ++ "\n" ++
    featureLines caps ++ lodLine caps

def precisionLine (type : String) : String :=
  "precision highp " ++ type ++ ";\n"

/-- The sampler types that need a precision besides the plain one.  Legacy
targets know only the cube. -/
def preciseSamplers (caps : Capabilities) : List String :=
  if caps.usesLegacyStorage then ["samplerCube"]
  else ["sampler3D", "samplerCube", "sampler2DArray", "sampler2DShadow",
    "samplerCubeShadow", "sampler2DArrayShadow"]

/-- The default precisions, which only embedded targets see. -/
def precision (caps : Capabilities) (stage : Stage) : String :=
  "#ifdef GL_ES\n" ++ precisionLine "float" ++ precisionLine "int" ++
    (match stage with
    | .vertex => ""
    | .fragment =>
        precisionLine "sampler2D" ++ "#ifdef TEXTURE_RECT\n" ++
          precisionLine "sampler2DRect" ++ "#endif\n" ++
          String.join ((preciseSamplers caps).map precisionLine)) ++
    "#endif\n"

end ShaderPipeline.Dialect
