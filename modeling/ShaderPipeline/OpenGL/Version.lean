import ShaderPipeline.Capabilities

/-!
# Context versions

What an OpenGL context accepts follows from its version and its extensions.
-/

namespace ShaderPipeline.OpenGL

structure Version where
  major : UInt32
  minor : UInt32
  /-- The context is one of OpenGL ES. -/
  embedded : Bool
deriving Repr, DecidableEq

namespace Version

/-- The number of the shading language on the desktop. -/
def desktopLanguage (version : Version) : UInt32 :=
  if version.major = 2 then if version.minor = 0 then 110 else 120
  else if version.major = 3 ∧ version.minor = 0 then 130
  else if version.major = 3 ∧ version.minor = 1 then 140
  else if version.major = 3 ∧ version.minor = 2 then 150
  else version.major * 100 + version.minor * 10

def language (version : Version) : UInt32 :=
  if version.embedded then if 3 ≤ version.major then 300 else 100
  else version.desktopLanguage

/-- The version of the shading language as a text asks for it. -/
def languageText (version : Version) : String :=
  if version.embedded then if 3 ≤ version.major then "300 es" else "100"
  else Nat.repr version.desktopLanguage.toNat

end Version

/-- What a context of some version accepts; `has` tells which extensions it
has. -/
def capabilitiesFor (version : Version) (has : String → Bool) : Capabilities :=
  if version.embedded then
    { version := version.language
      versionText := version.languageText
      gpuShader5 := false
      gpuShader4 := false
      textureLod := false
      textureLodExt := version.language < 300 && has "GL_EXT_shader_texture_lod"
      programBinary := 300 ≤ version.language || has "GL_OES_get_program_binary" }
  else
    { version := version.language
      versionText := version.languageText
      gpuShader5 := 400 ≤ version.language || has "GL_ARB_gpu_shader5"
      gpuShader4 := has "GL_EXT_gpu_shader4"
      textureLod := has "GL_ARB_shader_texture_lod"
      textureLodExt := false
      programBinary := 410 ≤ version.language || has "GL_ARB_get_program_binary" }

end ShaderPipeline.OpenGL
