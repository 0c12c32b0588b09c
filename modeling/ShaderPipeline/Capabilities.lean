import ShaderPipeline.Text.Blank

/-!
# Driver capabilities

What a driver accepts: the version of the shading language it compiles and the
optional features that shader text may ask for.
-/

namespace ShaderPipeline

/-- The extension that gives legacy targets sampling at an explicit level of
detail. -/
inductive LodExtension where
  /-- The desktop extension. -/
  | arb
  /-- The embedded extension. -/
  | ext
deriving Repr, DecidableEq

namespace LodExtension

/-- The name that enables the extension in shader text. -/
def pragmaName : LodExtension → String
  | .arb => "GL_ARB_shader_texture_lod"
  | .ext => "GL_EXT_shader_texture_lod"

/-- What the extension's functions have behind their names. -/
def functionSuffix : LodExtension → String
  | .arb => ""
  | .ext => "EXT"

end LodExtension

/-- The language version and the optional features of a driver. -/
structure Capabilities where
  /-- The language version as a number, such as 120 or 330. -/
  version : UInt32
  /-- The text of the version line, such as `300 es`. -/
  versionText : String
  gpuShader5 : Bool
  gpuShader4 : Bool
  /-- The desktop extension for an explicit level of detail. -/
  textureLod : Bool
  /-- The embedded extension for an explicit level of detail. -/
  textureLodExt : Bool
  /-- Linked programs can be exported and imported. -/
  programBinary : Bool
deriving Repr, DecidableEq

namespace Capabilities

/-- The first version with storage qualifiers for both directions. -/
def storageQualifierVersion : UInt32 := 130

/-- The last version that cannot write locations in shader text. -/
def lastBindingOnlyVersion : UInt32 := 150

/-- Desktop language 1.20. -/
def gl21 : Capabilities where
  version := 120
  versionText := "120"
  gpuShader5 := false
  gpuShader4 := false
  textureLod := true
  textureLodExt := false
  programBinary := false

/-- Desktop language 3.30. -/
def gl33 : Capabilities where
  version := 330
  versionText := "330"
  gpuShader5 := false
  gpuShader4 := true
  textureLod := true
  textureLodExt := false
  programBinary := true

/-- Desktop language 4.10. -/
def gl41 : Capabilities where
  version := 410
  versionText := "410"
  gpuShader5 := true
  gpuShader4 := true
  textureLod := true
  textureLodExt := false
  programBinary := true

/-- Embedded language 1.00. -/
def gles2 : Capabilities where
  version := 100
  versionText := "100"
  gpuShader5 := false
  gpuShader4 := false
  textureLod := false
  textureLodExt := false
  programBinary := false

/-- Embedded language 3.00. -/
def gles3 : Capabilities where
  version := 300
  versionText := "300 es"
  gpuShader5 := false
  gpuShader4 := false
  textureLod := false
  textureLodExt := false
  programBinary := true

instance : Inhabited Capabilities := ⟨gl33⟩

/-- The capabilities known by a short name. -/
def preset? (name : String) : Option Capabilities :=
  match name with
  | "gl21" => some gl21
  | "gl33" => some gl33
  | "gl41" => some gl41
  | "gles2" => some gles2
  | "gles3" => some gles3
  | _ => none

/-- Embedded targets have version 100 or a version line that ends in `es`. -/
def isEmbedded (caps : Capabilities) : Bool :=
  caps.version == 100 || " es".toList.isSuffixOf (Text.trimEnd caps.versionText.toList)

/-- The extension to enable for an explicit level of detail.  Each flag counts
only on the targets that its extension belongs to. -/
def lodExtension? (caps : Capabilities) : Option LodExtension :=
  if caps.isEmbedded then
    if caps.textureLodExt then some .ext else none
  else
    if caps.textureLod then some .arb else none

/-- Inputs and outputs use the legacy storage words and built-in outputs. -/
def usesLegacyStorage (caps : Capabilities) : Bool :=
  caps.version < storageQualifierVersion

/-- Vertex inputs are bound by driver calls before linking. -/
def bindsAttributes (caps : Capabilities) : Bool :=
  caps.version ≤ lastBindingOnlyVersion

/-- Fragment outputs are bound by driver calls before linking. -/
def bindsFragmentData (caps : Capabilities) : Bool :=
  storageQualifierVersion ≤ caps.version && caps.version ≤ lastBindingOnlyVersion

/-- Locations are written in the shader text. -/
def writesLocations (caps : Capabilities) : Bool :=
  lastBindingOnlyVersion < caps.version

end Capabilities

end ShaderPipeline
