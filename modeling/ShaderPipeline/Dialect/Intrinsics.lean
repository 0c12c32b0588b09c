import ShaderPipeline.Capabilities
import ShaderPipeline.Stage

/-!
# Intrinsic functions

Every stage starts with small functions under names that all targets share,
such as `tex2D`, `saturate` and `clip`.  Their bodies call what the target
version of the language has.
-/

namespace ShaderPipeline.Dialect

/-- One line of intrinsic text. -/
inductive IntrinsicLine where
  | function (signature body : String)
  | directive (text : String)
  | empty
deriving Repr, DecidableEq

/-- A line as it is written, with its line feed. -/
def IntrinsicLine.text : IntrinsicLine → String
  | .function signature body => signature ++ " \x7b " ++ body ++ " \x7d\n"
  | .directive text => text ++ "\n"
  | .empty => "\n"

/-- Limits a value to the range from zero to one. -/
def saturateLines : List IntrinsicLine :=
  [.function "float saturate(float v)"
      "return clamp(v, 0.0, 1.0);",
    .function "vec2 saturate(vec2 v)"
      "return clamp(v, 0.0, 1.0);",
    .function "vec3 saturate(vec3 v)"
      "return clamp(v, 0.0, 1.0);",
    .function "vec4 saturate(vec4 v)"
      "return clamp(v, 0.0, 1.0);"]

/-- Drops a fragment when a component is negative. -/
def clipLines : List IntrinsicLine :=
  [.function "void clip(float v)"
      "if (v < 0.0) \x7b discard; \x7d",
    .function "void clip(vec2 v)"
      "if (any(lessThan(v, vec2(0.0)))) \x7b discard; \x7d",
    .function "void clip(vec3 v)"
      "if (any(lessThan(v, vec3(0.0)))) \x7b discard; \x7d",
    .function "void clip(vec4 v)"
      "if (any(lessThan(v, vec4(0.0)))) \x7b discard; \x7d"]

def vertexSampling : List IntrinsicLine :=
  [.function "vec4 tex2Dlod(sampler2D s, vec4 uv)"
      "return textureLod(s, uv.xy, uv.w);"]

def fragmentSampling : List IntrinsicLine :=
  [.function "vec4 tex2D(sampler2D s, vec2 uv)"
      "return texture(s, uv.xy);",
    .function "vec4 tex2D(sampler2D s, vec2 uv, vec2 dx, vec2 dy)"
      "return textureGrad(s, uv.xy, dx, dy);",
    .function "vec4 tex2Dbias(sampler2D s, vec4 uv)"
      "return texture(s, uv.xy, uv.w);",
    .function "vec4 tex2Dproj(sampler2D s, vec3 uv)"
      "return textureProj(s, uv);",
    .function "vec4 tex2Dproj(sampler2D s, vec4 uv)"
      "return textureProj(s, uv);",
    .function "vec4 tex2Dlod(sampler2D s, vec4 uv)"
      "return textureLod(s, uv.xy, uv.w);",
    .empty,
    .function "vec4 tex2D(sampler2DShadow s, vec3 uv)"
      "return vec4(texture(s, uv.xyz));",
    .function "vec4 tex2D(sampler2DShadow s, vec3 uv, vec2 dx, vec2 dy)"
      "return vec4(textureGrad(s, uv.xyz, dx, dy));",
    .empty,
    .function "vec4 texCUBE(samplerCube s, vec3 uv)"
      "return texture(s, uv.xyz);",
    .function "vec4 texCUBE(samplerCubeShadow s, vec4 uv)"
      "return vec4(texture(s, uv.xyzw));",
    .function "vec4 texCUBEbias(samplerCube s, vec4 uv)"
      "return texture(s, uv.xyz, uv.w);",
    .function "vec4 texCUBElod(samplerCube s, vec4 uv)"
      "return textureLod(s, uv.xyz, uv.w);",
    .empty,
    .function "vec4 tex3D(sampler3D s, vec3 uv)"
      "return texture(s, uv.xyz);",
    .function "vec4 tex3Dproj(sampler3D s, vec4 uv)"
      "return textureProj(s, uv);",
    .function "vec4 tex3Dbias(sampler3D s, vec4 uv)"
      "return texture(s, uv.xyz, uv.w);",
    .function "vec4 tex3Dlod(sampler3D s, vec4 uv)"
      "return textureLod(s, uv.xyz, uv.w);",
    .empty,
    .function "vec4 tex2Darray(sampler2DArray s, vec3 uv)"
      "return texture(s, uv.xyz);",
    .function "vec4 tex2Darray(sampler2DArrayShadow s, vec4 uv)"
      "return vec4(texture(s, uv.xyzw));",
    .empty,
    .directive "#ifdef TEXTURE_RECT",
    .function "vec4 texRECT(sampler2DRect s, vec2 uv)"
      "return texture(s, uv.xy);",
    .function "vec4 texRECTproj(sampler2DRect s, vec3 uv)"
      "return textureProj(s, uv);",
    .function "vec4 texRECTproj(sampler2DRect s, vec4 uv)"
      "return textureProj(s, uv);",
    .directive "#endif"]

def legacyVertexSampling : List IntrinsicLine :=
  [.function "vec4 tex2Dlod(sampler2D s, vec4 uv)"
      "return texture2DLod(s, uv.xy, uv.w);"]

def legacyFragmentSampling : List IntrinsicLine :=
  [.function "vec4 tex2D(sampler2D s, vec2 uv)"
      "return texture2D(s, uv.xy);",
    .function "vec4 tex2Dbias(sampler2D s, vec4 uv)"
      "return texture2D(s, uv.xy, uv.w);",
    .function "vec4 tex2Dproj(sampler2D s, vec3 uv)"
      "return texture2DProj(s, uv);",
    .function "vec4 tex2Dproj(sampler2D s, vec4 uv)"
      "return texture2DProj(s, uv);",
    .empty,
    .function "vec4 texCUBE(samplerCube s, vec3 uv)"
      "return textureCube(s, uv.xyz);",
    .function "vec4 texCUBEbias(samplerCube s, vec4 uv)"
      "return textureCube(s, uv.xyz, uv.w);",
    .empty,
    .directive "#ifndef GL_ES",
    .function "vec4 tex2D(sampler2DShadow s, vec3 uv)"
      "return shadow2D(s, uv.xyz);",
    .function "vec4 tex3D(sampler3D s, vec3 uv)"
      "return texture3D(s, uv.xyz);",
    .function "vec4 tex3Dproj(sampler3D s, vec4 uv)"
      "return texture3DProj(s, uv);",
    .function "vec4 tex3Dbias(sampler3D s, vec4 uv)"
      "return texture3D(s, uv.xyz, uv.w);",
    .directive "#endif",
    .empty,
    .directive "#ifdef TEXTURE_RECT",
    .function "vec4 texRECT(sampler2DRect s, vec2 uv)"
      "return texture2DRect(s, uv.xy);",
    .function "vec4 texRECTproj(sampler2DRect s, vec3 uv)"
      "return texture2DRectProj(s, uv);",
    .function "vec4 texRECTproj(sampler2DRect s, vec4 uv)"
      "return texture2DRectProj(s, uv);",
    .directive "#endif"]

/-- Fragment sampling at an explicit level of detail on a legacy target. -/
def legacyLodSampling (extension : LodExtension) : List IntrinsicLine :=
  [.function "vec4 tex2Dlod(sampler2D s, vec4 uv)"
      ("return texture2DLod" ++ extension.functionSuffix ++ "(s, uv.xy, uv.w);"),
    .function "vec4 texCUBElod(samplerCube s, vec4 uv)"
      ("return textureCubeLod" ++ extension.functionSuffix ++ "(s, uv.xyz, uv.w);")]

def intrinsicLines (caps : Capabilities) : Stage → List IntrinsicLine
  | .vertex =>
      saturateLines ++
        (if caps.usesLegacyStorage then legacyVertexSampling else vertexSampling) ++ [.empty]
  | .fragment =>
      [.empty] ++ clipLines ++ [.empty] ++ saturateLines ++ [.empty] ++
        (if caps.usesLegacyStorage then
          legacyFragmentSampling ++
            (match caps.lodExtension? with
            | some extension => .empty :: legacyLodSampling extension
            | none => [])
        else fragmentSampling) ++ [.empty]

def intrinsics (caps : Capabilities) (stage : Stage) : String :=
  String.join ((intrinsicLines caps stage).map IntrinsicLine.text)

end ShaderPipeline.Dialect
