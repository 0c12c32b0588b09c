/-!
# Semantics

A vertex input or a fragment output carries a semantic, such as `POSITION`.
The semantic, not the variable's name, decides the location.  Names are
compared exactly.  On old targets a fragment output stands for a built-in
variable, which this file lists by location.
-/

namespace ShaderPipeline

/-- A semantic and the location that it stands for. -/
structure Semantic where
  name : String
  location : UInt32
deriving Repr, DecidableEq

namespace Semantic

/-- The semantics of vertex inputs.  Names that mean the same share a location. -/
def vertexInputs : List Semantic :=
  [⟨"POSITION", 0⟩, ⟨"NORMAL", 1⟩, ⟨"COLOR", 2⟩, ⟨"SECONDARY_COLOR", 3⟩,
    ⟨"WEIGHT_INDEX", 4⟩, ⟨"WEIGHT_INDEX0", 4⟩, ⟨"WEIGHT_INDEX1", 5⟩,
    ⟨"WEIGHT_VALUE", 6⟩, ⟨"WEIGHT_VALUE0", 6⟩, ⟨"WEIGHT_VALUE1", 7⟩,
    ⟨"TEXCOORD", 8⟩, ⟨"TEXCOORD0", 8⟩, ⟨"TEXCOORD1", 9⟩, ⟨"TEXCOORD2", 10⟩,
    ⟨"TEXCOORD3", 11⟩, ⟨"TEXCOORD4", 12⟩, ⟨"TEXCOORD5", 13⟩, ⟨"TEXCOORD6", 14⟩,
    ⟨"TEXCOORD7", 15⟩]

def fragmentOutputs : List Semantic :=
  [⟨"FRAG_COLOR", 0⟩, ⟨"FRAG_COLOR0", 1⟩, ⟨"FRAG_COLOR1", 2⟩, ⟨"FRAG_COLOR2", 3⟩,
    ⟨"FRAG_COLOR3", 4⟩, ⟨"FRAG_DEPTH", 5⟩]

/-- The location of a semantic in either table. -/
def location? (name : String) : Option UInt32 :=
  ((vertexInputs ++ fragmentOutputs).find? (·.name == name)).map (·.location)

end Semantic

/-- A built-in variable that fragment outputs are written to on old targets. -/
structure LegacyOutput where
  builtIn : String
  /-- The first version without the built-in. -/
  removedIn : UInt32
deriving Repr, DecidableEq

namespace LegacyOutput

/-- The built-in variables, by fragment output location. -/
def all : List LegacyOutput :=
  [⟨"gl_FragColor", 130⟩, ⟨"gl_FragData[0]", 130⟩, ⟨"gl_FragData[1]", 130⟩,
    ⟨"gl_FragData[2]", 130⟩, ⟨"gl_FragData[3]", 130⟩, ⟨"gl_FragDepth", 999⟩]

def at? (location : UInt32) : Option LegacyOutput :=
  all[location.toNat]?

/-- The built-in variable to write on a language version, if it has not been
removed there. -/
def substitute? (location version : UInt32) : Option String :=
  (at? location).bind fun output =>
    if version < output.removedIn then some output.builtIn else none

end LegacyOutput

end ShaderPipeline
