/-!
# Ranges of code points

A property of characters is given by the ranges of code points that have it.
-/

namespace ShaderPipeline.Text

/-- A code point lies in one of the ranges, both ends included. -/
def inRanges (ranges : List (Nat × Nat)) (code : Nat) : Bool :=
  ranges.any fun range => range.1 ≤ code && code ≤ range.2

end ShaderPipeline.Text
