/-!
# Pipeline stages

A shader program has a vertex stage, a fragment stage, or both.
-/

namespace ShaderPipeline

/-- A programmable stage of the pipeline. -/
inductive Stage where
  /-- Runs once per vertex. -/
  | vertex
  /-- Runs once per fragment. -/
  | fragment
deriving Repr, DecidableEq

namespace Stage

/-- The word that messages use for a stage. -/
def word : Stage → String
  | .vertex => "vertex"
  | .fragment => "fragment"

end Stage

end ShaderPipeline
