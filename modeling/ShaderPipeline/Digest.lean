import ShaderPipeline.Digest.Blake3

/-!
# Program keys

A program is known to the cache by a number that depends on the text of its
stages.
-/

namespace ShaderPipeline

/-- The number of one stage's text: the first four bytes of its digest. -/
def stageKey (text : String) : UInt32 :=
  match Bytes.splitWord? (Blake3.digest text.toUTF8.toList) with
  | some (word, _) => word
  | none => 0

/-- The number of a program.  An absent stage counts as empty text. -/
def programKey (vertex fragment : Option String) : UInt32 :=
  stageKey (vertex.getD "") ^^^ stageKey (fragment.getD "")

end ShaderPipeline
