/-!
# Little-endian words

Words of 32 bits as four bytes, the lowest byte first.
-/

namespace ShaderPipeline.Bytes

/-- The four bytes of a word, the lowest first. -/
def ofWord (word : UInt32) : List UInt8 :=
  [word.toUInt8, (word >>> 8).toUInt8, (word >>> 16).toUInt8, (word >>> 24).toUInt8]

/-- The word of four bytes, the lowest first. -/
def toWord (first second third fourth : UInt8) : UInt32 :=
  first.toUInt32 ||| (second.toUInt32 <<< 8) ||| (third.toUInt32 <<< 16) |||
    (fourth.toUInt32 <<< 24)

/-- The word at the start of a byte string, and the bytes behind it. -/
def splitWord? : List UInt8 → Option (UInt32 × List UInt8)
  | first :: second :: third :: fourth :: rest => some (toWord first second third fourth, rest)
  | _ => none

theorem length_of_splitWord? {bytes rest : List UInt8} {word : UInt32}
    (found : splitWord? bytes = some (word, rest)) : bytes.length = rest.length + 4 := by
  unfold splitWord? at found
  split at found <;> simp_all

end ShaderPipeline.Bytes
