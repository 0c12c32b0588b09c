import ShaderPipeline.Bytes.LittleEndian
import ShaderPipeline.ProgramBinary

/-!
# Cache entries

A cache file holds the key of a program, the format tag of its binary, and the
binary's payload.  Both numbers are little-endian words.
-/

namespace ShaderPipeline

/-- What a cache file holds. -/
structure CacheEntry where
  key : UInt32
  binary : ProgramBinary
deriving Repr, DecidableEq

namespace CacheEntry

def encode (entry : CacheEntry) : List UInt8 :=
  Bytes.ofWord entry.key ++ (Bytes.ofWord entry.binary.format ++ entry.binary.payload)

/-- The entry that a byte string holds, unless it is shorter than two words. -/
def decode? (bytes : List UInt8) : Option CacheEntry :=
  match Bytes.splitWord? bytes with
  | none => none
  | some (key, afterKey) =>
      match Bytes.splitWord? afterKey with
      | none => none
      | some (format, payload) => some ⟨key, format, payload⟩

end CacheEntry

end ShaderPipeline
