/-!
# Machine words

Numbers are kept in words of 32 or 64 bits.  A sum or a product that its word has no room
for stops the program.  Where a single argument or a single text can bring this about, the
operation may answer with an `Abort`.  Numbers that only grow by what has been done before,
such as those of driver objects or of the statistics, are taken as long as they fit, and a
statement about whole runs says so.  A conversion never stops: it keeps the low bits.
-/

namespace ShaderPipeline

/-- Why the program stops in the middle of an operation. -/
inductive Abort where
  /-- A word has no room for a result. -/
  | overflow
  /-- A text is cut inside a character, or behind its end. -/
  | boundary
deriving Repr, DecidableEq

namespace Word

def fit32 (result : Nat) : Except Abort UInt32 :=
  if result < UInt32.size then .ok (UInt32.ofNat result) else .error .overflow

def fit64 (result : Nat) : Except Abort UInt64 :=
  if result < UInt64.size then .ok (UInt64.ofNat result) else .error .overflow

theorem fit32_of_lt {result : Nat} (fits : result < UInt32.size) :
    fit32 result = .ok (UInt32.ofNat result) :=
  if_pos fits

theorem fit64_of_lt {result : Nat} (fits : result < UInt64.size) :
    fit64 result = .ok (UInt64.ofNat result) :=
  if_pos fits

theorem fit64_of_le {result : Nat} (tooLarge : UInt64.size ≤ result) :
    fit64 result = .error .overflow :=
  if_neg (Nat.not_lt_of_le tooLarge)

end Word

end ShaderPipeline
