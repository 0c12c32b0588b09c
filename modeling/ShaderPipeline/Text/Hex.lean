/-!
# Hexadecimal words
-/

namespace ShaderPipeline.Text

/-- A word in hexadecimal, without leading zeros. -/
def hex (word : UInt32) : String :=
  "0x" ++ String.ofList (Nat.toDigits 16 word.toNat)

/-- A word in hexadecimal with all of its eight digits. -/
def hexPadded (word : UInt32) : String :=
  let digits := Nat.toDigits 16 word.toNat
  "0x" ++ String.ofList (List.replicate (8 - digits.length) '0' ++ digits)

end ShaderPipeline.Text
