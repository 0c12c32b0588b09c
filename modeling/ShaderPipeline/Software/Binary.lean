import ShaderPipeline.Bytes.LittleEndian
import ShaderPipeline.Stage

/-!
# Binaries of the software device

The payload of a binary is the text of each linked stage: a byte for the stage,
the length of the text as a word, and the text in UTF-8.
-/

namespace ShaderPipeline.Software

def stageTag : Stage → UInt8
  | .vertex => 0
  | .fragment => 1

def stageOfTag? (tag : UInt8) : Option Stage :=
  if tag = 0 then some .vertex
  else if tag = 1 then some .fragment
  else none

def encodeStage (entry : Stage × String) : List UInt8 :=
  let text := entry.2.toUTF8.toList
  stageTag entry.1 :: (Bytes.ofWord text.length.toUInt32 ++ text)

def encodeStages (stages : List (Stage × String)) : List UInt8 :=
  stages.flatMap encodeStage

def decodeStages? : List UInt8 → Option (List (Stage × String))
  | [] => some []
  | tag :: bytes =>
      match stageOfTag? tag, _found : Bytes.splitWord? bytes with
      | some stage, some (length, rest) =>
          if rest.length < length.toNat then none
          else
            match String.fromUTF8? (rest.take length.toNat).toByteArray with
            | none => none
            | some text =>
                (decodeStages? (rest.drop length.toNat)).map fun stages => (stage, text) :: stages
      | _, _ => none
termination_by bytes => bytes.length
decreasing_by
  have := Bytes.length_of_splitWord? _found
  simp only [List.length_drop, List.length_cons]
  omega

end ShaderPipeline.Software
