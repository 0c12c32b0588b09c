import ShaderPipeline.Cache.Entry
import ShaderPipeline.Software.Binary

/-!
# What is written can be read back

Words, the stages in a binary and cache entries are read back from their bytes.
For stages this needs texts whose length fits into a word.
-/

namespace ShaderPipeline

namespace Bytes

theorem toWord_bytes (word : UInt32) :
    toWord word.toUInt8 (word >>> 8).toUInt8 (word >>> 16).toUInt8 (word >>> 24).toUInt8 =
      word := by
  apply UInt32.toBitVec_inj.mp
  have eight : UInt32.toBitVec 8 % 32 = 8#32 := by decide
  have sixteen : UInt32.toBitVec 16 % 32 = 16#32 := by decide
  have twentyFour : UInt32.toBitVec 24 % 32 = 24#32 := by decide
  simp only [toWord, UInt32.toBitVec_or, UInt32.toBitVec_shiftLeft, UInt8.toBitVec_toUInt32,
    UInt32.toBitVec_toUInt8, UInt32.toBitVec_shiftRight, eight, sixteen, twentyFour]
  ext i inWord
  simp only [BitVec.getElem_or, BitVec.getElem_setWidth, BitVec.getLsbD_setWidth,
    BitVec.shiftLeft_eq', BitVec.ushiftRight_eq', BitVec.getElem_shiftLeft,
    BitVec.getLsbD_ushiftRight, BitVec.toNat_ofNat, Nat.reducePow, Nat.reduceMod]
  -- The bit stands in one of the four bytes.
  have inByte : i < 8 ∨ (8 ≤ i ∧ i < 16) ∨ (16 ≤ i ∧ i < 24) ∨ 24 ≤ i := by omega
  rcases inByte with first | ⟨low, high⟩ | ⟨low, high⟩ | fourth
  · have below : i < 16 ∧ i < 24 := by omega
    simp [first, below, BitVec.getLsbD_eq_getElem inWord]
  · have places : ¬ i < 8 ∧ i - 8 < 8 ∧ 8 + (i - 8) = i ∧ i < 24 := by omega
    simp [places, high, BitVec.getLsbD_eq_getElem inWord]
  · have places : ¬ i < 8 ∧ ¬ i - 8 < 8 ∧ ¬ i < 16 ∧ i - 16 < 8 ∧ 16 + (i - 16) = i := by omega
    simp [places, high, BitVec.getLsbD_eq_getElem inWord]
  · have places : ¬ i < 8 ∧ ¬ i - 8 < 8 ∧ ¬ i - 16 < 8 ∧ ¬ i < 24 ∧ i - 24 < 8 ∧
        24 + (i - 24) = i := by omega
    simp [places, BitVec.getLsbD_eq_getElem inWord]

theorem splitWord?_ofWord_append (word : UInt32) (rest : List UInt8) :
    splitWord? (ofWord word ++ rest) = some (word, rest) := by
  simp only [ofWord, List.cons_append, List.nil_append, splitWord?, toWord_bytes]

end Bytes

theorem CacheEntry.decode?_encode (entry : CacheEntry) :
    CacheEntry.decode? entry.encode = some entry := by
  unfold encode decode?
  simp only [Bytes.splitWord?_ofWord_append]

namespace Software

theorem toList_loop (bytes : ByteArray) (position : Nat) (before : List UInt8) :
    ByteArray.toList.loop bytes position before =
      before.reverse ++ bytes.data.toList.drop position := by
  fun_induction ByteArray.toList.loop bytes position before with
  | case1 position before inside ih =>
      have inside : position < bytes.data.toList.length := inside
      have found : bytes.get! position = bytes.data.toList[position] :=
        getElem!_pos bytes.data position inside
      rw [ih, List.reverse_cons, List.append_assoc, List.drop_eq_getElem_cons inside, found]
      rfl
  | case2 position before outside =>
      have outside : bytes.data.toList.length ≤ position := Nat.le_of_not_lt outside
      rw [List.drop_eq_nil_of_le outside, List.append_nil]

theorem toList_eq (bytes : ByteArray) : bytes.toList = bytes.data.toList := by
  rw [ByteArray.toList, toList_loop]
  rfl

theorem toByteArray_toList (bytes : ByteArray) : bytes.toList.toByteArray = bytes := by
  apply ByteArray.ext
  rw [List.data_toByteArray, toList_eq, Array.toArray_toList]

theorem fromUTF8?_toUTF8 (text : String) : String.fromUTF8? text.toUTF8 = some text := by
  unfold String.fromUTF8?
  rw [dif_pos (show text.toUTF8.IsValidUTF8 from text.isValidUTF8)]
  rfl

theorem length_toUTF8_toList (text : String) : text.toUTF8.toList.length = text.utf8ByteSize := by
  rw [toList_eq, Array.length_toList]
  rfl

theorem stageOfTag?_stageTag (stage : Stage) : stageOfTag? (stageTag stage) = some stage := by
  cases stage <;> rfl

theorem decodeStages?_encodeStage_append {stage : Stage} {text : String}
    (short : text.utf8ByteSize < UInt32.size) (rest : List UInt8) :
    decodeStages? (encodeStage (stage, text) ++ rest) =
      (decodeStages? rest).map fun stages => (stage, text) :: stages := by
  have exactLength : text.toUTF8.toList.length.toUInt32.toNat = text.toUTF8.toList.length := by
    apply UInt32.toNat_ofNat_of_lt'
    rw [length_toUTF8_toList]
    exact short
  simp only [encodeStage, List.cons_append, List.append_assoc]
  rw [decodeStages?, stageOfTag?_stageTag, Bytes.splitWord?_ofWord_append]
  have notShorter : ¬ (text.toUTF8.toList ++ rest).length < text.toUTF8.toList.length := by
    rw [List.length_append]
    omega
  simp only [exactLength, if_neg notShorter, List.take_left, List.drop_left, toByteArray_toList,
    fromUTF8?_toUTF8]

/-- The stages in a binary are read back, if their lengths fit into words. -/
theorem decodeStages?_encodeStages {stages : List (Stage × String)}
    (short : ∀ entry ∈ stages, entry.2.utf8ByteSize < UInt32.size) :
    decodeStages? (encodeStages stages) = some stages := by
  induction stages with
  | nil => rw [encodeStages, List.flatMap_nil, decodeStages?]
  | cons entry rest ih =>
      obtain ⟨stage, text⟩ := entry
      have restRead := ih fun other member => short other (List.mem_cons_of_mem _ member)
      rw [encodeStages, List.flatMap_cons,
        decodeStages?_encodeStage_append (short (stage, text) List.mem_cons_self)]
      rw [encodeStages] at restRead
      rw [restRead, Option.map_some]

end Software

end ShaderPipeline
