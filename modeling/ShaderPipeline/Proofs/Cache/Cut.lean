import ShaderPipeline.Proofs.Cache.Codec

/-!
# Entries that are cut off

The bytes of an entry that were written before a write broke off are its first
ones.  A cut inside the two words at the start, or inside the record of a stage,
is noticed.  A cut between two records is not: what is left reads as an entry with
fewer stages.
-/

namespace ShaderPipeline

namespace Bytes

theorem splitWord?_eq_none {bytes : List UInt8} (short : bytes.length < 4) :
    splitWord? bytes = none := by
  match bytes with
  | [] | [_] | [_, _] | [_, _, _] => rfl
  | _ :: _ :: _ :: _ :: _ =>
      simp only [List.length_cons] at short
      omega

@[simp]
theorem length_ofWord (word : UInt32) : (ofWord word).length = 4 :=
  rfl

/-- A word is read from the first bytes of a text only if all of it is there. -/
theorem splitWord?_take (word : UInt32) (rest : List UInt8) (length : Nat) :
    splitWord? ((ofWord word ++ rest).take length) =
      if length < 4 then none else some (word, rest.take (length - 4)) := by
  split
  · next short =>
      apply splitWord?_eq_none
      rw [List.length_take]
      omega
  · next long =>
      rw [List.take_append, List.take_of_length_le (by rw [length_ofWord]; omega),
        length_ofWord, splitWord?_ofWord_append]

end Bytes

theorem CacheEntry.length_encode (entry : CacheEntry) :
    entry.encode.length = 8 + entry.binary.payload.length := by
  simp only [encode, List.length_append, Bytes.length_ofWord]
  omega

/-- The first bytes of an entry are an entry again, with the first bytes of the payload. -/
theorem CacheEntry.decode?_take (entry : CacheEntry) (length : Nat) :
    CacheEntry.decode? (entry.encode.take length) =
      if length < 8 then none
      else some ⟨entry.key, entry.binary.format, entry.binary.payload.take (length - 8)⟩ := by
  unfold encode decode?
  rw [Bytes.splitWord?_take]
  by_cases noKey : length < 4
  · have short : length < 8 := by omega
    simp [noKey, short]
  · simp only [if_neg noKey, Bytes.splitWord?_take]
    by_cases noFormat : length - 4 < 4
    · have short : length < 8 := by omega
      simp [noFormat, short]
    · have long : ¬ length < 8 := by omega
      simp [noFormat, long, Nat.sub_sub]

namespace Software

theorem length_encodeStage (entry : Stage × String) :
    (encodeStage entry).length = 5 + entry.2.utf8ByteSize := by
  simp only [encodeStage, List.length_cons, List.length_append, Bytes.length_ofWord,
    length_toUTF8_toList]
  omega

/-- A record that is cut off cannot be read. -/
theorem decodeStages?_take_encodeStage {entry : Stage × String}
    (short : entry.2.utf8ByteSize < UInt32.size) {length : Nat} (someBytes : 0 < length)
    (cut : length < (encodeStage entry).length) :
    decodeStages? ((encodeStage entry).take length) = none := by
  obtain ⟨stage, text⟩ := entry
  rw [length_encodeStage] at cut
  have cut : length < 5 + text.utf8ByteSize := cut
  have exactLength : text.toUTF8.toList.length.toUInt32.toNat = text.utf8ByteSize := by
    rw [length_toUTF8_toList]
    exact UInt32.toNat_ofNat_of_lt' short
  obtain ⟨behind, rfl⟩ : ∃ behind, length = behind + 1 := ⟨length - 1, by omega⟩
  have word := Bytes.splitWord?_take text.toUTF8.toList.length.toUInt32 text.toUTF8.toList behind
  simp only [encodeStage, List.take_succ_cons]
  by_cases noLength : behind < 4
  · rw [if_pos noLength] at word
    rw [decodeStages?, stageOfTag?_stageTag, word]
  · rw [if_neg noLength] at word
    have fewer : ((text.toUTF8.toList).take (behind - 4)).length < text.utf8ByteSize := by
      rw [List.length_take]
      omega
    rw [decodeStages?, stageOfTag?_stageTag, word]
    simp only [exactLength, if_pos fewer]

/-- What is left of a payload reads as its first stages if it was cut between two records,
and cannot be read otherwise. -/
theorem decodeStages?_take {stages : List (Stage × String)}
    (short : ∀ entry ∈ stages, entry.2.utf8ByteSize < UInt32.size) {length : Nat}
    (cut : length < (encodeStages stages).length) :
    (∃ count < stages.length, length = (encodeStages (stages.take count)).length ∧
        decodeStages? ((encodeStages stages).take length) = some (stages.take count)) ∨
      (∀ count < stages.length, length ≠ (encodeStages (stages.take count)).length) ∧
        decodeStages? ((encodeStages stages).take length) = none := by
  induction stages generalizing length with
  | nil =>
      simp [encodeStages] at cut
  | cons entry rest ih =>
      have shortHere := short entry List.mem_cons_self
      have isFirst : encodeStages (entry :: rest) = encodeStage entry ++ encodeStages rest := rfl
      rw [isFirst, List.length_append] at cut
      by_cases atStart : length = 0
      · subst atStart
        refine Or.inl ⟨0, by simp, rfl, ?_⟩
        rw [List.take_zero, decodeStages?]
        rfl
      by_cases inside : length < (encodeStage entry).length
      · -- The cut is in the first record, so in front of the end of every further one.
        right
        constructor
        · intro count _
          cases count with
          | zero => exact atStart
          | succ count =>
              rw [List.take_succ_cons, encodeStages, List.flatMap_cons, List.length_append]
              omega
        · rw [isFirst, List.take_append_of_le_length (by omega)]
          exact decodeStages?_take_encodeStage shortHere (by omega) inside
      · have laterCut : length - (encodeStage entry).length < (encodeStages rest).length := by
          omega
        have isTaken : (encodeStages (entry :: rest)).take length = encodeStage entry ++
            (encodeStages rest).take (length - (encodeStage entry).length) := by
          rw [isFirst, List.take_append, List.take_of_length_le (by omega)]
        have isLonger : ∀ count, (encodeStages ((entry :: rest).take (count + 1))).length =
            (encodeStage entry).length + (encodeStages (rest.take count)).length := by
          intro count
          rw [List.take_succ_cons, encodeStages, List.flatMap_cons, List.length_append]
          rfl
        rw [isTaken, decodeStages?_encodeStage_append shortHere]
        rcases ih (fun other member => short other (List.mem_cons_of_mem _ member)) laterCut with
          ⟨count, inRest, isLength, decodes⟩ | ⟨notBetween, decodes⟩
        · refine Or.inl ⟨count + 1, by simpa using inRest, ?_, ?_⟩
          · rw [isLonger]
            omega
          · rw [decodes]
            rfl
        · refine Or.inr ⟨?_, by rw [decodes]; rfl⟩
          intro count inStages
          cases count with
          | zero => exact atStart
          | succ count =>
              rw [isLonger]
              have different := notBetween count (by simpa using inStages)
              omega

end Software

end ShaderPipeline
