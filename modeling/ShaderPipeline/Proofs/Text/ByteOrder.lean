/-!
# The order of texts and of their bytes

Texts are compared character by character.  Comparing the bytes of their encoding
gives the same order: the encoding puts the higher digits of a character first, and
a longer encoding starts with a higher byte.
-/

namespace ShaderPipeline.Text

def bytes (text : String) : List UInt8 :=
  text.toByteArray.data.toList

theorem bytes_eq_flatMap (text : String) :
    bytes text = text.toList.flatMap String.utf8EncodeChar := by
  rw [bytes, ← String.utf8Encode_toList, List.utf8Encode]
  simp

theorem ofNat_lt_iff {first second : Nat} (small : first < 256) (small' : second < 256) :
    UInt8.ofNat first < UInt8.ofNat second ↔ first < second := by
  rw [UInt8.lt_iff_toNat_lt, UInt8.toNat_ofNat_of_lt' small, UInt8.toNat_ofNat_of_lt' small']

theorem ofNat_eq_iff {first second : Nat} (small : first < 256) (small' : second < 256) :
    UInt8.ofNat first = UInt8.ofNat second ↔ first = second := by
  rw [← UInt8.toNat_inj, UInt8.toNat_ofNat_of_lt' small, UInt8.toNat_ofNat_of_lt' small']

/-- Numbers are compared by their last digit to the base 64 if the others are equal. -/
theorem lt_iff_digit (low high : Nat) :
    low < high ↔ low / 64 < high / 64 ∨ low / 64 = high / 64 ∧ low % 64 < high % 64 := by
  omega

/-- The bytes of a lower character come first, whatever is behind them. -/
theorem encodeChar_lt {first second : Char} (order : first < second) (rest later : List UInt8) :
    String.utf8EncodeChar first ++ rest < String.utf8EncodeChar second ++ later := by
  have before : first.val.toNat < second.val.toNat := UInt32.lt_iff_toNat_lt.mp order
  have limit : second.val.toNat < 1114112 := by
    rcases second.valid with low | ⟨-, high⟩
    · exact Nat.lt_trans low (by decide)
    · exact high
  unfold String.utf8EncodeChar
  generalize first.val.toNat = low at before
  generalize second.val.toNat = high at before limit
  have digits := (lt_iff_digit low high).mp before
  rw [lt_iff_digit (low / 64), lt_iff_digit (low / 64 / 64)] at digits
  simp only [Nat.div_div_eq_div_mul, Nat.reduceMul] at digits
  have top : low / 262144 % 8 = low / 262144 ∧ high / 262144 % 8 = high / 262144 :=
    ⟨Nat.mod_eq_of_lt (by omega), Nat.mod_eq_of_lt (by omega)⟩
  dsimp only
  -- One case for each two lengths: equal lengths are told apart by their digits, others by
  -- their first bytes.
  split <;> split <;> (repeat' split) <;>
    simp (disch := omega) only [List.cons_append, List.nil_append, List.cons_lt_cons_iff,
      ofNat_lt_iff, ofNat_eq_iff, top] <;>
    omega

theorem flatMap_encodeChar_lt {first second : List Char} (order : first < second) :
    first.flatMap String.utf8EncodeChar < second.flatMap String.utf8EncodeChar := by
  induction first generalizing second with
  | nil =>
      cases second with
      | nil => exact absurd order (List.lt_irrefl _)
      | cons character rest =>
          have some_ : 0 < (String.utf8EncodeChar character).length := by
            rw [String.length_utf8EncodeChar]
            exact character.utf8Size_pos
          obtain ⟨byte, bytes, isBytes⟩ := List.exists_cons_of_length_pos some_
          rw [List.flatMap_cons, isBytes]
          exact List.nil_lt_cons _ _
  | cons character rest ih =>
      cases second with
      | nil => exact absurd order (by simp)
      | cons other later =>
          rw [List.flatMap_cons, List.flatMap_cons]
          rcases List.cons_lt_cons_iff.mp order with lower | ⟨rfl, behind⟩
          · exact encodeChar_lt lower _ _
          · exact List.append_left_lt (ih behind)

theorem le_iff_bytes (first second : String) : first ≤ second ↔ bytes first ≤ bytes second := by
  have mono : ∀ {lower higher : String}, lower < higher → bytes lower < bytes higher := by
    intro lower higher order
    rw [bytes_eq_flatMap, bytes_eq_flatMap]
    exact flatMap_encodeChar_lt order
  constructor
  · intro order back
    by_cases strict : first < second
    · exact List.lt_irrefl _ (List.lt_trans back (mono strict))
    · rw [String.le_antisymm order (String.not_lt.mp strict)] at back
      exact List.lt_irrefl _ back
  · intro order
    exact String.not_lt.mp fun back => order (mono back)

end ShaderPipeline.Text
