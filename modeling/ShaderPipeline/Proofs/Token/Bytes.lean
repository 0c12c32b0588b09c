import Mathlib.Data.String.Basic
import ShaderPipeline.Proofs.Text.ByteOrder
import ShaderPipeline.Token.Cursor

/-!
# Characters at a position

A position of a scan stands for the characters behind it.  The byte there is the first of
them if it is ASCII; otherwise it is a byte that is not ASCII, and so are the other bytes of
this character.  Hence a scan that only looks for ASCII never stops inside a character, and
whatever it takes out lies between two of them.
-/

namespace ShaderPipeline.Cursor

variable {source : String} {position : Nat} {rest : List Char}

/-- The characters behind a position. -/
def At (source : String) (position : Nat) (rest : List Char) : Prop :=
  ∃ front, source.toList = front ++ rest ∧ String.utf8Len front = position

theorem at_start (source : String) : At source 0 source.toList :=
  ⟨[], rfl, rfl⟩

theorem At.move {text : List Char} (stands : At source position (text ++ rest)) :
    At source (position + String.utf8Len text) rest := by
  obtain ⟨front, whole, isPosition⟩ := stands
  refine ⟨front ++ text, ?_, ?_⟩
  · rw [whole, List.append_assoc]
  · rw [String.utf8Len_append, isPosition]

theorem At.move_cons {first : Char} (stands : At source position (first :: rest)) :
    At source (position + first.utf8Size) rest := by
  have behind : At source (position + String.utf8Len [first]) rest := At.move stands
  rwa [String.utf8Len_cons, String.utf8Len_nil, Nat.zero_add] at behind

theorem At.size (stands : At source position rest) :
    position + String.utf8Len rest = source.utf8ByteSize := by
  obtain ⟨front, whole, isPosition⟩ := stands
  rw [← isPosition, ← String.utf8Len_append, ← whole, String.utf8Len_toList]

theorem At.isValid (stands : At source position rest) :
    (String.Pos.Raw.mk position).IsValid source := by
  obtain ⟨front, whole, isPosition⟩ := stands
  refine String.Pos.Raw.isValid_iff_exists_append.mpr
    ⟨String.ofList front, String.ofList rest, ?_, ?_⟩
  · rw [← String.ofList_append, ← whole, String.ofList_toList]
  · rw [String.rawEndPos_ofList, isPosition]

/-- A slice between two characters is the text between them. -/
theorem At.slice {text : List Char} (stands : At source position (text ++ rest)) :
    ∃ part, slice source position (position + String.utf8Len text) = .ok part ∧
      part.copy = String.ofList text := by
  have valid := stands.isValid
  have valid' := stands.move.isValid
  refine ⟨⟨source, ⟨_, valid⟩, ⟨_, valid'⟩, Nat.le_add_right _ _⟩, ?_, ?_⟩
  · exact dif_pos ⟨Nat.le_add_right _ _, valid, valid'⟩
  · obtain ⟨front, whole, rfl⟩ := stands
    have length : ∀ characters : List Char,
        String.utf8Len characters = characters.utf8Encode.size := by
      intro characters
      rw [← String.toByteArray_ofList, String.size_toByteArray, String.utf8ByteSize_ofList]
    rw [← String.toByteArray_inj, String.Slice.toByteArray_copy, String.toByteArray_ofList]
    change source.toByteArray.extract (String.utf8Len front)
      (String.utf8Len front + String.utf8Len text) = _
    rw [← String.utf8Encode_toList, whole, List.utf8Encode_append, List.utf8Encode_append,
      length front, ← Nat.add_zero front.utf8Encode.size, Nat.add_assoc,
      ByteArray.extract_append_size_add]
    exact ByteArray.extract_append_eq_left (by rw [Nat.zero_add, length])

theorem utf8Size_of_ascii {character : Char} (ascii : character.toNat < 128) :
    character.utf8Size = 1 := by
  rw [Char.utf8Size_eq_one_iff, UInt32.le_iff_toNat_le]
  exact Nat.le_of_lt_succ ascii

theorem toNat_ofUInt8 (byte : UInt8) : (Char.ofUInt8 byte).toNat = byte.toNat :=
  rfl

theorem ofUInt8_of_ascii {character : Char} (ascii : character.toNat < 128) :
    (String.utf8EncodeChar character).map Char.ofUInt8 = [character] := by
  rw [String.utf8EncodeChar_eq_singleton (utf8Size_of_ascii ascii), List.map_singleton,
    List.singleton_inj]
  apply Char.toNat_inj.mp
  rw [toNat_ofUInt8, UInt32.toNat_toUInt8]
  exact Nat.mod_eq_of_lt (Nat.lt_trans ascii (by decide))

theorem le_toNat_ofNat {value : Nat} (least : 128 ≤ value) (most : value < 256) :
    128 ≤ (UInt8.ofNat value).toNat := by
  rwa [UInt8.toNat_ofNat_of_lt' most]

/-- No byte of a character beyond ASCII is ASCII. -/
theorem toNat_of_mem_encodeChar {character : Char} {byte : UInt8}
    (wide : 128 ≤ character.toNat) (member : byte ∈ String.utf8EncodeChar character) :
    128 ≤ byte.toNat := by
  have isValue : character.toNat = character.val.toNat := rfl
  rw [isValue] at wide
  unfold String.utf8EncodeChar at member
  generalize character.val.toNat = value at wide member
  dsimp only at member
  rw [if_neg (by omega)] at member
  split at member
  · simp only [List.mem_cons, List.not_mem_nil, or_false] at member
    rcases member with rfl | rfl <;> exact le_toNat_ofNat (by omega) (by omega)
  · split at member
    · simp only [List.mem_cons, List.not_mem_nil, or_false] at member
      rcases member with rfl | rfl | rfl <;> exact le_toNat_ofNat (by omega) (by omega)
    · simp only [List.mem_cons, List.not_mem_nil, or_false] at member
      rcases member with rfl | rfl | rfl | rfl <;> exact le_toNat_ofNat (by omega) (by omega)

theorem length_encode (characters : List Char) :
    (characters.flatMap String.utf8EncodeChar).length = String.utf8Len characters := by
  induction characters with
  | nil => rfl
  | cons first characters ih =>
      rw [List.flatMap_cons, List.length_append, String.length_utf8EncodeChar, ih,
        String.utf8Len_cons, Nat.add_comm]

theorem peek?_eq (source : String) (position : Nat) :
    peek? source position =
      ((source.toList.flatMap String.utf8EncodeChar)[position]?).map Char.ofUInt8 := by
  have size : (Text.bytes source).length = source.utf8ByteSize := rfl
  rw [← Text.bytes_eq_flatMap]
  unfold peek?
  split
  · next inside =>
      rw [← size] at inside
      rw [List.getElem?_eq_getElem inside]
      rfl
  · next outside =>
      rw [List.getElem?_eq_none (by omega)]
      rfl

theorem At.peek? (stands : At source position rest) (offset : Nat) :
    peek? source (position + offset) =
      ((rest.flatMap String.utf8EncodeChar).map Char.ofUInt8)[offset]? := by
  obtain ⟨front, whole, rfl⟩ := stands
  rw [peek?_eq, whole, List.flatMap_append, ← length_encode,
    List.getElem?_append_right (Nat.le_add_right _ _), Nat.add_sub_cancel_left, List.getElem?_map]

theorem At.peek?_nil (stands : At source position []) : Cursor.peek? source position = none :=
  stands.peek? 0

theorem At.peek?_ascii {first : Char} (stands : At source position (first :: rest))
    (ascii : first.toNat < 128) : Cursor.peek? source position = some first := by
  have isByte := stands.peek? 0
  rwa [List.flatMap_cons, List.map_append, ofUInt8_of_ascii ascii] at isByte

theorem At.peek?_wide {first : Char} (stands : At source position (first :: rest))
    (wide : 128 ≤ first.toNat) {offset : Nat} (inside : offset < first.utf8Size) :
    ∃ byte, Cursor.peek? source (position + offset) = some byte ∧ 128 ≤ byte.toNat := by
  rw [← String.length_utf8EncodeChar] at inside
  refine ⟨Char.ofUInt8 ((String.utf8EncodeChar first).get ⟨offset, inside⟩), ?_, ?_⟩
  · rw [stands.peek? offset, List.flatMap_cons, List.map_append,
      List.getElem?_append_left (by rwa [List.length_map]), List.getElem?_map,
      List.getElem?_eq_getElem inside]
    rfl
  · rw [toNat_ofUInt8]
    exact toNat_of_mem_encodeChar wide (List.get_mem _ _)

/-- A scan finds an ASCII character where one stands, and a byte beyond ASCII at any other
character. -/
theorem At.peek?_cons {first : Char} (stands : At source position (first :: rest)) :
    (first.toNat < 128 ∧ Cursor.peek? source position = some first ∧
        first.utf8Size = 1 ∧ At source (position + 1) rest) ∨
      128 ≤ first.toNat ∧
        ∃ byte, Cursor.peek? source position = some byte ∧ 128 ≤ byte.toNat := by
  rcases Nat.lt_or_ge first.toNat 128 with ascii | wide
  · have behind := stands.move_cons
    rw [utf8Size_of_ascii ascii] at behind
    exact Or.inl ⟨ascii, stands.peek?_ascii ascii, utf8Size_of_ascii ascii, behind⟩
  · exact Or.inr ⟨wide, stands.peek?_wide wide first.utf8Size_pos⟩

/-- Looking for an ASCII character finds it where it stands. -/
theorem At.peek?_eq_some_iff {sought : Char} (stands : At source position rest)
    (ascii : sought.toNat < 128) :
    Cursor.peek? source position = some sought ↔ rest.head? = some sought := by
  cases rest with
  | nil => rw [stands.peek?_nil, List.head?_nil]
  | cons first rest =>
      rcases stands.peek?_cons with ⟨-, isByte, -⟩ | ⟨wide, byte, isByte, wide'⟩
      · rw [isByte, List.head?_cons]
      · rw [isByte, List.head?_cons, Option.some_inj, Option.some_inj]
        constructor
        · rintro rfl
          omega
        · rintro rfl
          omega

theorem At.cons_of_peek? {found : Char} (stands : At source position rest)
    (ascii : found.toNat < 128) (isByte : Cursor.peek? source position = some found) :
    ∃ tail, rest = found :: tail ∧ At source (position + 1) tail := by
  rw [stands.peek?_eq_some_iff ascii] at isByte
  obtain ⟨tail, rfl⟩ := List.head?_eq_some_iff.mp isByte
  have behind := stands.move_cons
  rw [utf8Size_of_ascii ascii] at behind
  exact ⟨tail, rfl, behind⟩

/-- What goes on at each byte beyond ASCII goes on behind the character. -/
theorem At.pass {result : Type} {first : Char} (stands : At source position (first :: rest))
    (scan : Nat → result) (wide : 128 ≤ first.toNat)
    (step : ∀ place byte, Cursor.peek? source place = some byte → 128 ≤ byte.toNat →
      scan place = scan (place + 1)) :
    scan position = scan (position + first.utf8Size) := by
  have reaches : ∀ count, count ≤ first.utf8Size → scan position = scan (position + count) := by
    intro count
    induction count with
    | zero => exact fun _ => rfl
    | succ count ih =>
        intro inside
        obtain ⟨byte, isByte, wide'⟩ := stands.peek?_wide wide inside
        rw [ih (Nat.le_of_succ_le inside), step _ byte isByte wide', Nat.add_assoc]
  exact reaches _ (Nat.le_refl _)

end ShaderPipeline.Cursor
