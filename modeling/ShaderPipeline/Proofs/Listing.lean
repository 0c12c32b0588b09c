import ShaderPipeline.Listing
import ShaderPipeline.Proofs.Text.Words

/-!
# Reading a listing

A row of a listing has its number, a colon and a blank in front of the line that it
shows.  The rows are cut at the same line feeds as the text was, so that each of them
shows the line that its number says, and the text can be read back.
-/

namespace ShaderPipeline.Listing

open Text

/-- The rows of a listing, each of which ends with a line feed. -/
def rows (listing : String) : List (List Char) :=
  (splitAt (· == '\n') listing.toList).dropLast

/-- What a row shows behind its first colon and blank. -/
def content : List Char → List Char
  | [] => []
  | ':' :: ' ' :: line => line
  | _ :: rest => content rest

/-- The row of a line: its number, which is three characters wide or more, and the line. -/
def rowText (number : Nat) (line : List Char) : List Char :=
  List.leftpad 3 ' ' (Nat.repr number).toList ++ ": ".toList ++ line

section Rows

variable {number : Nat} {line : List Char}

theorem toList_row (number : Nat) (line : List Char) :
    (row number line).toList = rowText number line ++ ['\n'] := by
  simp only [row, lineNumber, rowText, List.leftpad, String.toList_append, String.toList_ofList,
    String.length_toList]
  rfl

theorem notMem_leftpad {character : Char} (notBlank : character ≠ ' ')
    (notDigit : character.isDigit = false) (number : Nat) :
    character ∉ List.leftpad 3 ' ' (Nat.repr number).toList := by
  intro member
  rcases List.mem_append.mp member with isFill | inNumber
  · exact notBlank (List.eq_of_mem_replicate isFill)
  · have isDigit := isDigit_of_mem_repr inNumber
    rw [notDigit] at isDigit
    cases isDigit

theorem feed_notMem_rowText (onLine : '\n' ∉ line) : '\n' ∉ rowText number line := by
  simp only [rowText, List.mem_append, not_or]
  exact ⟨⟨notMem_leftpad (by decide) rfl number, by simp⟩, onLine⟩

theorem content_append {front : List Char} (noColon : ':' ∉ front) (line : List Char) :
    content (front ++ ':' :: ' ' :: line) = line := by
  induction front with
  | nil => rfl
  | cons character front ih =>
      rw [List.mem_cons, not_or] at noColon
      rw [List.cons_append, content, ih noColon.2]
      rintro rest rfl
      exact absurd rfl noColon.1

theorem content_rowText (number : Nat) (line : List Char) :
    content (rowText number line) = line := by
  rw [rowText, List.append_assoc]
  exact content_append (notMem_leftpad (by decide) rfl number) line

end Rows

theorem toList_rowsFrom (number : Nat) (lines : List (List Char)) :
    (rowsFrom number lines).flatMap String.toList =
      (lines.mapIdx fun index line => rowText (number + index) line).flatMap (· ++ ['\n']) := by
  induction lines generalizing number with
  | nil => rfl
  | cons line lines ih =>
      rw [rowsFrom, List.flatMap_cons, ih, toList_row, List.mapIdx_cons, List.flatMap_cons]
      simp only [Nat.add_zero, Nat.add_assoc, Nat.add_comm 1]

/-- The rows of a listing show the lines of the text in order. -/
theorem rows_numbered (text : String) :
    rows (numbered text) =
      (splitAt (· == '\n') text.toList).mapIdx fun index line => rowText (index + 1) line := by
  have onLine : ∀ row ∈ (splitAt (· == '\n') text.toList).mapIdx fun index line =>
      rowText (1 + index) line, '\n' ∉ row := by
    intro row member
    obtain ⟨index, bound, rfl⟩ := List.mem_mapIdx.mp member
    apply feed_notMem_rowText
    intro inLine
    have uncut := cut_notMem_splitAt (List.getElem_mem bound) '\n' inLine
    cases uncut
  rw [rows, numbered, String.toList_join, toList_rowsFrom, splitAt_flatMap_feed onLine,
    List.dropLast_concat]
  simp only [Nat.add_comm 1]

theorem getElem?_rows (text : String) (index : Nat) :
    (rows (numbered text))[index]? =
      ((splitAt (· == '\n') text.toList)[index]?).map (rowText (index + 1)) := by
  rw [rows_numbered, List.getElem?_mapIdx]

/-- The rows without their numbers make up the text. -/
theorem intercalate_content_rows (text : String) :
    ['\n'].intercalate ((rows (numbered text)).map content) = text.toList := by
  have isLines : (rows (numbered text)).map content = splitAt (· == '\n') text.toList := by
    apply List.ext_getElem?
    intro index
    rw [List.getElem?_map, getElem?_rows]
    cases (splitAt (· == '\n') text.toList)[index]? with
    | none => rfl
    | some line => rw [Option.map_some, Option.map_some, content_rowText]
  rw [isLines, intercalate_splitAt fun character isCut => beq_iff_eq.mp isCut]

end ShaderPipeline.Listing
