import ShaderPipeline.Proofs.Listing
import ShaderPipeline.Proofs.Software.Residues

/-!
# The rows that errors point at

An `#error` directive is found in the text without its comments and is reported by the
number of its line.  The listing of the text shows all of its lines, with comments.
Both count the same line feeds, so that the row of that number shows the directive.
-/

namespace ShaderPipeline.Software

open Text Listing

/-- The line is an `#error` directive with the message.  Blanks may stand around the
number sign. -/
def Directs (line message : List Char) : Prop :=
  ∃ front gap tail, (∀ character ∈ front, isBlank character) ∧
    (∀ character ∈ gap, isBlank character) ∧
    line = front ++ '#' :: (gap ++ ("error".toList ++ tail)) ∧ message = trim tail

section Directives

theorem afterWord?_eq_some_iff {word text rest : List Char} :
    afterWord? word text = some rest ↔ text = word ++ rest := by
  unfold afterWord?
  split
  · next starts =>
      obtain ⟨tail, rfl⟩ := List.isPrefixOf_iff_prefix.mp starts
      rw [List.drop_left, Option.some.injEq, List.append_cancel_left_eq]
  · next starts =>
      refine iff_of_false (by simp) ?_
      rintro rfl
      exact starts (List.isPrefixOf_iff_prefix.mpr (List.prefix_append _ _))

theorem exists_blanks_append (text : List Char) :
    ∃ blanks, (∀ character ∈ blanks, isBlank character) ∧ text = blanks ++ trimStart text :=
  ⟨text.takeWhile isBlank, fun _ member => List.mem_takeWhile_imp member,
    List.takeWhile_append_dropWhile.symm⟩

theorem trimStart_blanks_append {blanks : List Char}
    (areBlank : ∀ character ∈ blanks, isBlank character) {first : Char}
    (notBlank : isBlank first = false) (text : List Char) :
    trimStart (blanks ++ first :: text) = first :: text := by
  rw [trimStart, List.dropWhile_append_of_pos areBlank,
    List.dropWhile_cons_of_neg (by simp [notBlank])]

theorem errorMessage?_eq_some_iff {line message : List Char} :
    errorMessage? line = some message ↔ Directs line message := by
  simp only [errorMessage?, Option.bind_eq_some_iff, Option.map_eq_some_iff, afterWord?_eq_some_iff]
  constructor
  · rintro ⟨directive, isLine, tail, isDirective, rfl⟩
    obtain ⟨front, frontBlank, isFront⟩ := exists_blanks_append line
    obtain ⟨gap, gapBlank, isGap⟩ := exists_blanks_append directive
    refine ⟨front, gap, tail, frontBlank, gapBlank, ?_, rfl⟩
    rw [← isDirective, ← isGap]
    exact isFront.trans (congrArg (front ++ ·) isLine)
  · rintro ⟨front, gap, tail, frontBlank, gapBlank, rfl, rfl⟩
    exact ⟨_, trimStart_blanks_append frontBlank rfl _, tail,
      trimStart_blanks_append gapBlank rfl _, rfl⟩

theorem not_directs_of_errorMessage? {line : List Char} (noMessage : errorMessage? line = none)
    (message : List Char) : ¬ Directs line message := by
  intro directs
  rw [errorMessage?_eq_some_iff.mpr directs] at noMessage
  cases noMessage

theorem trim_concat_blank (text : List Char) {blank : Char} (isBlank' : isBlank blank) :
    trim (text ++ [blank]) = trim text := by
  have atStart : trimStart (text ++ [blank]) =
      if (trimStart text).isEmpty then [] else trimStart text ++ [blank] := by
    rw [trimStart, List.dropWhile_append, List.dropWhile_cons_of_pos isBlank']
    rfl
  rw [trim, atStart, trim]
  cases isText : trimStart text with
  | nil => rfl
  | cons first rest => simp [trimEnd, isBlank']

/-- A carriage return at the end of a line is no part of a directive. -/
theorem directs_concat_iff {line message : List Char} :
    Directs (line ++ ['\r']) message ↔ Directs line message := by
  constructor
  · rintro ⟨front, gap, tail, frontBlank, gapBlank, isLine, rfl⟩
    rcases List.eq_nil_or_concat' tail with rfl | ⟨tail, last, rfl⟩
    · -- The line would end in the last letter of the word.
      have isWhole : front ++ '#' :: (gap ++ ("error".toList ++ [])) =
          front ++ '#' :: (gap ++ "erro".toList) ++ ['r'] := by
        simp
      cases (List.append_singleton_inj.mp (isLine.trans isWhole)).2
    · have isWhole : front ++ '#' :: (gap ++ ("error".toList ++ (tail ++ [last]))) =
          front ++ '#' :: (gap ++ ("error".toList ++ tail)) ++ [last] := by
        simp only [List.append_assoc, List.cons_append]
      obtain ⟨rfl, rfl⟩ := List.append_singleton_inj.mp (isLine.trans isWhole)
      exact ⟨front, gap, tail, frontBlank, gapBlank, rfl, trim_concat_blank tail rfl⟩
  · rintro ⟨front, gap, tail, frontBlank, gapBlank, rfl, rfl⟩
    refine ⟨front, gap, tail ++ ['\r'], frontBlank, gapBlank, ?_, (trim_concat_blank tail rfl).symm⟩
    simp only [List.append_assoc, List.cons_append]

theorem errorMessage?_dropCarriageReturn (line : List Char) :
    errorMessage? (dropCarriageReturn line) = errorMessage? line := by
  unfold dropCarriageReturn
  split
  · next rest isReverse =>
      have isLine : line = rest.reverse ++ ['\r'] := by
        rw [← List.reverse_reverse line, isReverse, List.reverse_cons]
      apply Option.ext
      intro message
      rw [isLine, errorMessage?_eq_some_iff, errorMessage?_eq_some_iff, directs_concat_iff]
  · rfl

theorem errorFrom_map_dropCarriageReturn (number : Nat) (before rest : List (List Char)) :
    errorFrom number (before.map dropCarriageReturn ++ rest) =
      errorFrom number (before ++ rest) := by
  induction before generalizing number with
  | nil => rfl
  | cons line before ih =>
      rw [List.map_cons, List.cons_append, List.cons_append, errorFrom, errorFrom,
        errorMessage?_dropCarriageReturn, ih]

theorem errorFrom_concat_nil (number : Nat) (lines : List (List Char)) :
    errorFrom number (lines ++ [[]]) = errorFrom number lines := by
  induction lines generalizing number with
  | nil => rfl
  | cons line lines ih => rw [List.cons_append, errorFrom, errorFrom, ih]

/-- A search by lines is one between line feeds: what sets them apart is no directive. -/
theorem errorFrom_lines (number : Nat) (text : List Char) :
    errorFrom number (lines text) = errorFrom number (splitAt (· == '\n') text) := by
  obtain ⟨before, last, isSplit⟩ := exists_splitAt_last (· == '\n') text
  rw [lines_of_splitAt isSplit, isSplit, errorFrom_map_dropCarriageReturn]
  cases last with
  | nil => exact (List.append_nil before).symm ▸ (errorFrom_concat_nil number before).symm
  | cons character last => rfl

/-- The first directive is found, with its line. -/
theorem exists_of_errorFrom {number found : Nat} {lines : List (List Char)} {message : String}
    (isFound : errorFrom number lines = some (found, message)) :
    ∃ index line, found = number + index ∧ lines[index]? = some line ∧
      Directs line message.toList ∧
      ∀ earlier < index, ∀ line, lines[earlier]? = some line →
        ∀ message, ¬ Directs line message := by
  induction lines generalizing number with
  | nil => cases isFound
  | cons line lines ih =>
      rw [errorFrom] at isFound
      cases isMessage : errorMessage? line with
      | some text =>
          rw [isMessage] at isFound
          cases isFound
          refine ⟨0, line, rfl, rfl, ?_, by simp⟩
          rw [String.toList_ofList]
          exact errorMessage?_eq_some_iff.mp isMessage
      | none =>
          rw [isMessage] at isFound
          obtain ⟨index, last, rfl, isLast, directs, first⟩ := ih isFound
          refine ⟨index + 1, last, by omega, isLast, directs, ?_⟩
          intro earlier before other isOther
          cases earlier with
          | zero =>
              cases isOther
              exact not_directs_of_errorMessage? isMessage
          | succ earlier => exact first earlier (by omega) other isOther

/-- A search fails only where no line is a directive. -/
theorem not_directs_of_errorFrom {number : Nat} {lines : List (List Char)}
    (notFound : errorFrom number lines = none) :
    ∀ line ∈ lines, ∀ message, ¬ Directs line message := by
  induction lines generalizing number with
  | nil => simp
  | cons line lines ih =>
      rw [errorFrom] at notFound
      cases isMessage : errorMessage? line with
      | some text =>
          rw [isMessage] at notFound
          cases notFound
      | none =>
          rw [isMessage] at notFound
          exact List.forall_mem_cons.mpr
            ⟨not_directs_of_errorMessage? isMessage, ih notFound⟩

end Directives

/-- A directive of the text without its comments stands in the text, on the line of the
same number. -/
theorem exists_sign_line {text line message : List Char} {index : Nat}
    (found : (splitAt (· == '\n') (stripComments text))[index]? = some line)
    (directs : Directs line message) :
    ∃ before between behind, (splitAt (· == '\n') text)[index]? =
      some (before ++ '#' :: (between ++ ("error".toList ++ behind))) := by
  have noFeed : '\n' ∉ line := fun inLine => by
    cases cut_notMem_splitAt (List.mem_of_getElem? found) '\n' inLine
  obtain ⟨start, rest, isText, isIndex⟩ := exists_of_getElem?_splitAt found
  obtain ⟨front, gap, tail, -, -, rfl, -⟩ := directs
  simp only [List.mem_append, List.mem_cons, not_or] at noFeed
  have signLeft : stripComments text =
      (start ++ front) ++ (['#'] ++ (gap ++ ("error".toList ++ (tail ++ rest)))) := by
    simpa using isText
  -- First the sign is found in the text, and then the word in what stands behind it.
  obtain ⟨before, behind, rfl, wordLeft, beforeFeeds⟩ :=
    exists_of_word_left (by simp) (by simp [IsSolid]) signLeft
  obtain ⟨between, last, rfl, -, betweenFeeds⟩ :=
    exists_of_word_left (by simp) (by simp [IsSolid]) wordLeft
  have onLine : '\n' ∉ '#' :: (between ++ "error".toList) := by
    rw [List.count_eq_zero_of_not_mem noFeed.2.2.1, List.count_eq_zero] at betweenFeeds
    simp [betweenFeeds]
  obtain ⟨first, back, isPart⟩ := getElem?_splitAt_append (uncut_of_notMem onLine) before last
  have sameIndex : before.countP (· == '\n') = index := by
    rw [List.count_append, List.count_eq_zero_of_not_mem noFeed.1] at beforeFeeds
    exact beforeFeeds.trans isIndex
  refine ⟨first, between, back, ?_⟩
  rw [sameIndex] at isPart
  simpa using isPart

/-- An error points at the row that shows its directive. -/
structure PointsAt (source : String) (number : Nat) (message : String) : Prop where
  /-- Rows are counted from one. -/
  positive : 1 ≤ number
  listed : number ≤ (rows (numbered source)).length
  /-- The row has the number and the line of that number, which holds the directive. -/
  row : ∃ line, (splitAt (· == '\n') source.toList)[number - 1]? = some line ∧
    (rows (numbered source))[number - 1]? =
      some (List.leftpad 3 ' ' (Nat.repr number).toList ++ ": ".toList ++ line) ∧
    ∃ before between behind, line = before ++ '#' :: (between ++ ("error".toList ++ behind))
  /-- Without comments, the line is a directive with the message. -/
  directive : ∃ line, (splitAt (· == '\n') (stripComments source.toList))[number - 1]? = some line ∧
    Directs line message.toList
  /-- No line before it is a directive. -/
  first : ∀ index < number - 1, ∀ line,
    (splitAt (· == '\n') (stripComments source.toList))[index]? = some line →
      ∀ message, ¬ Directs line message

theorem pointsAt_of_errorDirective? {source : String} {number : Nat} {message : String}
    (found : errorDirective? source = some (number, message)) : PointsAt source number message := by
  rw [errorDirective?, errorFrom_lines] at found
  obtain ⟨index, line, rfl, isLine, directs, first⟩ := exists_of_errorFrom found
  obtain ⟨before, between, behind, isPart⟩ := exists_sign_line isLine directs
  have isRow := getElem?_rows source index
  rw [isPart, Option.map_some] at isRow
  have bound := (List.getElem?_eq_some_iff.mp isRow).1
  have isIndex : 1 + index - 1 = index := Nat.add_sub_cancel_left 1 index
  refine ⟨by omega, by omega, ⟨_, ?_, ?_, before, between, behind, rfl⟩, ⟨line, ?_, directs⟩, ?_⟩
  · rw [isIndex, isPart]
  · rw [isIndex, isRow, Nat.add_comm 1]
    rfl
  · rw [isIndex, isLine]
  · rw [isIndex]
    exact first

theorem not_directs_of_errorDirective? {source : String}
    (notFound : errorDirective? source = none) :
    ∀ line ∈ splitAt (· == '\n') (stripComments source.toList), ∀ message,
      ¬ Directs line message := by
  rw [errorDirective?, errorFrom_lines] at notFound
  exact not_directs_of_errorFrom notFound

/-- Dropping comments leaves every character on its line, and no line feed is lost.  So an
error points at the row of the listing that shows its directive, there is one if any line
is a directive, and the rows without their numbers are the text. -/
theorem errors_point_at_rows (source : String) :
    (∃ residues, Uncommented source.toList residues ∧
      residues.flatMap Residue.original = source.toList ∧
      residues.flatMap Residue.remaining = stripComments source.toList ∧
      ∀ before character behind, residues = before ++ .kept character :: behind →
        (before.flatMap Residue.remaining).count '\n' =
          (before.flatMap Residue.original).count '\n') ∧
    (stripComments source.toList).count '\n' = source.toList.count '\n' ∧
    (∀ number message, errorDirective? source = some (number, message) →
      PointsAt source number message) ∧
    (errorDirective? source = none →
      ∀ line ∈ splitAt (· == '\n') (stripComments source.toList), ∀ message,
        ¬ Directs line message) ∧
    ['\n'].intercalate ((rows (numbered source)).map content) = source.toList := by
  obtain ⟨residues, uncommented⟩ := exists_uncommented source.toList
  refine ⟨⟨residues, uncommented, uncommented.flatMap_original, uncommented.flatMap_remaining, ?_⟩,
    count_stripComments _, fun _ _ found => pointsAt_of_errorDirective? found,
    not_directs_of_errorDirective?, intercalate_content_rows source⟩
  rintro before character behind rfl
  exact count_remaining fun lost => uncommented.feed_stays (List.mem_append_left _ lost)

end ShaderPipeline.Software
