import ShaderPipeline.Proofs.Text.Words
import ShaderPipeline.Proofs.Token.Spelling
import ShaderPipeline.Software.Source

/-!
# What a scan of stage text depends on

The software device finds directives and uniforms by the words of a text, so that
the blanks between them do not matter.  It drops the comments that separate the
tokens of the text, and it finds the same comments as the tokens' own scan does.
-/

namespace ShaderPipeline.Software

open Text

section Directives

theorem prefix_takeWhile_iff {holds : Char → Bool} {start : List Char}
    (allHold : ∀ character ∈ start, holds character) (text : List Char) :
    start <+: text.takeWhile holds ↔ start <+: text := by
  induction start generalizing text with
  | nil => simp
  | cons first start ih =>
      cases text with
      | nil => simp
      | cons character text =>
          have rest := ih (fun character member => allHold character (.tail _ member)) text
          by_cases stays : holds character
          · rw [List.takeWhile_cons_of_pos stays, List.cons_prefix_cons, List.cons_prefix_cons,
              rest]
          · rw [List.takeWhile_cons_of_neg stays, List.cons_prefix_cons, List.prefix_nil]
            apply iff_of_false (List.cons_ne_nil _ _)
            rintro ⟨rfl, -⟩
            exact stays (allHold first List.mem_cons_self)

/-- The keyword of a directive stands first. -/
def startsError (text : List Char) : Bool :=
  "error".toList.isPrefixOf text

/-- The words of a line that is a directive. -/
def isErrorLine : List (List Char) → Bool
  | ['#'] :: rest => startsError (rest.headD [])
  | ('#' :: word) :: _ => startsError word
  | _ => false

theorem startsError_takeWhile (text : List Char) :
    startsError (text.takeWhile (!isBlank ·)) = startsError text := by
  have solid : ∀ character ∈ "error".toList, (!isBlank character) = true :=
    List.all_eq_true.mp rfl
  rw [Bool.eq_iff_iff, startsError, startsError, List.isPrefixOf_iff_prefix,
    List.isPrefixOf_iff_prefix]
  exact prefix_takeWhile_iff solid text

theorem isSome_afterWord? (word text : List Char) :
    (afterWord? word text).isSome = word.isPrefixOf text := by
  unfold afterWord?
  split
  · next starts => rw [starts]; rfl
  · next starts => rw [Bool.not_eq_true] at starts; rw [starts]; rfl

theorem words_trimStart (text : List Char) : words (trimStart text) = words text := by
  have blanks : ∀ character ∈ text.takeWhile isBlank, isBlank character :=
    fun character member => List.mem_takeWhile_imp member
  rw [← words_blanks_append blanks, trimStart, List.takeWhile_append_dropWhile]

theorem trimStart_cases (text : List Char) :
    trimStart text = [] ∨
      ∃ first rest, trimStart text = first :: rest ∧ isBlank first = false := by
  have stops := List.head?_dropWhile_not isBlank text
  unfold trimStart
  cases isRest : text.dropWhile isBlank with
  | nil => exact Or.inl rfl
  | cons first rest =>
      rw [isRest] at stops
      exact Or.inr ⟨first, rest, rfl, stops⟩

theorem startsError_headD_words (text : List Char) :
    startsError ((words text).headD []) = startsError (trimStart text) := by
  rw [← words_trimStart]
  rcases trimStart_cases text with isNil | ⟨first, rest, isCons, notBlank⟩
  · rw [isNil]
    rfl
  · have isWord : first :: rest.takeWhile (!isBlank ·) =
        (first :: rest).takeWhile (!isBlank ·) := by
      simp [notBlank]
    rw [isCons, words_cons notBlank, List.headD_cons, isWord, startsError_takeWhile]

theorem isErrorLine_sign (text : List Char) :
    isErrorLine (words ('#' :: text)) = startsError (trimStart text) := by
  rw [words_cons rfl, ← startsError_headD_words]
  cases text with
  | nil => rfl
  | cons character text =>
      cases isBlank' : isBlank character with
      | true => simp [isBlank', isErrorLine]
      | false => simp [isBlank', isErrorLine, words_cons isBlank']

theorem isErrorLine_of_ne {first : Char} (notSign : first ≠ '#') (word : List Char)
    (words : List (List Char)) : isErrorLine ((first :: word) :: words) = false := by
  unfold isErrorLine
  split
  · next isWords =>
      cases isWords
      exact absurd rfl notSign
  · next isWords =>
      cases isWords
      exact absurd rfl notSign
  · rfl

theorem isSome_errorMessage? (line : List Char) :
    (errorMessage? line).isSome = isErrorLine (words line) := by
  rw [← words_trimStart]
  unfold errorMessage?
  rcases trimStart_cases line with isNil | ⟨first, rest, isCons, notBlank⟩
  · rw [isNil]
    rfl
  · rw [isCons]
    by_cases isSign : first = '#'
    · subst isSign
      have isRest : afterWord? ['#'] ('#' :: rest) = some rest := by simp [afterWord?]
      rw [isErrorLine_sign, startsError, ← isSome_afterWord?, isRest, Option.bind_some,
        Option.isSome_map]
    · have noRest : afterWord? ['#'] (first :: rest) = none := by
        simp [afterWord?, Ne.symm isSign]
      rw [noRest, words_cons notBlank, isErrorLine_of_ne isSign]
      rfl

theorem isSome_errorFrom (number : Nat) (lines : List (List Char)) :
    (errorFrom number lines).isSome = lines.any fun line => isErrorLine (words line) := by
  induction lines generalizing number with
  | nil => rfl
  | cons line lines ih =>
      rw [errorFrom, List.any_cons, ← isSome_errorMessage?, ← ih (number + 1)]
      cases errorMessage? line <;> simp

theorem words_dropCarriageReturn (line : List Char) :
    words (dropCarriageReturn line) = words line := by
  unfold dropCarriageReturn
  split
  · next rest isReverse =>
      have isLine : line = rest.reverse ++ ['\r'] := by
        rw [← List.reverse_reverse line, isReverse, List.reverse_cons]
      rw [isLine, words_append_blanks (List.forall_mem_singleton.mpr rfl)]
  · rfl

/-- Empty lines and the ends of lines are no part of a directive. -/
theorem any_lines (text : List Char) :
    ((lines text).any fun line => isErrorLine (words line)) =
      (wordLines text).any isErrorLine := by
  have inParts : (wordLines text).any isErrorLine =
      (splitAt (· == '\n') text).any fun line => isErrorLine (words line) := by
    rw [wordLines]
    induction splitAt (· == '\n') text with
    | nil => rfl
    | cons part parts ih =>
        rw [List.map_cons, List.filter_cons, List.any_cons, ← ih]
        cases isWords : words part <;> simp [isErrorLine]
  obtain ⟨before, last, isParts⟩ := exists_splitAt_last (· == '\n') text
  rw [inParts, lines_of_splitAt isParts, isParts]
  cases last <;> simp [words_dropCarriageReturn, Function.comp_def, words_nil, isErrorLine]

theorem isSome_errorDirective? (source : String) :
    (errorDirective? source).isSome =
      (wordLines (stripComments source.toList)).any isErrorLine := by
  rw [errorDirective?, isSome_errorFrom, any_lines]

end Directives

section Uniforms

theorem spaceOut_of_blank {blanks : List Char}
    (areBlank : ∀ character ∈ blanks, isBlank character) : spaceOut blanks = blanks := by
  induction blanks with
  | nil => rfl
  | cons character blanks ih =>
      have blank := areBlank character List.mem_cons_self
      have noMark : ¬ (character = '[' ∨ character = ']' ∨ character = ',') := by
        rintro (rfl | rfl | rfl) <;> cases blank
      have rest := ih fun character member => areBlank character (List.mem_cons_of_mem _ member)
      rw [spaceOut, List.flatMap_cons, if_neg noMark]
      exact congrArg (character :: ·) rest

theorem spaceOut_append (before behind : List Char) :
    spaceOut (before ++ behind) = spaceOut before ++ spaceOut behind :=
  List.flatMap_append

theorem respaced_spaceOut {text text' : List Char} (respaced : Respaced text text') :
    Respaced (spaceOut text) (spaceOut text') := by
  induction respaced with
  | ended areBlank =>
      rw [spaceOut_of_blank areBlank]
      exact .ended areBlank
  | same character respaced ih => exact ih.append _
  | gap isGap isGap' crosses respaced ih =>
      rw [spaceOut_append, spaceOut_append, spaceOut_of_blank isGap.blank,
        spaceOut_of_blank isGap'.blank]
      exact .gap isGap isGap' crosses ih

theorem statementUniforms_of_respaced {text text' : List Char} (respaced : Respaced text text') :
    statementUniforms text = statementUniforms text' := by
  rw [statementUniforms, statementUniforms, (respaced_spaceOut respaced).words_eq]

theorem flatMap_statementUniforms {parts parts' : List (List Char)}
    (respaced : List.Forall₂ Respaced parts parts') :
    parts.flatMap statementUniforms = parts'.flatMap statementUniforms := by
  induction respaced with
  | nil => rfl
  | cons first rest ih =>
      rw [List.flatMap_cons, List.flatMap_cons, ih, statementUniforms_of_respaced first]

end Uniforms

/-- A scan does not see how the words of a text are set apart. -/
theorem scans_of_respaced {source source' : String}
    (respaced : Respaced (stripComments source.toList) (stripComments source'.toList)) :
    declaredUniforms source = declaredUniforms source' ∧
      (errorDirective? source).isSome = (errorDirective? source').isSome := by
  constructor
  · have uncut : ∀ character, isBlank character → (character == ';') = false := by
      intro character blank
      rw [beq_eq_false_iff_ne]
      rintro rfl
      cases blank
    exact flatMap_statementUniforms (respaced.splitAt uncut)
  · rw [isSome_errorDirective?, isSome_errorDirective?, respaced.wordLines_eq]

section Comments

/-- What is left of a piece of filler without its comments. -/
def stripped : Filler → List Char
  | .lineComment _ => []
  | .blockComment body _ => body.filter (· == '\n') ++ [' ']
  | piece => piece.text

theorem stripFrom_code_cons {character : Char} {rest : List Char}
    (noComment : character = '/' → rest.head? ≠ some '/' ∧ rest.head? ≠ some '*') :
    stripFrom .code (character :: rest) = character :: stripFrom .code rest := by
  rw [stripFrom]
  · rintro tail rfl rfl
    exact (noComment rfl).1 rfl
  · rintro tail rfl rfl
    exact (noComment rfl).2 rfl

theorem stripFrom_lineComment (text : List Char) :
    stripFrom .lineComment text = stripFrom .code (text.dropWhile (· != '\n')) := by
  induction text with
  | nil => rfl
  | cons character text ih =>
      by_cases isFeed : character = '\n'
      · subst isFeed
        rfl
      · rw [List.dropWhile_cons_of_pos (by simpa using isFeed), ← ih, stripFrom]
        exact isFeed

theorem stripFrom_blockComment_cons {star : Bool} {character : Char}
    (notFeed : character ≠ '\n') (notClosed : star → character ≠ '/') (rest : List Char) :
    stripFrom (.blockComment star) (character :: rest) =
      stripFrom (.blockComment (character == '*')) rest := by
  rw [stripFrom]
  · exact notClosed
  · exact notFeed

/-- A star closes the comment only before a slash. -/
theorem stripFrom_star {text : List Char} (notSlash : text.head? ≠ some '/') :
    stripFrom (.blockComment true) text = stripFrom (.blockComment false) text := by
  cases text with
  | nil => rfl
  | cons character text =>
      have isOther : character ≠ '/' := fun isSlash => notSlash (by rw [isSlash]; rfl)
      by_cases isFeed : character = '\n'
      · subst isFeed
        rfl
      · rw [stripFrom_blockComment_cons isFeed fun _ => isOther,
          stripFrom_blockComment_cons isFeed fun _ => isOther]

theorem stripFrom_blockComment (text : List Char) :
    stripFrom (.blockComment false) text =
      (Filler.splitBlockComment text).1.filter (· == '\n') ++
        ' ' :: stripFrom .code (Filler.splitBlockComment text).2.2 := by
  fun_induction Filler.splitBlockComment text with
  | case1 => rfl
  | case2 rest => rfl
  | case3 character rest notClosed body closed after split ih =>
      rw [split] at ih
      by_cases isFeed : character = '\n'
      · subst isFeed
        simp only [stripFrom, ih, List.filter_cons, beq_self_eq_true, if_true, List.cons_append]
      · have notSlash : (character == '*') = true → rest.head? ≠ some '/' := by
          intro isStar isSlash
          obtain ⟨tail, rfl⟩ := List.head?_eq_some_iff.mp isSlash
          exact notClosed tail (by simpa using isStar) rfl
        have goesOn : stripFrom (.blockComment (character == '*')) rest =
            stripFrom (.blockComment false) rest := by
          cases isStar : character == '*' with
          | false => rfl
          | true => exact stripFrom_star (notSlash isStar)
        rw [stripFrom_blockComment_cons isFeed (by simp), goesOn, ih]
        simp [isFeed]

/-- A comment that separates tokens is a comment to the device. -/
theorem stripComments_of_filler {text rest : List Char} {piece : Filler}
    (found : Filler.next? text = some (piece, rest)) :
    stripComments text = stripped piece ++ stripComments rest := by
  unfold Filler.next? at found
  split at found
  · cases found
    rfl
  · cases found
    rfl
  · cases found
    rfl
  · cases found
    exact stripFrom_lineComment _
  · cases found
    simp [stripComments, stripFrom, stripFrom_blockComment, stripped]
  · next character rest' _ _ _ _ _ =>
      split at found
      · next blank =>
          cases found
          apply stripFrom_code_cons
          rintro rfl
          cases blank
      · cases found
  · cases found

theorem notMem_splitNumber (previous : Char) (text : List Char) :
    '/' ∉ (Lexeme.splitNumber previous text).1 := by
  induction text generalizing previous with
  | nil => exact List.not_mem_nil
  | cons character text ih =>
      rw [Lexeme.splitNumber]
      split
      · next goesOn =>
          rw [List.mem_cons, not_or]
          refine ⟨?_, ih character⟩
          rintro rfl
          cases goesOn
      · exact List.not_mem_nil

theorem notMem_tail_splitPunctuation (first : Char) (text : List Char) :
    '/' ∉ (Lexeme.splitPunctuation first text).1.tail := by
  have checked : Lexeme.operators.all fun operator => !operator.tail.contains '/' := rfl
  unfold Lexeme.splitPunctuation
  split
  · next operator found =>
      have passes := List.all_eq_true.mp checked operator (List.mem_of_find?_eq_some found)
      simpa using passes
  · exact List.not_mem_nil

/-- No lexeme but a string has a slash behind its first character. -/
theorem notMem_tail_next {first : Char} (notQuote : first ≠ '"') (rest : List Char) :
    '/' ∉ (Lexeme.next first rest).1.text.tail := by
  unfold Lexeme.next
  split
  · intro inside
    have isName := List.mem_takeWhile_imp inside
    cases isName
  · split
    · exact notMem_splitNumber first rest
    · rw [if_neg (by simpa using notQuote)]
      split
      · split <;> simp
      · exact notMem_tail_splitPunctuation first rest

theorem stripComments_of_cuts {lexeme : Lexeme} {rest : List Char} (cuts : lexeme.Cuts rest)
    (noQuote : '"' ∉ lexeme.text) :
    stripComments (lexeme.text ++ rest) = lexeme.text ++ stripComments rest := by
  have inTail : ∀ tail, '/' ∉ tail → stripComments (tail ++ rest) = tail ++ stripComments rest := by
    intro tail noSlash
    induction tail with
    | nil => rfl
    | cons character tail ih =>
        rw [List.mem_cons, not_or] at noSlash
        rw [List.cons_append, stripComments,
          stripFrom_code_cons fun isSlash => absurd isSlash.symm noSlash.1]
        exact congrArg (character :: ·) (ih noSlash.2)
  obtain ⟨noFiller, first, tail, isText, cut⟩ := cuts
  have notQuote : first ≠ '"' := by
    rintro rfl
    exact noQuote (isText ▸ List.mem_cons_self)
  have noSlash := notMem_tail_next notQuote (tail ++ rest)
  rw [cut, isText] at noSlash
  rw [isText] at noFiller ⊢
  have noComment : first = '/' →
      (tail ++ rest).head? ≠ some '/' ∧ (tail ++ rest).head? ≠ some '*' := by
    rintro rfl
    exact ((Lexeme.next?_eq_none_iff (by decide) _).mp noFiller).2.2 rfl
  rw [List.cons_append, stripComments, stripFrom_code_cons noComment]
  exact congrArg (first :: ·) (inTail tail noSlash)

theorem stripComments_scan (text : List Char) :
    stripComments text =
      (Filler.scan text).1.flatMap stripped ++ stripComments (Filler.scan text).2 := by
  fun_induction Filler.scan text with
  | case1 text noFiller => rfl
  | case2 text piece rest found pieces after skipped ih =>
      rw [skipped] at ih
      rw [stripComments_of_filler found, ih, List.flatMap_cons, List.append_assoc]

def strippedText (lexed : LexedText) : List Char :=
  lexed.items.flatMap (fun item => item.1.flatMap stripped ++ item.2.text) ++
    lexed.trailing.flatMap stripped

theorem strippedText_cons (filler : List Filler) (lexeme : Lexeme)
    (items : List (List Filler × Lexeme)) (trailing : List Filler) :
    strippedText ⟨(filler, lexeme) :: items, trailing⟩ =
      filler.flatMap stripped ++ (lexeme.text ++ strippedText ⟨items, trailing⟩) := by
  simp [strippedText]

/-- Outside strings, the comments of a text are those between its tokens. -/
theorem stripComments_eq_strippedText (text : List Char) (noQuote : '"' ∉ text) :
    stripComments text = strippedText (LexedText.ofChars text) := by
  induction text using LexedText.ofChars.induct with
  | case1 text ended =>
      rw [stripComments_scan, ended, LexedText.ofChars_of_nil ended]
      exact List.append_nil _
  | case2 text first rest goesOn cut ih =>
      obtain ⟨whole, noFiller⟩ := Filler.scan_append text
      have isRest := Lexeme.next_append first rest
      rw [← whole, goesOn, ← isRest, List.mem_append, List.mem_append, not_or, not_or] at noQuote
      have cuts := Lexeme.cuts_next (goesOn ▸ noFiller)
      rw [stripComments_scan, goesOn, ← isRest, stripComments_of_cuts cuts noQuote.2.1,
        ih noQuote.2.2, LexedText.ofChars_of_cons goesOn, strippedText_cons]

end Comments

end ShaderPipeline.Software
