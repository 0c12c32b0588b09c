import ShaderPipeline.Proofs.Token.Bytes
import ShaderPipeline.Proofs.Token.Cutting

/-!
# Agreement of the scans

The scan by bytes cuts a text where the scan by characters does.  Each of its loops goes
behind the characters that the other one takes: at an ASCII character both do the same step,
and a character beyond ASCII is either passed byte by byte or stops them both.
-/

namespace ShaderPipeline.Cursor

variable {source : String} {position : Nat} {rest : List Char}

section Classes

variable {character : Char}

theorem isAlphanum_wide (wide : 128 ≤ character.toNat) : character.isAlphanum = false := by
  have isValue : character.toNat = character.val.toNat := rfl
  rw [isValue] at wide
  rw [Bool.eq_false_iff]
  intro isAlphanum
  have isAlphanum : (character.isUpper || character.isLower || character.isDigit) = true :=
    isAlphanum
  rw [Bool.or_eq_true, Bool.or_eq_true] at isAlphanum
  rcases isAlphanum with (isUpper | isLower) | isDigit
  · have most : character.val ≥ 'A'.val ∧ character.val ≤ 'Z'.val := of_decide_eq_true isUpper
    exact absurd (Nat.le_trans wide (UInt32.le_iff_toNat_le.mp most.2)) (by decide)
  · have most : (decide (97 ≤ character.val.toNat) && decide (character.val.toNat ≤ 122)) :=
      isLower
    simp only [Bool.and_eq_true, decide_eq_true_eq] at most
    omega
  · have most : (decide (48 ≤ character.val.toNat) && decide (character.val.toNat ≤ 57)) :=
      isDigit
    simp only [Bool.and_eq_true, decide_eq_true_eq] at most
    omega

theorem ne_of_wide {sought : Char} (wide : 128 ≤ character.toNat) (ascii : sought.toNat < 128) :
    character ≠ sought := by
  rintro rfl
  omega

theorem beq_wide (wide : 128 ≤ character.toNat) (sought : Char) (ascii : sought.toNat < 128) :
    (character == sought) = false :=
  beq_false_of_ne (ne_of_wide wide ascii)

theorem isNameChar_wide (wide : 128 ≤ character.toNat) : Lexeme.isNameChar character = false := by
  rw [Lexeme.isNameChar, isAlphanum_wide wide, beq_wide wide _ (by decide)]
  rfl

theorem isDigit_wide (wide : 128 ≤ character.toNat) : character.isDigit = false := by
  have notAlphanum := isAlphanum_wide wide
  rw [Char.isAlphanum, Bool.or_eq_false_iff] at notAlphanum
  exact notAlphanum.2

theorem isNameStart_wide (wide : 128 ≤ character.toNat) :
    Lexeme.isNameStart character = false := by
  rw [Bool.eq_false_iff]
  intro starts
  have isChar := Lexeme.isNameChar_of_isNameStart starts
  rw [isNameChar_wide wide] at isChar
  cases isChar

theorem isNumberChar_wide (wide : 128 ≤ character.toNat) (previous : Char) :
    Lexeme.isNumberChar previous character = false := by
  simp only [Lexeme.isNumberChar, isNameChar_wide wide, beq_wide wide '.' (by decide),
    beq_wide wide '+' (by decide), beq_wide wide '-' (by decide), Bool.or_self, Bool.false_and]

theorem isBlank_wide (wide : 128 ≤ character.toNat) : Filler.isBlank character = false := by
  simp only [Filler.isBlank, beq_wide wide ' ' (by decide), beq_wide wide '\t' (by decide),
    beq_wide wide '\r' (by decide), beq_wide wide '\x0b' (by decide),
    beq_wide wide '\x0c' (by decide), Bool.or_self]

end Classes

theorem skipWhile_of_passes {test : Char → Bool} {byte : Char}
    (found : peek? source position = some byte) (passes : test byte = true) :
    skipWhile source test position = skipWhile source test (position + 1) := by
  rw [skipWhile, found]
  exact if_pos passes

theorem skipWhile_of_stops {test : Char → Bool} {byte : Char}
    (found : peek? source position = some byte) (stops : test byte = false) :
    skipWhile source test position = position := by
  rw [skipWhile, found]
  exact if_neg (Bool.eq_false_iff.mp stops)

/-- A test that does not tell characters beyond ASCII apart stops behind the same characters
on bytes. -/
theorem At.skipWhile {test : Char → Bool} (stands : At source position rest)
    (wideResult : Bool)
    (uniform : ∀ character, 128 ≤ character.toNat → test character = wideResult) :
    skipWhile source test position = position + String.utf8Len (rest.takeWhile test) := by
  induction rest generalizing position with
  | nil =>
      rw [Cursor.skipWhile, stands.peek?_nil]
      rfl
  | cons first tail ih =>
      rcases stands.peek?_cons with ⟨-, isByte, size, behind⟩ | ⟨wide, byte, isByte, wide'⟩
      · cases passes : test first with
        | false =>
            rw [skipWhile_of_stops isByte passes, List.takeWhile_cons_of_neg (by simp [passes])]
            rfl
        | true =>
            rw [skipWhile_of_passes isByte passes, ih behind, List.takeWhile_cons_of_pos passes,
              String.utf8Len_cons, size]
            omega
      · -- The test stops at the first byte of the character or passes all of them.
        cases wideResult with
        | false =>
            rw [skipWhile_of_stops isByte (uniform byte wide'),
              List.takeWhile_cons_of_neg (by simp [uniform first wide])]
            rfl
        | true =>
            have passed : Cursor.skipWhile source test position =
                Cursor.skipWhile source test (position + first.utf8Size) :=
              stands.pass (Cursor.skipWhile source test) wide fun place byte isByte wide' =>
                skipWhile_of_passes isByte (uniform byte wide')
            rw [passed, ih stands.move_cons, List.takeWhile_cons_of_pos (uniform first wide),
              String.utf8Len_cons]
            omega

namespace Skipped

/-- A stretch of filler that goes on with more pieces. -/
def past (skipped : Skipped) (pieces : List Filler) : Skipped where
  stop := skipped.stop + String.utf8Len (pieces.flatMap Filler.text)
  lineBreaks := skipped.lineBreaks + Filler.lineBreaksIn pieces
  continuations := skipped.continuations + Filler.continuationsIn pieces

theorem past_singleton (skipped : Skipped) (piece : Filler) :
    skipped.past [piece] =
      ⟨skipped.stop + String.utf8Len piece.text, skipped.lineBreaks + piece.lineBreaks,
        skipped.continuations + piece.continuations⟩ := by
  rw [past, List.flatMap_cons, List.flatMap_nil, List.append_nil]
  rfl

theorem past_cons (skipped : Skipped) (piece : Filler) (pieces : List Filler) :
    skipped.past (piece :: pieces) = (skipped.past [piece]).past pieces := by
  simp only [past, List.flatMap_cons, List.flatMap_nil, List.append_nil, String.utf8Len_append,
    Filler.lineBreaksIn, Filler.continuationsIn, Nat.add_zero, Nat.add_assoc]

end Skipped

theorem skipBlockComment_of_other {skipped : Skipped} {byte : Char}
    (found : peek? source skipped.stop = some byte)
    (open_ : ¬(byte = '*' ∧ peek? source (skipped.stop + 1) = some '/')) :
    skipBlockComment source skipped =
      skipBlockComment source
        { skipped with
          stop := skipped.stop + 1
          lineBreaks := skipped.lineBreaks + [byte].count '\n' } := by
  rw [skipBlockComment, found]
  dsimp only
  rw [if_neg open_, List.count_singleton]
  split
  · next isFeed => rw [isFeed, beq_self_eq_true, if_pos rfl]
  · next notFeed =>
      rw [beq_false_of_ne notFeed]
      rfl

theorem At.skipBlockComment {skipped : Skipped} (stands : At source skipped.stop rest) :
    skipBlockComment source skipped =
      { skipped with
        stop := skipped.stop + String.utf8Len ((Filler.splitBlockComment rest).1 ++
          if (Filler.splitBlockComment rest).2.1 then ['*', '/'] else [])
        lineBreaks := skipped.lineBreaks + (Filler.splitBlockComment rest).1.count '\n' } := by
  fun_induction Filler.splitBlockComment rest generalizing skipped with
  | case1 =>
      rw [Cursor.skipBlockComment, stands.peek?_nil]
      rfl
  | case2 rest =>
      have behind : At source (skipped.stop + 1) ('/' :: rest) := stands.move_cons
      rw [Cursor.skipBlockComment, stands.peek?_ascii (by decide)]
      exact if_pos ⟨rfl, behind.peek?_ascii (by decide)⟩
  | case3 first rest notClosed body closed after split ih =>
      rcases stands.peek?_cons with ⟨-, isByte, size, behind⟩ | ⟨wide, byte, isByte, wide'⟩
      · have open_ : ¬(first = '*' ∧ Cursor.peek? source (skipped.stop + 1) = some '/') := by
          rintro ⟨isStar, isSlash⟩
          rw [behind.peek?_eq_some_iff (by decide)] at isSlash
          obtain ⟨tail, rfl⟩ := List.head?_eq_some_iff.mp isSlash
          exact notClosed tail isStar rfl
        rw [skipBlockComment_of_other isByte open_, ih behind]
        simp only [split, List.cons_append, String.utf8Len_cons, size, List.count_cons,
          List.count_nil, Nat.zero_add, Nat.add_assoc, Nat.add_comm, Nat.add_left_comm]
      · -- None of the bytes is a star or a line feed.
        have passed : Cursor.skipBlockComment source skipped =
            Cursor.skipBlockComment source
              { skipped with stop := skipped.stop + first.utf8Size } := by
          refine stands.pass (fun place =>
            Cursor.skipBlockComment source { skipped with stop := place }) wide ?_
          intro place byte isByte wide'
          rw [skipBlockComment_of_other isByte fun closes => ne_of_wide wide' (by decide) closes.1,
            List.count_singleton, beq_wide wide' _ (by decide)]
          rfl
        rw [passed, ih stands.move_cons]
        simp only [split, List.cons_append, String.utf8Len_cons, List.count_cons,
          beq_wide wide '\n' (by decide), Bool.false_eq_true, if_false, Nat.add_zero,
          Nat.add_assoc, Nat.add_comm]

/-- Bytes are skipped as a piece of filler only if characters are. -/
theorem At.skipPiece?_of_next? {skipped : Skipped} (stands : At source skipped.stop rest)
    (isOther : Filler.next? rest = none) : Cursor.skipPiece? source skipped = none := by
  cases skips : Cursor.skipPiece? source skipped with
  | none => rfl
  | some behind =>
      -- Every byte that is compared is ASCII, so that it is the character itself.
      exfalso
      unfold Cursor.skipPiece? at skips
      dsimp only at skips
      split at skips
      · next isByte =>
          obtain ⟨tail, rfl, -⟩ := stands.cons_of_peek? (by decide) isByte
          cases isOther
      · next isByte =>
          obtain ⟨tail, rfl, further⟩ := stands.cons_of_peek? (by decide) isByte
          split at skips
          · next isFeed =>
              obtain ⟨tail, rfl, -⟩ := further.cons_of_peek? (by decide) isFeed
              cases isOther
          · split at skips
            · next isReturn =>
                obtain ⟨tail, rfl, last⟩ := further.cons_of_peek? (by decide) isReturn.1
                obtain ⟨tail, rfl, -⟩ := last.cons_of_peek? (by decide) isReturn.2
                cases isOther
            · cases skips
      · next isByte =>
          obtain ⟨tail, rfl, further⟩ := stands.cons_of_peek? (by decide) isByte
          split at skips
          · next isSlash =>
              obtain ⟨tail, rfl, -⟩ := further.cons_of_peek? (by decide) isSlash
              cases isOther
          · split at skips
            · next isStar =>
                obtain ⟨tail, rfl, -⟩ := further.cons_of_peek? (by decide) isStar
                cases isOther
            · cases skips
      · next byte notFeed notBackslash notSlash isByte =>
          split at skips
          · next isBlank =>
              have ascii : byte.toNat < 128 := by
                by_contra wide
                rw [isBlank_wide (Nat.le_of_not_lt wide)] at isBlank
                cases isBlank
              obtain ⟨tail, rfl, -⟩ := stands.cons_of_peek? ascii isByte
              simp_all [Filler.next?]
          · cases skips
      · cases skips

theorem At.skipPiece? {skipped : Skipped} (stands : At source skipped.stop rest) :
    skipPiece? source skipped =
      (Filler.next? rest).map fun found => skipped.past [found.1] := by
  fun_cases Filler.next? rest with
  | case1 rest =>
      rw [Cursor.skipPiece?, stands.peek?_ascii (by decide)]
      rfl
  | case2 rest =>
      have behind : At source (skipped.stop + 1) ('\n' :: rest) := stands.move_cons
      rw [Cursor.skipPiece?, stands.peek?_ascii (by decide)]
      exact if_pos (behind.peek?_ascii (by decide))
  | case3 rest =>
      have behind : At source (skipped.stop + 1) ('\r' :: '\n' :: rest) := stands.move_cons
      have last : At source (skipped.stop + 2) ('\n' :: rest) := behind.move_cons
      have isByte := behind.peek?_ascii (by decide)
      rw [Cursor.skipPiece?, stands.peek?_ascii (by decide)]
      refine (if_neg ?_).trans (if_pos ⟨isByte, last.peek?_ascii (by decide)⟩)
      intro isFeed
      cases isByte.symm.trans isFeed
  | case4 rest =>
      have behind : At source (skipped.stop + 1) ('/' :: rest) := stands.move_cons
      rw [Cursor.skipPiece?, stands.peek?_ascii (by decide)]
      refine (if_pos (behind.peek?_ascii (by decide))).trans ?_
      rw [stands.skipWhile true fun character wide =>
        bne_iff_ne.mpr (ne_of_wide wide (by decide))]
      rw [Option.map_some, Skipped.past_singleton]
      simp [Filler.text, Filler.lineBreaks, Filler.continuations]
  | case5 rest body closed after split =>
      have behind : At source (skipped.stop + 1) ('*' :: rest) := stands.move_cons
      have inside : At source (skipped.stop + 2) rest := behind.move_cons
      have isByte := behind.peek?_ascii (by decide)
      rw [Cursor.skipPiece?, stands.peek?_ascii (by decide)]
      refine (if_neg ?_).trans ((if_pos isByte).trans ?_)
      · intro isSlash
        cases isByte.symm.trans isSlash
      · have slash : '/'.utf8Size = 1 := rfl
        have star : '*'.utf8Size = 1 := rfl
        rw [At.skipBlockComment inside, split, Option.map_some, Skipped.past_singleton]
        cases closed <;>
          simp [Filler.text, Filler.lineBreaks, Filler.continuations, slash, star] <;>
          omega
  | case6 first rest notFeed _ _ _ _ isBlank =>
      rcases stands.peek?_cons with ⟨-, isByte, size, -⟩ | ⟨wide, -⟩
      · unfold Cursor.skipPiece?
        rw [isByte]
        split
        · next isFeed => exact absurd (Option.some_inj.mp isFeed) notFeed
        · next isBackslash =>
            cases isBackslash
            cases isBlank
        · next isSlash =>
            cases isSlash
            cases isBlank
        · next byte _ _ _ isFirst =>
            cases isFirst
            rw [if_pos isBlank, Option.map_some, Skipped.past_singleton]
            simp [Filler.text, Filler.lineBreaks, Filler.continuations, size]
        · next isNone => cases isNone
      · rw [isBlank_wide wide] at isBlank
        cases isBlank
  | case7 first rest notFeed notFeed' notReturn notLine notBlock notBlank =>
      rw [stands.skipPiece?_of_next? (by simp_all [Filler.next?])]
      rfl
  | case8 =>
      rw [Cursor.skipPiece?, stands.peek?_nil]
      rfl

theorem At.past {skipped : Skipped} {pieces : List Filler}
    (stands : At source skipped.stop (pieces.flatMap Filler.text ++ rest)) :
    At source (skipped.past pieces).stop rest :=
  stands.move

theorem At.skipFiller (skipped : Skipped) (stands : At source skipped.stop rest) :
    skipFiller source skipped = skipped.past (Filler.scan rest).1 := by
  fun_induction Filler.scan rest generalizing skipped with
  | case1 rest noFiller =>
      rw [Cursor.skipFiller, stands.skipPiece?_of_next? noFiller]
      rfl
  | case2 rest piece behind found pieces after scanned ih =>
      have skips := stands.skipPiece?
      rw [found, Option.map_some] at skips
      rw [← Filler.text_append_of_next? found, ← List.append_nil piece.text] at stands
      have further : At source (skipped.past [piece]).stop behind := At.past stands
      rw [Cursor.skipFiller, skips]
      dsimp only
      rw [ih _ further, scanned]
      exact (Skipped.past_cons skipped piece pieces).symm

theorem At.skipNumber (stands : At source position rest) (previous : Char) :
    skipNumber source previous position =
      position + String.utf8Len (Lexeme.splitNumber previous rest).1 := by
  induction rest generalizing position previous with
  | nil =>
      rw [Cursor.skipNumber, stands.peek?_nil]
      rfl
  | cons first tail ih =>
      rw [Lexeme.splitNumber, Cursor.skipNumber]
      rcases stands.peek?_cons with ⟨-, isByte, size, behind⟩ | ⟨wide, byte, isByte, wide'⟩
      · rw [isByte]
        dsimp only
        split
        · rw [ih behind, String.utf8Len_cons, size]
          omega
        · rfl
      · rw [isByte]
        dsimp only
        rw [isNumberChar_wide wide, isNumberChar_wide wide']
        rfl

/-- The text behind a position can be taken out. -/
theorem At.sliceRest (stands : At source position rest) :
    ∃ part, Cursor.slice source position source.utf8ByteSize = .ok part ∧
      part.front? = rest.head? ∧
      ∀ operator : String, part.startsWith operator = operator.toList.isPrefixOf rest := by
  have size := stands.size
  rw [← List.append_nil rest] at stands
  obtain ⟨part, slices, isText⟩ := stands.slice
  rw [size] at slices
  refine ⟨part, slices, ?_, fun operator => ?_⟩
  · rw [String.Slice.front?_eq, isText, String.toList_ofList]
  · rw [Bool.eq_iff_iff, String.Slice.startsWith_string_iff, isText, String.toList_ofList,
      List.isPrefixOf_iff_prefix]

theorem skipString_of_none (ended : peek? source position = none) (feeds : Nat) :
    skipString source position feeds = .ok (position, feeds) := by
  rw [skipString, ended]

theorem At.skipString_escape (stands : At source position ('\\' :: rest)) (feeds : Nat) :
    skipString source position feeds =
      skipString source (position + 1 + rest.head?.elim 0 Char.utf8Size) feeds := by
  have behind : At source (position + 1) rest := stands.move_cons
  obtain ⟨part, slices, isFront, -⟩ := behind.sliceRest
  have inside := behind.size
  rw [Cursor.skipString, stands.peek?_ascii (by decide), ← isFront]
  split
  · next isQuote => cases isQuote
  · rw [Nat.min_eq_left (by omega), slices]
    rfl
  · next notBackslash isByte => exact absurd (Option.some_inj.mp isByte).symm notBackslash
  · next isNone => cases isNone

theorem skipString_of_other {byte : Char} (found : peek? source position = some byte)
    (notQuote : byte ≠ '"') (notBackslash : byte ≠ '\\') (feeds : Nat) :
    skipString source position feeds =
      skipString source (position + 1) (if byte = '\n' then feeds + 1 else feeds) := by
  rw [skipString, found]
  split
  · next isQuote => exact absurd (Option.some_inj.mp isQuote) notQuote
  · next isBackslash => exact absurd (Option.some_inj.mp isBackslash) notBackslash
  · next isByte =>
      cases isByte
      rfl
  · next isNone => cases isNone

theorem At.skipString (stands : At source position rest) (feeds : Nat) :
    skipString source position feeds =
      .ok (position + String.utf8Len (Lexeme.splitString rest).1,
        feeds + Lexeme.lineBreaks (Lexeme.splitString rest).1) := by
  fun_induction Lexeme.splitString rest generalizing position feeds with
  | case1 => exact skipString_of_none stands.peek?_nil feeds
  | case2 rest =>
      rw [Cursor.skipString, stands.peek?_ascii (by decide)]
      rfl
  | case3 =>
      have behind : At source (position + 1) [] := stands.move_cons
      rw [stands.skipString_escape]
      exact skipString_of_none behind.peek?_nil feeds
  | case4 escaped rest body after split ih =>
      have behind : At source (position + 1) (escaped :: rest) := stands.move_cons
      have backslash : '\\'.utf8Size = 1 := rfl
      rw [stands.skipString_escape, List.head?_cons, Option.elim_some, ih behind.move_cons, split]
      simp only [Lexeme.lineBreaks, String.utf8Len_cons, backslash]
      congr 2
      omega
  | case5 first rest notQuote notLast notEscape body after split ih =>
      have notBackslash : first ≠ '\\' := by
        rintro rfl
        cases rest with
        | nil => exact notLast rfl rfl
        | cons escaped rest => exact notEscape escaped rest rfl rfl
      rcases stands.peek?_cons with ⟨-, isByte, size, behind⟩ | ⟨wide, byte, isByte, wide'⟩
      · rw [skipString_of_other isByte notQuote notBackslash, ih behind, split]
        simp only [String.utf8Len_cons, size, Lexeme.lineBreaks_cons notBackslash]
        congr 2
        · omega
        · split <;> omega
      · have passed : Cursor.skipString source position feeds =
            Cursor.skipString source (position + first.utf8Size) feeds := by
          refine stands.pass (fun place => Cursor.skipString source place feeds) wide ?_
          intro place byte isByte wide'
          rw [skipString_of_other isByte (ne_of_wide wide' (by decide))
            (ne_of_wide wide' (by decide)), if_neg (ne_of_wide wide' (by decide))]
        have notFeed : first ≠ '\n' := ne_of_wide wide (by decide)
        rw [passed, ih stands.move_cons, split]
        simp only [String.utf8Len_cons, Lexeme.lineBreaks_cons notBackslash, if_neg notFeed]
        congr 2
        omega

theorem operators_eq : Lexeme.operators = Lexeme.punctuation.map String.toList := by
  decide

theorem At.skipPunctuation {first : Char} (stands : At source position (first :: rest)) :
    skipPunctuation source position =
      .ok (position + String.utf8Len (Lexeme.splitPunctuation first rest).1) := by
  obtain ⟨part, slices, isFront, starts⟩ := stands.sliceRest
  rw [Cursor.skipPunctuation, slices, Lexeme.splitPunctuation, operators_eq, List.find?_map]
  simp only [bind, Except.bind, pure, Except.pure, starts, isFront, Function.comp_def]
  split
  · next operator isFound =>
      rw [isFound, Option.map_some, String.utf8Len_toList]
  · next isFound =>
      rw [isFound]
      exact congrArg (fun width => Except.ok (position + width)) (Nat.zero_add _).symm

/-- What a lexeme looks like on bytes: its class, where it stops and its line feeds. -/
def lexemeAt (position : Nat) (lexeme : Lexeme) : TokenKind × Nat × Nat :=
  (lexeme.kind, position + String.utf8Len lexeme.text, Lexeme.lineBreaks lexeme.text)

theorem lexemeAt_of_notString {first : Char} (notFeed : first ≠ '\n')
    (notString : (Lexeme.next first rest).1.kind ≠ .string) :
    lexemeAt position (Lexeme.next first rest).1 =
      ((Lexeme.next first rest).1.kind,
        position + String.utf8Len (Lexeme.next first rest).1.text, 0) := by
  rw [lexemeAt, Lexeme.lineBreaks_of_notMem]
  exact Lexeme.notMem_next (fun _ => rfl) (by decide) (by decide) (Ne.symm notFeed) notString

theorem At.any_isDigit (stands : At source position rest) :
    (Cursor.peek? source position).any Char.isDigit = Lexeme.startsWithDigit rest := by
  cases rest with
  | nil =>
      rw [stands.peek?_nil]
      rfl
  | cons first rest =>
      rcases stands.peek?_cons with ⟨-, isByte, -⟩ | ⟨wide, byte, isByte, wide'⟩
      · rw [isByte]
        rfl
      · rw [isByte, Lexeme.startsWithDigit, isDigit_wide wide, Option.any_some, isDigit_wide wide']

theorem next_sign (rest : List Char) :
    (Lexeme.next '#' rest).1 =
      ⟨.preprocessor, if rest.head? = some '#' then ['#', '#'] else ['#']⟩ := by
  unfold Lexeme.next
  have notNumber : ¬('#'.isDigit || '#' == '.' && Lexeme.startsWithDigit rest) = true :=
    Bool.false_ne_true
  rw [if_neg (by decide), if_neg notNumber, if_neg (by decide), if_pos (by decide)]
  split
  · rfl
  · next notSign =>
      rw [if_neg]
      intro isSign
      obtain ⟨after, rfl⟩ := List.head?_eq_some_iff.mp isSign
      exact notSign after rfl

theorem At.skipLexeme_ascii {first : Char} (stands : At source position (first :: rest))
    (ascii : first.toNat < 128) (notFeed : first ≠ '\n') :
    skipLexeme source first position = .ok (lexemeAt position (Lexeme.next first rest).1) := by
  have isByte := stands.peek?_ascii ascii
  have behind := stands.move_cons
  rw [utf8Size_of_ascii ascii] at behind
  unfold skipLexeme
  dsimp only
  rw [behind.any_isDigit]
  split
  · next isStart =>
      have isName : Lexeme.next first rest =
          (⟨.name, first :: rest.takeWhile Lexeme.isNameChar⟩,
            rest.dropWhile Lexeme.isNameChar) := if_pos isStart
      rw [lexemeAt_of_notString notFeed (by simp [isName]), isName,
        stands.skipWhile false fun _ => isNameChar_wide,
        List.takeWhile_cons_of_pos (Lexeme.isNameChar_of_isNameStart isStart)]
      rfl
  · next notStart =>
      rw [Bool.not_eq_true] at notStart
      split
      · next isStart =>
          have isNumber := Lexeme.next_number notStart isStart
          have passes : Lexeme.isNumberChar '\x00' first = true := by
            simp only [Lexeme.isNumberChar, Lexeme.isNameChar_eq] at isStart ⊢
            grind
          rw [lexemeAt_of_notString notFeed (by simp [isNumber]), isNumber, stands.skipNumber,
            Lexeme.splitNumber, if_pos passes]
          rfl
      · next notNumber =>
          rw [Bool.not_eq_true] at notNumber
          split
          · next isQuote =>
              obtain rfl := beq_iff_eq.mp isQuote
              have inside : position + 1 + String.utf8Len (Lexeme.splitString rest).1 ≤
                  source.utf8ByteSize := by
                rw [← behind.size, ← Lexeme.splitString_append rest, String.utf8Len_append,
                  Lexeme.splitString_append]
                omega
              have quote : '"'.utf8Size = 1 := rfl
              rw [behind.skipString, Lexeme.next_string, lexemeAt, String.utf8Len_cons, quote,
                Lexeme.lineBreaks_cons (by decide), if_neg (by decide), Nat.zero_add]
              simp only [bind, Except.bind, pure, Except.pure, Nat.min_eq_left inside]
              congr 3
              omega
          · next notQuote =>
              split
              · next isSign =>
                  obtain rfl := beq_iff_eq.mp isSign
                  rw [next_sign, if_congr (behind.peek?_eq_some_iff (by decide)) rfl rfl]
                  split <;> rfl
              · next notSign =>
                  have isOther := Lexeme.next_punctuation notStart notNumber
                    (by simpa using notQuote) (by simpa using notSign)
                  rw [lexemeAt_of_notString notFeed (by simp [isOther]), isOther,
                    stands.skipPunctuation]
                  rfl

theorem At.skipLexeme {first : Char} (stands : At source position (first :: rest))
    (noFiller : Filler.next? (first :: rest) = none) :
    ∃ byte, Cursor.peek? source position = some byte ∧
      skipLexeme source byte position =
        .ok (lexemeAt position (Lexeme.next first rest).1) := by
  have notFeed : first ≠ '\n' := by
    rintro rfl
    cases noFiller
  rcases stands.peek?_cons with ⟨ascii, isByte, -⟩ | ⟨wide, byte, isByte, wide'⟩
  · exact ⟨first, isByte, stands.skipLexeme_ascii ascii notFeed⟩
  · -- A character beyond ASCII stands for itself, and so does its first byte.
    refine ⟨byte, isByte, ?_⟩
    have notNumber : Lexeme.startsNumber first rest = false := by
      rw [Lexeme.startsNumber, isDigit_wide wide, beq_wide wide '.' (by decide)]
      rfl
    have isOther := Lexeme.next_punctuation (isNameStart_wide wide) notNumber
      (ne_of_wide wide (by decide)) (ne_of_wide wide (by decide))
    rw [lexemeAt_of_notString notFeed (by simp [isOther]), isOther]
    simp only [Cursor.skipLexeme, isNameStart_wide wide', isDigit_wide wide',
      beq_wide wide' '.' (by decide), beq_wide wide' '"' (by decide),
      beq_wide wide' '#' (by decide), Bool.false_and, Bool.or_self, Bool.false_eq_true, if_false,
      stands.skipPunctuation]
    rfl

/-- The cut of a lexeme behind some filler, from a position on. -/
def cutOf (position : Nat) (filler : List Filler) (lexeme : Lexeme) : Cut :=
  let skipped := ({ stop := position } : Skipped).past filler
  { filler := skipped
    spaced := !filler.isEmpty
    kind := lexeme.kind
    stop := skipped.stop + String.utf8Len lexeme.text
    text := String.ofList lexeme.text
    feeds := Lexeme.lineBreaks lexeme.text }

theorem start_cutOf (position : Nat) (filler : List Filler) (lexeme : Lexeme) :
    (cutOf position filler lexeme).filler.stop =
      position + String.utf8Len (filler.flatMap Filler.text) :=
  rfl

theorem stop_cutOf (position : Nat) (filler : List Filler) (lexeme : Lexeme) :
    (cutOf position filler lexeme).stop =
      position + String.utf8Len (filler.flatMap Filler.text) + String.utf8Len lexeme.text :=
  rfl

theorem spaced_past (position : Nat) (filler : List Filler) :
    decide (position < (({ stop := position } : Skipped).past filler).stop) =
      !filler.isEmpty := by
  cases filler with
  | nil => exact decide_eq_false (Nat.lt_irrefl position)
  | cons piece filler =>
      have positive : 0 < String.utf8Len piece.text := by
        obtain ⟨first, rest, isText⟩ := List.exists_cons_of_ne_nil piece.text_ne_nil
        rw [isText, String.utf8Len_cons]
        exact Nat.add_pos_right _ first.utf8Size_pos
      refine decide_eq_true ?_
      rw [Skipped.past, List.flatMap_cons, String.utf8Len_append]
      dsimp only
      omega

theorem At.behindFiller (stands : At source position rest) :
    At source (({ stop := position } : Skipped).past (Filler.scan rest).1).stop
      (Filler.scan rest).2 := by
  rw [← (Filler.scan_append rest).1] at stands
  exact At.past stands

theorem At.read_of_nil (stands : At source position rest) (ended : (Filler.scan rest).2 = []) :
    read source position =
      .ok (.ended (({ stop := position } : Skipped).past (Filler.scan rest).1)) := by
  have last := stands.behindFiller
  rw [ended] at last
  rw [read, At.skipFiller { stop := position } stands, last.peek?_nil]
  rfl

theorem At.read_of_cons {first : Char} {tail : List Char} (stands : At source position rest)
    (goesOn : (Filler.scan rest).2 = first :: tail) :
    read source position =
      .ok (.lexeme (cutOf position (Filler.scan rest).1 (Lexeme.next first tail).1)) := by
  have noFiller := (Filler.scan_append rest).2
  have here := stands.behindFiller
  rw [goesOn] at noFiller here
  obtain ⟨byte, isByte, skips⟩ := here.skipLexeme noFiller
  rw [← Lexeme.next_append first tail] at here
  obtain ⟨part, slices, isText⟩ := here.slice
  rw [read, At.skipFiller { stop := position } stands, isByte]
  simp only [bind, Except.bind, pure, Except.pure, skips, lexemeAt, slices, isText, spaced_past]
  rfl

/-- The cuts of lexemes one behind the other, from a position on. -/
def cutsOf (position : Nat) : List (List Filler × Lexeme) → List Cut
  | [] => []
  | (filler, lexeme) :: items =>
      let cut := cutOf position filler lexeme
      cut :: cutsOf cut.stop items

theorem length_cutsOf (position : Nat) (items : List (List Filler × Lexeme)) :
    (cutsOf position items).length = items.length := by
  induction items generalizing position with
  | nil => rfl
  | cons item items ih => rw [cutsOf, List.length_cons, List.length_cons, ih]

/-- Bytes are cut where characters are, and no slice fails. -/
theorem At.cuts (position : Nat) (stands : At source position rest) :
    Cursor.cuts source position =
      (cutsOf position (LexedText.ofChars rest).items,
        .ok
          { stop := source.utf8ByteSize
            lineBreaks := Filler.lineBreaksIn (LexedText.ofChars rest).trailing
            continuations := Filler.continuationsIn (LexedText.ofChars rest).trailing }) := by
  fun_induction LexedText.ofChars rest generalizing position with
  | case1 rest ended =>
      have last := stands.behindFiller
      rw [ended] at last
      rw [Cursor.cuts, stands.read_of_nil ended, ← last.size]
      simp [cutsOf, Skipped.past]
  | case2 rest first tail goesOn cut later ih =>
      have here := stands.behindFiller
      rw [goesOn, ← Lexeme.next_append first tail] at here
      have behind : At source
          (cutOf position (Filler.scan rest).1 (Lexeme.next first tail).1).stop
          (Lexeme.next first tail).2 := here.move
      rw [Cursor.cuts, stands.read_of_cons goesOn]
      dsimp only
      rw [ih _ behind]
      rfl

end ShaderPipeline.Cursor

namespace ShaderPipeline.Token

open Cursor

theorem ofCuts_cutsOf (state : ScanState) (position : Nat) (items : List (List Filler × Lexeme)) :
    ofCuts state (cutsOf position items) = place state items := by
  induction items generalizing state position with
  | nil => rfl
  | cons item items ih =>
      obtain ⟨filler, lexeme⟩ := item
      have isState : (state.down
          ((cutOf position filler lexeme).filler.lineBreaks +
            (cutOf position filler lexeme).filler.continuations)) = state.skip filler := by
        simp only [cutOf, Skipped.past, Nat.zero_add, ScanState.skip]
      have isToken : ofCut (state.skip filler) (cutOf position filler lexeme) =
          ofLexeme (state.skip filler) filler lexeme := by
        simp only [cutOf, Skipped.past, Nat.zero_add, ofCut, ofLexeme]
      rw [cutsOf, ofCuts, place, isState, isToken, ih]
      rfl

/-- The tokens of a text are its lexemes, placed on lines and in nestings. -/
theorem scan_eq (source : String) :
    scan source = (place {} (LexedText.ofChars source.toList).items).1 := by
  rw [scan, scanWithEnd, At.cuts 0 (at_start source)]
  dsimp only
  rw [ofCuts_cutsOf]

theorem endLine_eq (source : String) :
    endLine source =
      ((place {} (LexedText.ofChars source.toList).items).2.skip
        (LexedText.ofChars source.toList).trailing).line := by
  rw [endLine, scanWithEnd, At.cuts 0 (at_start source)]
  dsimp only
  rw [ofCuts_cutsOf]
  rfl

end ShaderPipeline.Token
