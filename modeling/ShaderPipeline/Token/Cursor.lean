import ShaderPipeline.Token.Classes
import ShaderPipeline.Word

/-!
# Scanning text by bytes

A scan goes through the bytes of a text, which never has to be decoded: all that it looks
for is ASCII, and no byte of another character is.  Positions are numbers of bytes from the
start of the text.  What lies between two of them can be taken out as a slice only if
neither is inside a character.
-/

namespace ShaderPipeline.Cursor

/-- The byte at a position as a character.  The bytes of a character beyond ASCII become
characters beyond ASCII. -/
def peek? (source : String) (position : Nat) : Option Char :=
  if inside : position < source.utf8ByteSize then
    some (Char.ofUInt8 (source.getUTF8Byte ⟨position⟩ inside))
  else none

theorem lt_of_peek? {source : String} {position : Nat} {character : Char}
    (found : peek? source position = some character) : position < source.utf8ByteSize := by
  unfold peek? at found
  split at found
  · next inside => exact inside
  · cases found

/-- The text from `start` up to `stop`. -/
def slice (source : String) (start stop : Nat) : Except Abort String.Slice :=
  if bounds : start ≤ stop ∧ (String.Pos.Raw.mk start).IsValid source ∧
      (String.Pos.Raw.mk stop).IsValid source then
    .ok ⟨source, ⟨⟨start⟩, bounds.2.1⟩, ⟨⟨stop⟩, bounds.2.2⟩, bounds.1⟩
  else .error .boundary

/-- The position behind the bytes that pass a test. -/
def skipWhile (source : String) (test : Char → Bool) (position : Nat) : Nat :=
  match _found : peek? source position with
  | some byte => if test byte then skipWhile source test (position + 1) else position
  | none => position
termination_by source.utf8ByteSize - position
decreasing_by
  have inside := lt_of_peek? _found
  omega

/-- A stretch of filler: the position behind it, its line feeds and its continuations. -/
structure Skipped where
  stop : Nat
  lineBreaks : Nat := 0
  continuations : Nat := 0
deriving Repr, DecidableEq

/-- Skips the rest of a block comment.  One that is not closed runs to the end. -/
def skipBlockComment (source : String) (skipped : Skipped) : Skipped :=
  match _found : peek? source skipped.stop with
  | some byte =>
      if byte = '*' ∧ peek? source (skipped.stop + 1) = some '/' then
        { skipped with stop := skipped.stop + 2 }
      else if byte = '\n' then
        skipBlockComment source
          { skipped with stop := skipped.stop + 1, lineBreaks := skipped.lineBreaks + 1 }
      else skipBlockComment source { skipped with stop := skipped.stop + 1 }
  | none => skipped
termination_by source.utf8ByteSize - skipped.stop
decreasing_by
  all_goals
    have inside := lt_of_peek? _found
    omega

def skipPiece? (source : String) (skipped : Skipped) : Option Skipped :=
  let next := peek? source (skipped.stop + 1)
  match peek? source skipped.stop with
  | some '\n' =>
      some { skipped with stop := skipped.stop + 1, lineBreaks := skipped.lineBreaks + 1 }
  | some '\\' =>
      if next = some '\n' then
        some { skipped with
          stop := skipped.stop + 2
          continuations := skipped.continuations + 1 }
      else if next = some '\r' ∧ peek? source (skipped.stop + 2) = some '\n' then
        some { skipped with
          stop := skipped.stop + 3
          continuations := skipped.continuations + 1 }
      else none
  | some '/' =>
      if next = some '/' then
        some { skipped with stop := skipWhile source (· != '\n') skipped.stop }
      else if next = some '*' then
        some (skipBlockComment source { skipped with stop := skipped.stop + 2 })
      else none
  | some byte =>
      if Filler.isBlank byte then some { skipped with stop := skipped.stop + 1 } else none
  | none => none

theorem le_skipWhile (source : String) (test : Char → Bool) (position : Nat) :
    position ≤ skipWhile source test position := by
  fun_induction skipWhile source test position with
  | case1 position byte found passes ih => omega
  | case2 => exact Nat.le_refl _
  | case3 => exact Nat.le_refl _

theorem lt_skipWhile {source : String} {test : Char → Bool} {position : Nat} {byte : Char}
    (found : peek? source position = some byte) (passes : test byte = true) :
    position < skipWhile source test position := by
  have behind := le_skipWhile source test (position + 1)
  rw [skipWhile, found]
  simp only [passes, if_true]
  exact behind

theorem le_skipBlockComment (source : String) (skipped : Skipped) :
    skipped.stop ≤ (skipBlockComment source skipped).stop := by
  fun_induction skipBlockComment source skipped <;> simp_all <;> omega

/-- A piece of filler is not empty. -/
theorem lt_of_skipPiece? {source : String} {skipped behind : Skipped}
    (skips : skipPiece? source skipped = some behind) :
    skipped.stop < behind.stop ∧ skipped.stop < source.utf8ByteSize := by
  obtain ⟨byte, found⟩ : ∃ byte, peek? source skipped.stop = some byte := by
    cases found : peek? source skipped.stop with
    | none => simp [skipPiece?, found] at skips
    | some byte => exact ⟨byte, rfl⟩
  refine ⟨?_, lt_of_peek? found⟩
  have comment := le_skipBlockComment source { skipped with stop := skipped.stop + 2 }
  unfold skipPiece? at skips
  dsimp only at skips comment
  split at skips
  · cases skips
    exact Nat.lt_succ_self _
  · grind
  · split at skips
    · cases skips
      exact lt_skipWhile ‹_› rfl
    · split at skips
      · cases skips
        omega
      · cases skips
  · grind
  · cases skips

def skipFiller (source : String) (skipped : Skipped) : Skipped :=
  match _skips : skipPiece? source skipped with
  | some behind => skipFiller source behind
  | none => skipped
termination_by source.utf8ByteSize - skipped.stop
decreasing_by
  have further := lt_of_skipPiece? _skips
  omega

/-- The position behind a literal, the last character of which was `previous`. -/
def skipNumber (source : String) (previous : Char) (position : Nat) : Nat :=
  match _found : peek? source position with
  | some byte =>
      if Lexeme.isNumberChar previous byte then skipNumber source byte (position + 1)
      else position
  | none => position
termination_by source.utf8ByteSize - position
decreasing_by
  have inside := lt_of_peek? _found
  omega

/-- The end of a string behind its opening quote, and the line feeds in it.  A backslash takes
the next character with it. -/
def skipString (source : String) (position feeds : Nat) : Except Abort (Nat × Nat) :=
  match _found : peek? source position with
  | some '"' => .ok (position + 1, feeds)
  | some '\\' => do
      let rest ← slice source (min (position + 1) source.utf8ByteSize) source.utf8ByteSize
      skipString source (position + 1 + (rest.front?.elim 0 Char.utf8Size)) feeds
  | some byte => skipString source (position + 1) (if byte = '\n' then feeds + 1 else feeds)
  | none => .ok (position, feeds)
termination_by source.utf8ByteSize - position
decreasing_by
  all_goals
    have inside := lt_of_peek? _found
    omega

/-- The position behind an operator, or behind the character that stands first. -/
def skipPunctuation (source : String) (position : Nat) : Except Abort Nat := do
  let rest ← slice source position source.utf8ByteSize
  match Lexeme.punctuation.find? fun operator => rest.startsWith operator with
  | some operator => return position + operator.utf8ByteSize
  | none => return position + rest.front?.elim 1 Char.utf8Size

/-- The class of the lexeme that starts with `first` at a position, where it stops, and the
line feeds in it. -/
def skipLexeme (source : String) (first : Char) (position : Nat) :
    Except Abort (TokenKind × Nat × Nat) := do
  let next := peek? source (position + 1)
  if Lexeme.isNameStart first then
    return (.name, skipWhile source Lexeme.isNameChar position, 0)
  else if first.isDigit || (first == '.' && next.any Char.isDigit) then
    return (.number, skipNumber source '\x00' position, 0)
  else if first == '"' then
    let (stop, feeds) ← skipString source (position + 1) 0
    return (.string, min stop source.utf8ByteSize, feeds)
  else if first == '#' then
    return (.preprocessor, if next = some '#' then position + 2 else position + 1, 0)
  else return (.punctuation, ← skipPunctuation source position, 0)

theorem lt_skipNumber {source : String} {previous first : Char} {position : Nat}
    (found : peek? source position = some first)
    (passes : Lexeme.isNumberChar previous first = true) :
    position < skipNumber source previous position := by
  have behind : ∀ previous position, position ≤ skipNumber source previous position := by
    intro previous position
    fun_induction skipNumber source previous position with
    | case1 previous position byte found passes ih => omega
    | case2 => exact Nat.le_refl _
    | case3 => exact Nat.le_refl _
  have further := behind first (position + 1)
  rw [skipNumber, found]
  simp only [passes, if_true]
  exact further

theorem le_of_skipString {source : String} {position feeds : Nat} {result : Nat × Nat}
    (skips : skipString source position feeds = .ok result) : position ≤ result.1 := by
  fun_induction skipString source position feeds with
  | case1 position feeds found =>
      cases skips
      exact Nat.le_succ _
  | case2 position feeds found ih =>
      cases sliced : slice source (min (position + 1) source.utf8ByteSize)
          source.utf8ByteSize with
      | error reason =>
          rw [sliced] at skips
          cases skips
      | ok rest =>
          rw [sliced] at skips
          have further := ih rest skips
          omega
  | case3 position feeds byte found _ _ ih =>
      have further := ih skips
      omega
  | case4 position feeds found =>
      cases skips
      exact Nat.le_refl _

theorem lt_of_skipPunctuation {source : String} {position stop : Nat}
    (skips : skipPunctuation source position = .ok stop) : position < stop := by
  have notEmpty : ∀ operator ∈ Lexeme.punctuation, 0 < operator.utf8ByteSize := by decide
  unfold skipPunctuation at skips
  cases sliced : slice source position source.utf8ByteSize with
  | error reason =>
      simp only [sliced, bind, Except.bind, reduceCtorEq] at skips
  | ok rest =>
      simp only [sliced, bind, Except.bind, pure, Except.pure] at skips
      split at skips
      · next operator isFound =>
          cases skips
          have positive := notEmpty operator (List.mem_of_find?_eq_some isFound)
          omega
      · cases skips
        cases rest.front? with
        | none => exact Nat.lt_succ_self _
        | some first =>
            have positive := first.utf8Size_pos
            exact Nat.lt_add_of_pos_right positive

/-- A lexeme is not empty. -/
theorem lt_of_skipLexeme {source : String} {first : Char} {position : Nat}
    {result : TokenKind × Nat × Nat} (found : peek? source position = some first)
    (skips : skipLexeme source first position = .ok result) : position < result.2.1 := by
  unfold skipLexeme at skips
  simp only [bind, Except.bind, pure, Except.pure] at skips
  split at skips
  · next isStart =>
      cases skips
      refine lt_skipWhile found ?_
      exact Lexeme.isNameChar_of_isNameStart isStart
  · split at skips
    · next isStart =>
        cases skips
        refine lt_skipNumber found ?_
        simp only [Lexeme.isNumberChar, Lexeme.isNameChar_eq] at isStart ⊢
        grind
    · split at skips
      · split at skips
        · cases skips
        · next closes =>
            cases skips
            have further := le_of_skipString closes
            have inside := lt_of_peek? found
            exact Nat.lt_min.mpr ⟨further, inside⟩
      · split at skips
        · cases skips
          dsimp only
          split <;> omega
        · split at skips
          · cases skips
          · next closes =>
              cases skips
              exact lt_of_skipPunctuation closes

theorem le_skipFiller (source : String) (skipped : Skipped) :
    skipped.stop ≤ (skipFiller source skipped).stop := by
  fun_induction skipFiller source skipped with
  | case1 skipped behind skips ih =>
      have further := lt_of_skipPiece? skips
      omega
  | case2 => exact Nat.le_refl _

/-- A lexeme as it is cut from a text, with the filler before it. -/
structure Cut where
  /-- The filler, behind which the lexeme starts. -/
  filler : Skipped
  spaced : Bool
  kind : TokenKind
  stop : Nat
  text : String
  /-- The line feeds in the lexeme, but for those behind a backslash. -/
  feeds : Nat
deriving Repr, DecidableEq

/-- What is found at a position. -/
inductive Reading where
  /-- Nothing but filler. -/
  | ended (filler : Skipped)
  | lexeme (cut : Cut)
deriving Repr, DecidableEq

/-- Reads filler and the lexeme behind it. -/
def read (source : String) (position : Nat) : Except Abort Reading := do
  let filler := skipFiller source { stop := position }
  match peek? source filler.stop with
  | none => return .ended filler
  | some first =>
      let (kind, stop, feeds) ← skipLexeme source first filler.stop
      let text ← slice source filler.stop stop
      return .lexeme ⟨filler, position < filler.stop, kind, stop, text.copy, feeds⟩

theorem lt_of_read {source : String} {position : Nat} {cut : Cut}
    (reads : read source position = .ok (.lexeme cut)) :
    position < cut.stop ∧ position < source.utf8ByteSize := by
  have behind : position ≤ (skipFiller source { stop := position }).stop :=
    le_skipFiller source { stop := position }
  unfold read at reads
  simp only [bind, Except.bind, pure, Except.pure] at reads
  split at reads
  · cases reads
  · next first found =>
      have inside := lt_of_peek? found
      split at reads
      · cases reads
      · next result skips =>
          have further := lt_of_skipLexeme found skips
          split at reads
          · cases reads
          · cases reads
            exact ⟨Nat.lt_of_le_of_lt behind further, Nat.lt_of_le_of_lt behind inside⟩

/-- Cuts a text into lexemes, from a position on.  What comes with them is the filler behind
the last one, or the reason for which the scan stops there. -/
def cuts (source : String) (position : Nat) : List Cut × Except Abort Skipped :=
  match _reads : read source position with
  | .error reason => ([], .error reason)
  | .ok (.ended filler) => ([], .ok filler)
  | .ok (.lexeme cut) =>
      let (behind, ending) := cuts source cut.stop
      (cut :: behind, ending)
termination_by source.utf8ByteSize - position
decreasing_by
  have further := lt_of_read _reads
  omega

end ShaderPipeline.Cursor
