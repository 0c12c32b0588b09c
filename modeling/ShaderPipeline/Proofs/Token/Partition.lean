import Mathlib.Data.String.Basic
import ShaderPipeline.Proofs.Token.Words

/-!
# Tokens and gaps make up the text

Between two tokens of a text lies a gap, and there may be one more at its end.
What a gap can hold is said here without a scanner: blanks, line feeds,
continuations and comments, one after the other, for as long as there is one.
The text is then its gaps and tokens in turn, and the layout of a token counts
what its gap holds.
-/

namespace ShaderPipeline

namespace Filler

/-- The piece is filler in front of `rest`.  A comment of one line goes on up to a
line feed, and a block comment up to the first star and slash. -/
inductive Fits : Filler → List Char → Prop
  | blank {character : Char} (isBlank : character ∈ [' ', '\t', '\r', '\x0b', '\x0c'])
      (rest : List Char) : Fits (.blank character) rest
  | lineBreak (rest : List Char) : Fits .lineBreak rest
  | continuation (carriageReturn : Bool) (rest : List Char) :
      Fits (.continuation carriageReturn) rest
  | lineComment {body rest : List Char} (oneLine : '\n' ∉ body)
      (ends : rest = [] ∨ rest.head? = some '\n') : Fits (.lineComment body) rest
  | blockComment {body rest : List Char} {closed : Bool} (unclosed : ¬ ['*', '/'] <:+: body)
      (ends : closed = true ∨ rest = []) : Fits (.blockComment body closed) rest

theorem isBlank_iff {character : Char} :
    isBlank character = true ↔ character ∈ [' ', '\t', '\r', '\x0b', '\x0c'] := by
  simp [isBlank, or_assoc]

section BlockComment

variable {body rest : List Char}

/-- No comment is closed by a character and the one behind it. -/
theorem splitBlockComment_cons {character : Char}
    (goesOn : ¬ (character = '*' ∧ rest.head? = some '/')) :
    splitBlockComment (character :: rest) =
      (character :: (splitBlockComment rest).1, (splitBlockComment rest).2) := by
  rw [splitBlockComment]
  rintro tail rfl rfl
  exact goesOn ⟨rfl, rfl⟩

theorem head?_of_unclosed {character : Char} (unclosed : ¬ ['*', '/'] <:+: character :: body)
    (isEnd : rest.head? ≠ some '/') :
    ¬ (character = '*' ∧ (body ++ rest).head? = some '/') := by
  rintro ⟨rfl, isSlash⟩
  cases body with
  | nil => exact isEnd isSlash
  | cons second body =>
      cases isSlash
      exact unclosed (List.prefix_append ['*', '/'] body).isInfix

theorem splitBlockComment_closed (unclosed : ¬ ['*', '/'] <:+: body) (rest : List Char) :
    splitBlockComment (body ++ '*' :: '/' :: rest) = (body, true, rest) := by
  induction body with
  | nil => rfl
  | cons character body ih =>
      rw [List.cons_append, splitBlockComment_cons (head?_of_unclosed unclosed (by simp)),
        ih fun inside => unclosed (inside.trans (List.suffix_cons _ _).isInfix)]

theorem splitBlockComment_open (unclosed : ¬ ['*', '/'] <:+: body) :
    splitBlockComment body = (body, false, []) := by
  induction body with
  | nil => rfl
  | cons character body ih =>
      have goesOn : ¬ (character = '*' ∧ (body ++ []).head? = some '/') :=
        head?_of_unclosed unclosed (by simp)
      rw [List.append_nil] at goesOn
      rw [splitBlockComment_cons goesOn,
        ih fun inside => unclosed (inside.trans (List.suffix_cons _ _).isInfix)]

/-- The body of a comment holds no end of a comment. -/
theorem unclosed_splitBlockComment (input : List Char) :
    ¬ ['*', '/'] <:+: (splitBlockComment input).1 ∧
      ((splitBlockComment input).2.1 = true ∨ (splitBlockComment input).2.2 = []) := by
  fun_induction splitBlockComment input with
  | case1 => simp
  | case2 rest => simp
  | case3 character rest goesOn body closed after split ih =>
      rw [split] at ih
      refine ⟨?_, ih.2⟩
      rw [List.infix_cons_iff]
      rintro (starts | inside)
      · obtain ⟨tail, whole⟩ := starts
        rw [List.cons_append, List.cons.injEq] at whole
        obtain ⟨rfl, isBody⟩ := whole
        have isRest := splitBlockComment_append rest
        rw [split, ← isBody] at isRest
        exact goesOn _ rfl isRest.symm
      · exact ih.1 inside

end BlockComment

/-- The scanner takes the piece that fits. -/
theorem next?_eq_some_iff {input rest : List Char} {piece : Filler} :
    next? input = some (piece, rest) ↔ input = piece.text ++ rest ∧ piece.Fits rest := by
  constructor
  · intro found
    refine ⟨(text_append_of_next? found).symm, ?_⟩
    unfold next? at found
    split at found
    · cases found
      exact .lineBreak _
    · cases found
      exact .continuation _ _
    · cases found
      exact .continuation _ _
    · next tail =>
        cases found
        refine .lineComment ?_ ?_
        · intro inside
          simpa using List.mem_takeWhile_imp inside
        · cases isRest : tail.dropWhile (· != '\n') with
          | nil => exact Or.inl rfl
          | cons character rest =>
              have stops := List.head_dropWhile_not (· != '\n') (l := tail) (by simp [isRest])
              simp only [isRest, List.head_cons] at stops
              exact Or.inr (by simpa using stops)
    · next tail =>
        obtain ⟨unclosed, ends⟩ := unclosed_splitBlockComment tail
        cases found
        exact .blockComment unclosed ends
    · split at found
      · next blank =>
          cases found
          exact .blank (isBlank_iff.mp blank) _
      · cases found
    · cases found
  · rintro ⟨rfl, fits⟩
    cases fits with
    | blank isBlank rest =>
        simp only [List.mem_cons, List.not_mem_nil, or_false] at isBlank
        rcases isBlank with rfl | rfl | rfl | rfl | rfl <;> rfl
    | lineBreak rest => rfl
    | continuation carriageReturn rest => cases carriageReturn <;> rfl
    | @lineComment body rest oneLine ends =>
        have inside : ∀ character ∈ body, (character != '\n') = true := by
          intro character member
          simpa using ne_of_mem_of_not_mem member oneLine
        have behind : rest.takeWhile (· != '\n') = [] ∧ rest.dropWhile (· != '\n') = rest := by
          rcases ends with rfl | isFeed
          · exact ⟨rfl, rfl⟩
          · obtain ⟨tail, rfl⟩ := List.head?_eq_some_iff.mp isFeed
            exact ⟨rfl, rfl⟩
        simp only [text, List.cons_append, next?]
        rw [List.takeWhile_append_of_pos inside, List.dropWhile_append_of_pos inside, behind.1,
          behind.2, List.append_nil]
    | @blockComment body rest closed unclosed ends =>
        cases closed with
        | true =>
            simp only [text, List.cons_append, List.append_assoc, List.nil_append, next?]
            rw [splitBlockComment_closed unclosed]
        | false =>
            obtain rfl : rest = [] := by simpa using ends
            simp only [text, List.append_nil, next?]
            rw [splitBlockComment_open unclosed]

/-- The pieces stand in front of `rest` one after the other, and no further piece does. -/
inductive Run : List Filler → List Char → Prop
  | nil {rest : List Char}
      (ended : ∀ (piece : Filler) (behind : List Char), rest = piece.text ++ behind →
        ¬ piece.Fits behind) : Run [] rest
  | cons {piece : Filler} {pieces : List Filler} {rest : List Char}
      (fits : piece.Fits (pieces.flatMap text ++ rest)) (run : Run pieces rest) :
      Run (piece :: pieces) rest

theorem run_nil_iff {rest : List Char} : Run [] rest ↔ next? rest = none := by
  rw [Option.eq_none_iff_forall_ne_some]
  constructor
  · rintro ⟨ended⟩ ⟨piece, behind⟩ found
    obtain ⟨whole, fits⟩ := next?_eq_some_iff.mp found
    exact ended piece behind whole fits
  · intro noPiece
    refine .nil fun piece behind whole fits => ?_
    exact noPiece _ (next?_eq_some_iff.mpr ⟨whole, fits⟩)

/-- The scanner takes a whole run, and there is only one. -/
theorem scan_eq_iff {input rest : List Char} {pieces : List Filler} :
    scan input = (pieces, rest) ↔ input = pieces.flatMap text ++ rest ∧ Run pieces rest := by
  constructor
  · intro scanned
    fun_induction scan input generalizing pieces rest with
    | case1 input noFiller =>
        cases scanned
        exact ⟨rfl, run_nil_iff.mpr noFiller⟩
    | case2 input piece behind found later after skipped ih =>
        cases scanned
        obtain ⟨isBehind, run⟩ := ih skipped
        obtain ⟨whole, fits⟩ := next?_eq_some_iff.mp found
        refine ⟨?_, .cons (isBehind ▸ fits) run⟩
        rw [whole, isBehind, List.flatMap_cons, List.append_assoc]
  · rintro ⟨rfl, run⟩
    induction run with
    | nil ended => exact scan_of_none (run_nil_iff.mp (.nil ended))
    | cons fits run ih =>
        rw [List.flatMap_cons, List.append_assoc,
          scan_of_some (next?_eq_some_iff.mpr ⟨rfl, fits⟩), ih]

/-- The piece is a backslash and the end of the line behind it. -/
def joinsLines (piece : Filler) : Bool :=
  piece.text = ['\\', '\n'] ∨ piece.text = ['\\', '\r', '\n']

theorem Fits.count {piece : Filler} {rest : List Char} (fits : piece.Fits rest) :
    piece.lineBreaks + piece.continuations = piece.text.count '\n' ∧
      piece.continuations = if piece.joinsLines then 1 else 0 := by
  cases fits with
  | blank isBlank rest =>
      simp only [List.mem_cons, List.not_mem_nil, or_false] at isBlank
      rcases isBlank with rfl | rfl | rfl | rfl | rfl <;> exact ⟨rfl, rfl⟩
  | lineBreak rest => exact ⟨rfl, rfl⟩
  | continuation carriageReturn rest => cases carriageReturn <;> exact ⟨rfl, rfl⟩
  | lineComment oneLine ends =>
      have noFeed := List.count_eq_zero.mpr oneLine
      simp [lineBreaks, continuations, joinsLines, text, noFeed]
  | @blockComment body rest closed unclosed ends =>
      cases closed <;>
        simp [lineBreaks, continuations, joinsLines, text, List.count_append]

/-- Every line feed of a run is counted once. -/
theorem Run.count {pieces : List Filler} {rest : List Char} (run : Run pieces rest) :
    lineBreaksIn pieces + continuationsIn pieces = (pieces.flatMap text).count '\n' ∧
      continuationsIn pieces = pieces.countP joinsLines := by
  induction run with
  | nil ended => exact ⟨rfl, rfl⟩
  | cons fits run ih =>
      obtain ⟨feeds, joins⟩ := fits.count
      rw [lineBreaksIn, continuationsIn, List.flatMap_cons, List.count_append, List.countP_cons,
        ← feeds, ← ih.1, ← ih.2, ← joins]
      omega

end Filler

namespace Token

/-- The tokens of a text, each with the gap in front of it. -/
def scanWithGaps (source : String) : List (List Filler × Token) :=
  ((LexedText.ofChars source.toList).items.map (·.1)).zip (scan source)

def lastGap (source : String) : List Filler :=
  (LexedText.ofChars source.toList).trailing

/-- The text that some tokens and the gaps in front of them make up. -/
def textOf (items : List (List Filler × Token)) : List Char :=
  items.flatMap fun item => item.1.flatMap Filler.text ++ item.2.text.toList

theorem textOf_cons (gap : List Filler) (token : Token) (items : List (List Filler × Token)) :
    textOf ((gap, token) :: items) =
      gap.flatMap Filler.text ++ token.text.toList ++ textOf items :=
  rfl

@[simp]
theorem text_ofLexeme (state : ScanState) (gap : List Filler) (lexeme : Lexeme) :
    (ofLexeme state gap lexeme).text.toList = lexeme.text :=
  String.toList_ofList

/-- What a token says about the gap in front of it. -/
structure Fronts (gap : List Filler) (token : Token) : Prop where
  spaced : token.spaced = true ↔ gap.flatMap Filler.text ≠ []
  /-- A line feed is crossed or joins two lines. -/
  feeds : token.linesCrossed + token.continuations = (gap.flatMap Filler.text).count '\n'
  continuations : token.continuations = gap.countP Filler.joinsLines

/-- The text is the tokens with the gaps in front of them and a last gap.  Every
gap is as long as it can be. -/
inductive Partition : List Char → List (List Filler × Token) → List Filler → Prop
  | last {gap : List Filler} (run : Filler.Run gap []) :
      Partition (gap.flatMap Filler.text) [] gap
  | token {gap : List Filler} {token : Token} {rest : List Char}
      {items : List (List Filler × Token)} {last : List Filler}
      (run : Filler.Run gap (token.text.toList ++ rest)) (notEmpty : token.text ≠ "")
      (fronts : token.Fronts gap) (partition : Partition rest items last) :
      Partition (gap.flatMap Filler.text ++ (token.text.toList ++ rest)) ((gap, token) :: items)
        last

/-- Scanning a text goes from one state to another and places its tokens on the way. -/
inductive Placed : ScanState → List Char → List (List Filler × Token) → List Filler →
    ScanState → Prop
  | last {state : ScanState} {gap : List Filler} (run : Filler.Run gap []) :
      Placed state (gap.flatMap Filler.text) [] gap (state.skip gap)
  | token {state final : ScanState} {gap last : List Filler} {lexeme : Lexeme}
      {rest : List Char} {items : List (List Filler × Token)}
      (run : Filler.Run gap (lexeme.text ++ rest)) (cuts : lexeme.Cuts rest)
      (placed : Placed (state.across gap lexeme.text) rest items last final) :
      Placed state (gap.flatMap Filler.text ++ (lexeme.text ++ rest))
        ((gap, ofLexeme (state.skip gap) gap lexeme) :: items) last final

theorem placed_ofChars (state : ScanState) (text : List Char) :
    Placed state text
      (((LexedText.ofChars text).items.map (·.1)).zip
        (place state (LexedText.ofChars text).items).1)
      (LexedText.ofChars text).trailing
      ((place state (LexedText.ofChars text).items).2.skip
        (LexedText.ofChars text).trailing) := by
  induction text using LexedText.ofChars.induct generalizing state with
  | case1 text ended =>
      obtain ⟨whole, run⟩ := Filler.scan_eq_iff.mp (Prod.mk.eta (p := Filler.scan text)).symm
      rw [ended] at whole run
      have placed : Placed state _ [] _ (state.skip _) := .last run
      rw [← List.append_nil (List.flatMap _ _), ← whole] at placed
      rw [LexedText.ofChars_of_nil ended]
      exact placed
  | case2 text first rest goesOn cut ih =>
      obtain ⟨whole, run⟩ := Filler.scan_eq_iff.mp (Prod.mk.eta (p := Filler.scan text)).symm
      have noFiller := (Filler.scan_append text).2
      rw [goesOn] at whole run noFiller
      rw [← Lexeme.next_append first rest] at whole run
      have placed := Placed.token run (Lexeme.cuts_next noFiller) (ih (state.across _ _))
      rw [← whole] at placed
      rw [LexedText.ofChars_of_cons goesOn]
      exact placed

theorem placed_scan (source : String) :
    ∃ final, Placed {} source.toList (scanWithGaps source) (lastGap source) final ∧
      final.line = endLine source := by
  rw [scanWithGaps, lastGap, scan_eq, endLine_eq]
  exact ⟨_, placed_ofChars {} source.toList, rfl⟩

theorem fronts_ofLexeme (state : ScanState) {gap : List Filler} {rest : List Char}
    (run : Filler.Run gap rest) (lexeme : Lexeme) : (ofLexeme state gap lexeme).Fronts gap :=
  ⟨(follows_ofLexeme state gap lexeme).spaced, run.count.1, run.count.2⟩

theorem Placed.partition {state final : ScanState} {text : List Char}
    {items : List (List Filler × Token)} {last : List Filler}
    (placed : Placed state text items last final) : Partition text items last := by
  induction placed with
  | last run => exact .last run
  | @token state final gap last lexeme rest items run cuts placed ih =>
      obtain ⟨-, first, tail, isText, -⟩ := cuts
      rw [← text_ofLexeme (state.skip gap) gap lexeme] at run ⊢
      refine .token run ?_ (fronts_ofLexeme _ run lexeme) ih
      rw [← String.toList_inj.ne, text_ofLexeme, isText]
      exact List.cons_ne_nil _ _

theorem partition_scan (source : String) :
    Partition source.toList (scanWithGaps source) (lastGap source) := by
  obtain ⟨final, placed, -⟩ := placed_scan source
  exact placed.partition

theorem map_snd_scanWithGaps (source : String) :
    (scanWithGaps source).map (·.2) = scan source := by
  have sameLength := congrArg List.length (lexemes_scan source)
  rw [List.length_map, LexedText.lexemes, List.length_map] at sameLength
  refine List.map_snd_zip ?_
  rw [List.length_map, sameLength]

section Partition

variable {text : List Char} {items before behind : List (List Filler × Token)}
  {gap last : List Filler} {token : Token}

theorem Partition.eq_append (partition : Partition text items last) :
    text = textOf items ++ last.flatMap Filler.text := by
  induction partition with
  | last run => rfl
  | token run notEmpty fronts partition ih =>
      rw [ih]
      simp [textOf]

/-- There are no more tokens than characters. -/
theorem Partition.length_le (partition : Partition text items last) :
    items.length ≤ text.length := by
  induction partition with
  | last run => exact Nat.zero_le _
  | @token gap token rest items last run notEmpty fronts partition ih =>
      have positive : 0 < token.text.toList.length := by
        rw [List.length_pos_iff]
        simpa using notEmpty
      simp only [List.length_cons, List.length_append]
      omega

theorem Partition.append_of_mem
    (partition : Partition text (before ++ (gap, token) :: behind) last) :
    ∃ rest, text = (textOf before ++ gap.flatMap Filler.text) ++ token.text.toList ++ rest := by
  refine ⟨textOf behind ++ last.flatMap Filler.text, ?_⟩
  rw [partition.eq_append]
  simp [textOf]

end Partition

theorem items_ofChars (source : String) :
    (LexedText.ofChars source.toList).items =
      (scanWithGaps source).map fun item => (item.1, item.2.lexeme) := by
  have lexemes : (LexedText.ofChars source.toList).items.map (·.2) =
      (scan source).map Token.lexeme := (lexemes_scan source).symm
  have isMap : (fun item : List Filler × Token => (item.1, item.2.lexeme)) =
      Prod.map id Token.lexeme := rfl
  rw [scanWithGaps, isMap, ← List.zip_map_right]
  exact List.zip_of_prod rfl lexemes

theorem cuts_of_append (position : Nat) (before behind : List (List Filler × Token))
    (gap : List Filler) (token : Token) :
    (Cursor.cutsOf position ((before ++ (gap, token) :: behind).map
        fun item => (item.1, item.2.lexeme)))[before.length]? =
      some (Cursor.cutOf (position + String.utf8Len (textOf before)) gap token.lexeme) := by
  induction before generalizing position with
  | nil => rfl
  | cons item before ih =>
      obtain ⟨gap', token'⟩ := item
      rw [List.cons_append, List.map_cons, Cursor.cutsOf, List.length_cons]
      dsimp only
      rw [List.getElem?_cons_succ, ih, textOf_cons, String.utf8Len_append, String.utf8Len_append,
        Cursor.stop_cutOf, text_lexeme]
      simp only [Nat.add_assoc]

/-- The token is what lies behind `front` in the text, and its bytes begin and end
between two characters. -/
structure CutAt (source : String) (front : List Char) (token : Token) : Prop where
  start : (String.ofList front).rawEndPos.IsValid source
  stop : (String.ofList (front ++ token.text.toList)).rawEndPos.IsValid source
  slice : String.Pos.Raw.extract source (String.ofList front).rawEndPos
    (String.ofList (front ++ token.text.toList)).rawEndPos = token.text

theorem isValid_of_append {source : String} {front rest : List Char}
    (whole : source.toList = front ++ rest) : (String.ofList front).rawEndPos.IsValid source := by
  refine String.Pos.Raw.isValid_iff_exists_append.mpr
    ⟨String.ofList front, String.ofList rest, ?_, rfl⟩
  rw [← String.ofList_append, ← whole, String.ofList_toList]

theorem cutAt_of_append {source : String} {front rest : List Char} {token : Token}
    (whole : source.toList = front ++ token.text.toList ++ rest) : CutAt source front token where
  start := isValid_of_append (whole.trans (List.append_assoc _ _ _))
  stop := isValid_of_append whole
  slice := by
    have isSource : source = String.ofList (front ++ token.text.toList ++ rest) := by
      rw [← whole, String.ofList_toList]
    rw [isSource, String.rawEndPos_ofList, String.rawEndPos_ofList, String.utf8Len_append,
      String.extract_of_valid, String.ofList_toList]

/-- The scan by bytes takes the token out of the text behind `front`. -/
structure SlicedAt (source : String) (front : List Char) (token : Token) (cut : Cursor.Cut) :
    Prop where
  start : cut.filler.stop = String.utf8Len front
  stop : cut.stop = String.utf8Len (front ++ token.text.toList)
  text : cut.text = token.text
  slice : ∃ part, Cursor.slice source cut.filler.stop cut.stop = .ok part ∧
    part.copy = token.text

theorem slicedAt_of_append {source : String} {before : List (List Filler × Token)}
    {gap : List Filler} {token : Token} {rest : List Char}
    (whole : source.toList =
      (textOf before ++ gap.flatMap Filler.text) ++ token.text.toList ++ rest) :
    SlicedAt source (textOf before ++ gap.flatMap Filler.text) token
      (Cursor.cutOf (String.utf8Len (textOf before)) gap token.lexeme) := by
  have start := Cursor.start_cutOf (String.utf8Len (textOf before)) gap token.lexeme
  have stop := Cursor.stop_cutOf (String.utf8Len (textOf before)) gap token.lexeme
  rw [← String.utf8Len_append] at start stop
  have stands : Cursor.At source (String.utf8Len (textOf before ++ gap.flatMap Filler.text))
      (token.text.toList ++ rest) := ⟨_, whole.trans (List.append_assoc _ _ _), rfl⟩
  obtain ⟨part, slices, isText⟩ := stands.slice
  rw [String.ofList_toList] at isText
  refine ⟨start, ?_, String.ofList_toList, part, ?_, isText⟩
  · rw [stop, String.utf8Len_append (textOf before ++ _)]
    rfl
  · rw [start, stop]
    exact slices

/-- Every text is its gaps and tokens in turn.  A gap is as long as it can be and is
described by the layout of the token behind it, and every token is cut between characters.
The scan by bytes makes these cuts without a slice that fails.  The words of a tokenizer hold
the numbers of the tokens, unless the text has too many bytes. -/
theorem scan_partitions_source (source : String) :
    (scanWithGaps source).map (·.2) = scan source ∧
    source.toList =
      textOf (scanWithGaps source) ++ (lastGap source).flatMap Filler.text ∧
    Partition source.toList (scanWithGaps source) (lastGap source) ∧
    (scan source).length ≤ source.length ∧
    (∀ before gap token behind, scanWithGaps source = before ++ (gap, token) :: behind →
      CutAt source (textOf before ++ gap.flatMap Filler.text) token) ∧
    (∃ cuts ending, Cursor.cuts source 0 = (cuts, .ok ending) ∧
      ending.stop = source.utf8ByteSize ∧ cuts.length = (scan source).length ∧
      ∀ before gap token behind, scanWithGaps source = before ++ (gap, token) :: behind →
        ∃ cut, cuts[before.length]? = some cut ∧
          SlicedAt source (textOf before ++ gap.flatMap Filler.text) token cut) ∧
    (∀ tokens last, Tokenizer.run source = .ok (tokens, last) →
      tokens.map SourceToken.numbers = scan source) ∧
    ∀ reason, Tokenizer.run source = .error reason →
      reason = .overflow ∧ UInt32.size ≤ source.utf8ByteSize + 1 := by
  have partition := partition_scan source
  have words := Tokenizer.checked_run source
  refine ⟨map_snd_scanWithGaps source, partition.eq_append, partition, ?_, ?_,
    ⟨_, _, Cursor.At.cuts 0 (Cursor.at_start source), rfl, ?_, ?_⟩, ?_, ?_⟩
  · rw [← map_snd_scanWithGaps, List.length_map]
    exact partition.length_le
  · intro before gap token behind isSplit
    rw [isSplit] at partition
    obtain ⟨rest, whole⟩ := partition.append_of_mem
    exact cutAt_of_append whole
  · rw [Cursor.length_cutsOf, items_ofChars, List.length_map, ← map_snd_scanWithGaps source,
      List.length_map]
  · intro before gap token behind isSplit
    rw [isSplit] at partition
    obtain ⟨rest, whole⟩ := partition.append_of_mem
    rw [items_ofChars, isSplit, cuts_of_append, Nat.zero_add]
    exact ⟨_, rfl, slicedAt_of_append whole⟩
  · intro tokens last isRun
    rw [isRun] at words
    exact words.1
  · intro reason isRun
    rw [isRun] at words
    exact ⟨words.1, Nat.le_of_not_lt words.2⟩

end Token

end ShaderPipeline
