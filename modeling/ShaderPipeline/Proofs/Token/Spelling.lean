import ShaderPipeline.Proofs.Token.Agreement
import ShaderPipeline.Proofs.Token.Cutting

/-!
# How lexemes are spelled

A text that is put together from lexemes and filler is cut into these lexemes
again, as long as each of them ends where the next one starts.  The tokens of a
scanned text lie in it in this way.
-/

namespace ShaderPipeline

namespace LexedText

/-- Puts filler in front of a text that was cut up. -/
def prepend (filler : List Filler) : LexedText → LexedText
  | ⟨[], trailing⟩ => ⟨[], filler ++ trailing⟩
  | ⟨(first, lexeme) :: items, trailing⟩ => ⟨(filler ++ first, lexeme) :: items, trailing⟩

theorem lexemes_prepend (filler : List Filler) (lexed : LexedText) :
    (lexed.prepend filler).lexemes = lexed.lexemes := by
  obtain ⟨items, trailing⟩ := lexed
  cases items <;> rfl

theorem ofChars_of_filler {text rest : List Char} {piece : Filler}
    (found : Filler.next? text = some (piece, rest)) :
    ofChars text = (ofChars rest).prepend [piece] := by
  have skipped := Filler.scan_of_some found
  cases isRest : (Filler.scan rest).2 with
  | nil =>
      have isText : (Filler.scan text).2 = [] := by rw [skipped, isRest]
      rw [ofChars_of_nil isRest, ofChars_of_nil isText, skipped]
      rfl
  | cons first tail =>
      have isText : (Filler.scan text).2 = first :: tail := by rw [skipped, isRest]
      rw [ofChars_of_cons isRest, ofChars_of_cons isText, skipped]
      rfl

theorem ofChars_of_cuts {lexeme : Lexeme} {rest : List Char} (cuts : lexeme.Cuts rest) :
    ofChars (lexeme.text ++ rest) =
      ⟨([], lexeme) :: (ofChars rest).items, (ofChars rest).trailing⟩ := by
  obtain ⟨noFiller, first, tail, isText, cut⟩ := cuts
  have skipped := Filler.scan_of_none noFiller
  have goesOn : (Filler.scan (lexeme.text ++ rest)).2 = first :: (tail ++ rest) := by
    rw [skipped, isText]
    rfl
  rw [ofChars_of_cons goesOn, cut, skipped]

theorem lexemes_of_filler {text rest : List Char} {piece : Filler}
    (found : Filler.next? text = some (piece, rest)) :
    (ofChars text).lexemes = (ofChars rest).lexemes := by
  rw [ofChars_of_filler found, lexemes_prepend]

theorem lexemes_of_cuts {lexeme : Lexeme} {rest : List Char} (cuts : lexeme.Cuts rest) :
    (ofChars (lexeme.text ++ rest)).lexemes = lexeme :: (ofChars rest).lexemes := by
  rw [ofChars_of_cuts cuts]
  rfl

theorem toChars_cons (filler : List Filler) (lexeme : Lexeme)
    (items : List (List Filler × Lexeme)) (trailing : List Filler) :
    toChars ⟨(filler, lexeme) :: items, trailing⟩ =
      filler.flatMap Filler.text ++ (lexeme.text ++ toChars ⟨items, trailing⟩) := by
  simp [toChars]

/-- Cutting a text up loses nothing. -/
theorem toChars_ofChars (text : List Char) : (ofChars text).toChars = text := by
  fun_induction ofChars text with
  | case1 text ended =>
      obtain ⟨whole, -⟩ := Filler.scan_append text
      rw [ended, List.append_nil] at whole
      exact whole
  | case2 text first rest goesOn cut tail ih =>
      obtain ⟨whole, -⟩ := Filler.scan_append text
      rw [toChars_cons, ih, Lexeme.next_append, ← goesOn, whole]

end LexedText

theorem Lexeme.cuts_next {first : Char} {rest : List Char}
    (noFiller : Filler.next? (first :: rest) = none) :
    (next first rest).1.Cuts (next first rest).2 := by
  have whole := next_append first rest
  obtain ⟨first', tail, isText⟩ := List.exists_cons_of_ne_nil (next_text_ne_nil first rest)
  rw [isText, List.cons_append, List.cons.injEq] at whole
  obtain ⟨rfl, isRest⟩ := whole
  refine ⟨?_, first', tail, isText, ?_⟩
  · rw [isText, List.cons_append, isRest]
    exact noFiller
  · rw [isRest]

/-- The text consists of the lexemes, each of which ends where it should, and of filler. -/
inductive Spells : List Lexeme → List Char → Prop
  | nil : Spells [] []
  | lexeme {lexeme : Lexeme} {lexemes : List Lexeme} {rest : List Char}
      (cuts : lexeme.Cuts rest) (spells : Spells lexemes rest) :
      Spells (lexeme :: lexemes) (lexeme.text ++ rest)
  | filler {lexemes : List Lexeme} {piece : Filler} {text rest : List Char}
      (found : Filler.next? text = some (piece, rest)) (spells : Spells lexemes rest) :
      Spells lexemes text

theorem Spells.lexemes_eq {lexemes : List Lexeme} {text : List Char}
    (spells : Spells lexemes text) : (LexedText.ofChars text).lexemes = lexemes := by
  induction spells with
  | nil =>
      rw [LexedText.ofChars_of_nil (by rw [Filler.scan_of_none rfl])]
      rfl
  | lexeme cuts spells ih => rw [LexedText.lexemes_of_cuts cuts, ih]
  | filler found spells ih => rw [LexedText.lexemes_of_filler found, ih]

namespace Token

theorem place_cons (state : ScanState) (filler : List Filler) (lexeme : Lexeme)
    (items : List (List Filler × Lexeme)) :
    (place state ((filler, lexeme) :: items)).1 =
      ofLexeme (state.skip filler) filler lexeme ::
        (place (state.across filler lexeme.text) items).1 :=
  rfl

/-- The token without its place. -/
def lexeme (token : Token) : Lexeme :=
  ⟨token.kind, token.text.toList⟩

@[simp]
theorem text_lexeme (token : Token) : token.lexeme.text = token.text.toList :=
  rfl

theorem lexeme_ofLexeme (state : ScanState) (filler : List Filler) (lexeme : Lexeme) :
    (ofLexeme state filler lexeme).lexeme = lexeme := by
  simp [Token.lexeme, ofLexeme]

theorem lexemes_place (state : ScanState) (items : List (List Filler × Lexeme)) :
    (place state items).1.map Token.lexeme = items.map (·.2) := by
  induction items generalizing state with
  | nil => rfl
  | cons item items ih =>
      obtain ⟨filler, lexeme⟩ := item
      simp only [place, List.map_cons, ih, lexeme_ofLexeme]

theorem lexemes_scan (source : String) :
    (scan source).map Token.lexeme = (LexedText.ofChars source.toList).lexemes := by
  rw [scan_eq]
  exact lexemes_place {} _

/-- What the layout of a token says about the text in front of it. -/
structure Follows (token : Token) (gap : List Char) : Prop where
  spaced : token.spaced = true ↔ gap ≠ []
  linesCrossed : gap = [] → token.linesCrossed = 0
  continuations : gap = [] → token.continuations = 0

/-- The tokens lie in the text in their order. -/
inductive Written : List Token → List Char → Prop
  | nil (text : List Char) : Written [] text
  | cons {token : Token} {tokens : List Token} {gap rest : List Char}
      (follows : token.Follows gap) (cuts : token.lexeme.Cuts rest)
      (written : Written tokens rest) :
      Written (token :: tokens) (gap ++ (token.lexeme.text ++ rest))

theorem Written.of_append {before tokens : List Token} {text : List Char}
    (written : Written (before ++ tokens) text) : ∃ rest, Written tokens rest := by
  induction before generalizing text with
  | nil => exact ⟨text, written⟩
  | cons token before ih =>
      cases written with
      | cons follows cuts written => exact ih written

theorem Written.exists_cuts {tokens : List Token} {text : List Char} (written : Written tokens text)
    {token : Token} (member : token ∈ tokens) : ∃ rest, token.lexeme.Cuts rest := by
  obtain ⟨before, behind, rfl⟩ := List.append_of_mem member
  obtain ⟨rest, written⟩ := written.of_append
  cases written with
  | cons follows cuts written => exact ⟨_, cuts⟩

theorem Written.mem {tokens : List Token} {text : List Char} (written : Written tokens text)
    {token : Token} (member : token ∈ tokens) {character : Char}
    (inside : character ∈ token.lexeme.text) : character ∈ text := by
  induction written with
  | nil text => cases member
  | cons follows cuts written ih =>
      rw [List.mem_append, List.mem_append]
      rcases List.mem_cons.mp member with rfl | behind
      · exact Or.inr (Or.inl inside)
      · exact Or.inr (Or.inr (ih behind))

/-- There is text behind every token but the last. -/
theorem Written.exists_cuts_before {before behind : List Token} {token next : Token}
    {text : List Char} (written : Written (before ++ token :: next :: behind) text) :
    ∃ former rest, token.lexeme.Cuts (former :: rest) := by
  obtain ⟨rest, written⟩ := written.of_append
  cases written with
  | @cons _ _ _ rest follows cuts written =>
      cases written with
      | @cons _ _ gap rest follows' cuts' written =>
          obtain ⟨-, first, tail, isText, -⟩ := cuts'
          have notEmpty : gap ++ (next.lexeme.text ++ rest) ≠ [] := by
            rw [isText]
            simp
          obtain ⟨former, rest, isRest⟩ := List.exists_cons_of_ne_nil notEmpty
          exact ⟨former, rest, isRest ▸ cuts⟩

theorem follows_ofLexeme (state : ScanState) (filler : List Filler) (lexeme : Lexeme) :
    (ofLexeme state filler lexeme).Follows (filler.flatMap Filler.text) := by
  cases filler with
  | nil => exact ⟨by simp [ofLexeme], fun _ => rfl, fun _ => rfl⟩
  | cons piece rest =>
      have notEmpty : (piece :: rest).flatMap Filler.text ≠ [] := by
        intro isEmpty
        exact piece.text_ne_nil (List.append_eq_nil_iff.mp isEmpty).1
      exact ⟨⟨fun _ => notEmpty, fun _ => rfl⟩, fun isEmpty => absurd isEmpty notEmpty,
        fun isEmpty => absurd isEmpty notEmpty⟩

theorem written_place (state : ScanState) (text : List Char) :
    Written (place state (LexedText.ofChars text).items).1 text := by
  induction text using LexedText.ofChars.induct generalizing state with
  | case1 text ended =>
      rw [LexedText.ofChars_of_nil ended]
      exact .nil text
  | case2 text first rest goesOn cut ih =>
      obtain ⟨whole, noFiller⟩ := Filler.scan_append text
      have cuts : (Lexeme.next first rest).1.Cuts (Lexeme.next first rest).2 :=
        Lexeme.cuts_next (goesOn ▸ noFiller)
      -- The state behind the lexeme does not matter here.
      have written : ∀ here after, Written
          (ofLexeme here (Filler.scan text).1 (Lexeme.next first rest).1 ::
            (place after (LexedText.ofChars (Lexeme.next first rest).2).items).1) text := by
        intro here after
        have written := Written.cons (follows_ofLexeme here (Filler.scan text).1 _)
          (lexeme_ofLexeme here _ (Lexeme.next first rest).1 ▸ cuts) (ih after)
        rw [lexeme_ofLexeme, Lexeme.next_append, ← goesOn, whole] at written
        exact written
      rw [LexedText.ofChars_of_cons goesOn]
      exact written _ _

theorem written_scan (source : String) : Written (scan source) source.toList := by
  rw [scan_eq]
  exact written_place {} source.toList

end Token

end ShaderPipeline
