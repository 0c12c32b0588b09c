import ShaderPipeline.Proofs.Token.Filler
import ShaderPipeline.Proofs.Token.Lexeme
import ShaderPipeline.Token

/-!
# Cutting text character by character

A text is cut into lexemes and the filler before each of them, character by character.  Here
nothing depends on bytes and positions, and every piece is there as it was written.  The scan
by bytes finds the same cuts.
-/

namespace ShaderPipeline

/-- A text cut into lexemes, each with the filler before it, and the filler
that is left at the end. -/
structure LexedText where
  items : List (List Filler × Lexeme)
  trailing : List Filler
deriving Repr, DecidableEq

namespace LexedText

/-- Cuts a text into lexemes and filler. -/
def ofChars (input : List Char) : LexedText :=
  match _skipped : (Filler.scan input).2 with
  | [] => ⟨[], (Filler.scan input).1⟩
  | first :: rest =>
      let cut := Lexeme.next first rest
      let tail := ofChars cut.2
      ⟨((Filler.scan input).1, cut.1) :: tail.items, tail.trailing⟩
termination_by input.length
decreasing_by
  have skippedLength := Filler.length_scan_le input
  rw [_skipped] at skippedLength
  exact Nat.lt_of_lt_of_le (Lexeme.length_next_lt first rest) skippedLength

/-- The lexemes without the filler between them. -/
def lexemes (lexed : LexedText) : List Lexeme :=
  lexed.items.map (·.2)

def toChars (lexed : LexedText) : List Char :=
  lexed.items.flatMap (fun item => item.1.flatMap Filler.text ++ item.2.text) ++
    lexed.trailing.flatMap Filler.text

theorem ofChars_of_nil {text : List Char} (ended : (Filler.scan text).2 = []) :
    ofChars text = ⟨[], (Filler.scan text).1⟩ := by
  rw [ofChars]
  split
  · rfl
  · next first rest goesOn =>
      rw [ended] at goesOn
      cases goesOn

theorem ofChars_of_cons {text rest : List Char} {first : Char}
    (goesOn : (Filler.scan text).2 = first :: rest) :
    ofChars text =
      ⟨((Filler.scan text).1, (Lexeme.next first rest).1) ::
          (ofChars (Lexeme.next first rest).2).items,
        (ofChars (Lexeme.next first rest).2).trailing⟩ := by
  rw [ofChars]
  split
  · next ended =>
      rw [goesOn] at ended
      cases ended
  · next goesOn' =>
      rw [goesOn] at goesOn'
      cases goesOn'
      rfl

theorem text_ne_nil {text : List Char} {item : List Filler × Lexeme}
    (member : item ∈ (ofChars text).items) : item.2.text ≠ [] := by
  fun_induction ofChars text with
  | case1 text ended => cases member
  | case2 text first rest goesOn cut tail ih =>
      rcases List.mem_cons.mp member with rfl | later
      · exact Lexeme.next_text_ne_nil first rest
      · exact ih later

end LexedText

namespace ScanState

/-- Line feeds and continuations of a stretch of filler move to a new line. -/
def skip (state : ScanState) (filler : List Filler) : ScanState :=
  state.down (Filler.lineBreaksIn filler + Filler.continuationsIn filler)

/-- The state behind a lexeme and the filler before it. -/
def across (state : ScanState) (filler : List Filler) (text : List Char) : ScanState :=
  (((state.skip filler).beforeToken (String.ofList text)).afterToken (String.ofList text)).down
    (Lexeme.lineBreaks text)

end ScanState

namespace Token

/-- The token of a lexeme behind some filler, for the state after that filler. -/
def ofLexeme (state : ScanState) (filler : List Filler) (lexeme : Lexeme) : Token where
  text := String.ofList lexeme.text
  kind := lexeme.kind
  spaced := !filler.isEmpty
  linesCrossed := Filler.lineBreaksIn filler
  continuations := Filler.continuationsIn filler
  line := state.line
  parenDepth := (state.beforeToken (String.ofList lexeme.text)).parenDepth
  braceDepth := (state.beforeToken (String.ofList lexeme.text)).braceDepth

/-- Places the lexemes of a text on lines and in nestings. -/
def place (state : ScanState) : List (List Filler × Lexeme) → List Token × ScanState
  | [] => ([], state)
  | (filler, lexeme) :: items =>
      let (tokens, last) := place (state.across filler lexeme.text) items
      (ofLexeme (state.skip filler) filler lexeme :: tokens, last)

end Token

end ShaderPipeline
