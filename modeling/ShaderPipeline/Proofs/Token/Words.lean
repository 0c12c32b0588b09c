import ShaderPipeline.Proofs.Token.Spelling
import ShaderPipeline.Token.Tokenizer

/-!
# Tokens in words and in numbers

A tokenizer that counts in words finds the tokens that the scan with numbers finds, or stops
for want of room.  No text is cut inside a character, so there is no other reason, and a text
that is shorter than four gigabytes always has room: a line or a bracket takes a byte at
least.
-/

namespace ShaderPipeline

/-- The outcome is as it should be, or a word overflowed although the numbers do not fit. -/
def Checked {result : Type} (fits : Prop) (good : result → Prop) : Except Abort result → Prop
  | .ok value => good value
  | .error reason => reason = .overflow ∧ ¬fits

section Checked

variable {result other : Type} {fits more : Prop} {good : result → Prop} {good' : other → Prop}

theorem checked_pure {value : result} (isGood : good value) : Checked fits good (pure value) :=
  isGood

theorem Checked.mono {outcome : Except Abort result} (checked : Checked fits good outcome)
    (weaker : more → fits) : Checked more good outcome := by
  cases outcome with
  | ok value => exact checked
  | error reason => exact ⟨checked.1, fun room => checked.2 (weaker room)⟩

theorem Checked.bind {outcome : Except Abort result} {next : result → Except Abort other}
    (checked : Checked fits good outcome)
    (checkedNext : ∀ value, good value → Checked fits good' (next value)) :
    Checked fits good' (outcome >>= next) := by
  cases outcome with
  | ok value => exact checkedNext value checked
  | error reason => exact checked

theorem checked_fit32 (number : Nat) :
    Checked (number < UInt32.size) (fun word => word.toNat = number) (Word.fit32 number) := by
  by_cases fits : number < UInt32.size
  · rw [Word.fit32_of_lt fits]
    exact UInt32.toNat_ofNat_of_lt' fits
  · rw [Word.fit32, if_neg fits]
    exact ⟨rfl, fits⟩

end Checked

namespace ScanState

theorem down_beforeToken (state : ScanState) (text : String) (lines : Nat) :
    (state.down lines).beforeToken text = (state.beforeToken text).down lines := by
  unfold beforeToken
  split
  · rfl
  · split <;> rfl

theorem down_afterToken (state : ScanState) (text : String) (lines : Nat) :
    (state.down lines).afterToken text = (state.afterToken text).down lines := by
  unfold afterToken
  split
  · rfl
  · split <;> rfl

theorem beforeToken_le (state : ScanState) (text : String) :
    (state.beforeToken text).line = state.line ∧
      (state.beforeToken text).parenDepth ≤ state.parenDepth ∧
      (state.beforeToken text).braceDepth ≤ state.braceDepth := by
  unfold beforeToken
  split
  · exact ⟨rfl, Nat.sub_le _ _, Nat.le_refl _⟩
  · split
    · exact ⟨rfl, Nat.le_refl _, Nat.sub_le _ _⟩
    · exact ⟨rfl, Nat.le_refl _, Nat.le_refl _⟩

theorem afterToken_le (state : ScanState) (text : String) :
    (state.afterToken text).line = state.line ∧
      (state.afterToken text).parenDepth ≤ state.parenDepth + 1 ∧
      (state.afterToken text).braceDepth ≤ state.braceDepth + 1 := by
  unfold afterToken
  split
  · exact ⟨rfl, Nat.le_refl _, Nat.le_succ _⟩
  · split
    · exact ⟨rfl, Nat.le_succ _, Nat.le_refl _⟩
    · exact ⟨rfl, Nat.le_succ _, Nat.le_succ _⟩

end ScanState

/-- A token, the words of which are read as numbers. -/
def SourceToken.numbers (token : SourceToken) : Token where
  text := token.text
  kind := token.kind
  spaced := token.spaced
  linesCrossed := token.linesCrossed.toNat
  continuations := token.continuations.toNat
  line := token.line.toNat
  parenDepth := token.parenDepth.toNat
  braceDepth := token.braceDepth.toNat

namespace Tokenizer

open Cursor

def numbers (tokenizer : Tokenizer) : ScanState where
  line := tokenizer.line.toNat
  parenDepth := tokenizer.parenDepth.toNat
  braceDepth := tokenizer.braceDepth.toNat

theorem checked_down (tokenizer : Tokenizer) (lines : Nat) :
    Checked (tokenizer.numbers.line + lines < UInt32.size)
      (fun behind => behind.numbers = tokenizer.numbers.down lines) (tokenizer.down lines) := by
  refine (checked_fit32 _).bind fun word isLine => ?_
  refine checked_pure ?_
  rw [numbers, isLine]
  rfl

theorem numbers_beforeToken (tokenizer : Tokenizer) (text : String) :
    (tokenizer.beforeToken text).numbers = tokenizer.numbers.beforeToken text := by
  have fits : ∀ word : UInt32, word.toNat - 1 < UInt32.size := fun word =>
    Nat.lt_of_le_of_lt (Nat.sub_le _ _) word.toNat_lt_size
  unfold beforeToken ScanState.beforeToken
  split
  · rw [numbers, UInt32.toNat_ofNat_of_lt' (fits _)]
    rfl
  · split
    · rw [numbers, UInt32.toNat_ofNat_of_lt' (fits _)]
      rfl
    · rfl

theorem checked_afterToken (tokenizer : Tokenizer) (text : String) :
    Checked
      (tokenizer.numbers.parenDepth + 1 < UInt32.size ∧
        tokenizer.numbers.braceDepth + 1 < UInt32.size)
      (fun behind => behind.numbers = tokenizer.numbers.afterToken text)
      (tokenizer.afterToken text) := by
  unfold afterToken ScanState.afterToken
  split
  · refine ((checked_fit32 _).mono And.left).bind fun word isDepth => ?_
    refine checked_pure ?_
    rw [numbers, isDepth]
    rfl
  · split
    · refine ((checked_fit32 _).mono And.right).bind fun word isDepth => ?_
      refine checked_pure ?_
      rw [numbers, isDepth]
      rfl
    · exact rfl

/-- There is room for as many lines and brackets as a text of this length can have. -/
def Room (state : ScanState) (bytes : Nat) : Prop :=
  state.line + bytes < UInt32.size ∧ state.parenDepth + bytes < UInt32.size ∧
    state.braceDepth + bytes < UInt32.size

/-- What one step of a tokenizer needs room for. -/
def load (cut : Cut) : Nat :=
  max 1 (cut.filler.lineBreaks + cut.filler.continuations + cut.feeds)

/-- What a whole run needs room for. -/
def loadIn : List Cut → Nat
  | [] => 0
  | cut :: cuts => load cut + loadIn cuts

theorem checked_next (tokenizer : Tokenizer) (cut : Cut) :
    let here := tokenizer.numbers.down (cut.filler.lineBreaks + cut.filler.continuations)
    Checked (Room tokenizer.numbers (load cut))
      (fun found => found.1.numbers = Token.ofCut here cut ∧
        found.2.numbers = ((here.beforeToken cut.text).afterToken cut.text).down cut.feeds)
      (tokenizer.next cut) := by
  intro here
  have room : Room tokenizer.numbers (load cut) →
      tokenizer.numbers.line +
          (cut.filler.lineBreaks + cut.filler.continuations + cut.feeds) < UInt32.size ∧
        tokenizer.numbers.parenDepth + 1 < UInt32.size ∧
        tokenizer.numbers.braceDepth + 1 < UInt32.size := by
    intro room
    unfold Room load at room
    omega
  unfold next
  refine ((checked_fit32 _).mono fun isRoom => ?_).bind fun linesCrossed isCrossed => ?_
  · have := room isRoom
    omega
  refine ((checked_fit32 _).mono fun isRoom => ?_).bind fun continuations isContinued => ?_
  · have := room isRoom
    omega
  refine ((checked_down _ _).mono fun isRoom => ?_).bind fun reached isHere => ?_
  · have := room isRoom
    omega
  refine ((checked_down _ _).mono fun isRoom => ?_).bind fun behind isBehind => ?_
  · have := room isRoom
    rw [isHere]
    simp only [ScanState.down]
    omega
  have isInside : (behind.beforeToken cut.text).numbers =
      (here.beforeToken cut.text).down cut.feeds := by
    rw [numbers_beforeToken, isBehind, isHere, ScanState.down_beforeToken]
  have notDeeper := here.beforeToken_le cut.text
  refine ((checked_afterToken _ _).mono fun isRoom => ?_).bind fun last isLast => ?_
  · have := room isRoom
    rw [isInside]
    simp only [here, ScanState.down] at notDeeper ⊢
    omega
  refine checked_pure ⟨?_, ?_⟩
  · have isLine : reached.line.toNat = here.line := congrArg ScanState.line isHere
    have isParen : (behind.beforeToken cut.text).parenDepth.toNat =
        (here.beforeToken cut.text).parenDepth := congrArg ScanState.parenDepth isInside
    have isBrace : (behind.beforeToken cut.text).braceDepth.toNat =
        (here.beforeToken cut.text).braceDepth := congrArg ScanState.braceDepth isInside
    simp only [SourceToken.numbers, Token.ofCut, isCrossed, isContinued, isLine, isParen, isBrace]
  · rw [isLast, isInside, ScanState.down_afterToken]

theorem Room.step {state : ScanState} {cut : Cut} {more : Nat}
    (room : Room state (load cut + more)) :
    let here := state.down (cut.filler.lineBreaks + cut.filler.continuations)
    Room (((here.beforeToken cut.text).afterToken cut.text).down cut.feeds) more := by
  intro here
  have closes := here.beforeToken_le cut.text
  have opens := (here.beforeToken cut.text).afterToken_le cut.text
  simp only [here, ScanState.down] at closes opens
  simp only [here, Room, load, ScanState.down] at room ⊢
  omega

theorem Room.ofCuts {state : ScanState} {cuts : List Cut} {more : Nat}
    (room : Room state (loadIn cuts + more)) :
    Room (Token.ofCuts state cuts).2 more := by
  induction cuts generalizing state with
  | nil =>
      rw [loadIn, Nat.zero_add] at room
      exact room
  | cons cut cuts ih =>
      rw [loadIn, Nat.add_assoc] at room
      exact ih room.step

/-- A tokenizer places lexemes as the scan with numbers does, or has no room for them. -/
theorem checked_all (tokenizer : Tokenizer) (cuts : List Cut) :
    Checked (Room tokenizer.numbers (loadIn cuts))
      (fun found =>
        found.1.map SourceToken.numbers = (Token.ofCuts tokenizer.numbers cuts).1 ∧
          found.2.numbers = (Token.ofCuts tokenizer.numbers cuts).2)
      (tokenizer.all cuts) := by
  induction cuts generalizing tokenizer with
  | nil => exact ⟨rfl, rfl⟩
  | cons cut cuts ih =>
      rw [loadIn, all]
      refine ((checked_next tokenizer cut).mono fun room => ?_).bind fun found isFound => ?_
      · unfold Room at room ⊢
        omega
      obtain ⟨token, behind⟩ := found
      obtain ⟨isToken, isBehind⟩ := isFound
      refine ((ih behind).mono fun room => ?_).bind fun later isLater => ?_
      · rw [isBehind]
        exact room.step
      refine checked_pure ⟨?_, ?_⟩
      · rw [List.map_cons, isToken, isLater.1, isBehind]
        rfl
      · rw [isLater.2, isBehind]
        rfl

theorem length_le_utf8Len (text : List Char) : text.length ≤ String.utf8Len text := by
  induction text with
  | nil => exact Nat.le_refl _
  | cons first text ih =>
      have positive := first.utf8Size_pos
      rw [List.length_cons, String.utf8Len_cons]
      omega

theorem lineBreaks_le (text : List Char) : Lexeme.lineBreaks text ≤ text.length := by
  fun_induction Lexeme.lineBreaks text with
  | case1 => exact Nat.le_refl _
  | case2 rest ih => exact Nat.succ_le_succ ih
  | case3 => exact Nat.zero_le _
  | case4 escaped rest ih => exact Nat.le_trans ih (Nat.le_add_right _ 2)
  | case5 first rest _ _ _ ih => exact Nat.le_trans ih (Nat.le_succ _)

theorem lines_le (filler : List Filler) :
    Filler.lineBreaksIn filler + Filler.continuationsIn filler ≤
      (filler.flatMap Filler.text).length := by
  induction filler with
  | nil => exact Nat.le_refl _
  | cons piece filler ih =>
      have onePiece : piece.lineBreaks + piece.continuations ≤ piece.text.length := by
        cases piece with
        | blockComment body closed =>
            have most := List.count_le_length (a := '\n') (l := body)
            cases closed <;> simp [Filler.lineBreaks, Filler.continuations, Filler.text] <;> omega
        | continuation carriageReturn => cases carriageReturn <;> decide
        | _ => simp [Filler.lineBreaks, Filler.continuations, Filler.text]
      rw [Filler.lineBreaksIn, Filler.continuationsIn, List.flatMap_cons, List.length_append]
      omega

theorem load_cutOf_le (position : Nat) (filler : List Filler) {lexeme : Lexeme}
    (notEmpty : lexeme.text ≠ []) :
    load (cutOf position filler lexeme) ≤
      String.utf8Len (filler.flatMap Filler.text ++ lexeme.text) := by
  have bytes := length_le_utf8Len (filler.flatMap Filler.text ++ lexeme.text)
  have feeds := lineBreaks_le lexeme.text
  have lines := lines_le filler
  have positive := List.length_pos_iff.mpr notEmpty
  rw [List.length_append] at bytes
  simp only [load, cutOf, Skipped.past]
  omega

theorem loadIn_le (position : Nat) (items : List (List Filler × Lexeme))
    (notEmpty : ∀ item ∈ items, item.2.text ≠ []) (trailing : List Filler) :
    loadIn (cutsOf position items) +
        (Filler.lineBreaksIn trailing + Filler.continuationsIn trailing) ≤
      String.utf8Len (LexedText.toChars ⟨items, trailing⟩) := by
  induction items generalizing position with
  | nil =>
      have bytes := length_le_utf8Len (trailing.flatMap Filler.text)
      have lines := lines_le trailing
      simp only [cutsOf, loadIn, LexedText.toChars, List.flatMap_nil, List.nil_append]
      omega
  | cons item items ih =>
      obtain ⟨filler, lexeme⟩ := item
      have someText : lexeme.text ≠ [] := notEmpty (filler, lexeme) List.mem_cons_self
      have first := load_cutOf_le position filler someText
      have later := ih (cutOf position filler lexeme).stop fun item member =>
        notEmpty item (List.mem_cons_of_mem _ member)
      rw [cutsOf, loadIn, LexedText.toChars_cons, ← List.append_assoc, String.utf8Len_append]
      omega

/-- The tokenizer finds the tokens of the text and the line of its end, unless there is no
room for them in its words. -/
theorem checked_run (source : String) :
    Checked (source.utf8ByteSize + 1 < UInt32.size)
      (fun found => found.1.map SourceToken.numbers = Token.scan source ∧
        found.2.line.toNat = Token.endLine source)
      (run source) := by
  have most := loadIn_le 0 (LexedText.ofChars source.toList).items
    (fun _ => LexedText.text_ne_nil) (LexedText.ofChars source.toList).trailing
  rw [LexedText.toChars_ofChars, String.utf8Len_toList] at most
  have atStart : numbers {} = {} := rfl
  have allRoom : source.utf8ByteSize + 1 < UInt32.size →
      Room {} (loadIn (cutsOf 0 (LexedText.ofChars source.toList).items) +
        (Filler.lineBreaksIn (LexedText.ofChars source.toList).trailing +
          Filler.continuationsIn (LexedText.ofChars source.toList).trailing)) := by
    intro short
    simp only [Room]
    omega
  rw [run, At.cuts 0 (at_start source), Token.scan_eq, Token.endLine_eq]
  dsimp only
  refine ((checked_all {} _).mono fun short => ?_).bind fun found isFound => ?_
  · have room := allRoom short
    simp only [Room, atStart] at room ⊢
    omega
  rw [atStart, Token.ofCuts_cutsOf] at isFound
  obtain ⟨tokens, last⟩ := found
  refine ((checked_down last _).mono fun short => ?_).bind fun behind isBehind => ?_
  · have room := (allRoom short).ofCuts
    rw [Token.ofCuts_cutsOf] at room
    rw [isFound.2]
    exact room.1
  refine checked_pure ⟨isFound.1, ?_⟩
  rw [isFound.2] at isBehind
  exact congrArg ScanState.line isBehind

end Tokenizer

end ShaderPipeline
