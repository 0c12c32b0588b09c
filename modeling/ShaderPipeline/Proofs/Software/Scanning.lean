import ShaderPipeline.Proofs.Dialect.Relaying
import ShaderPipeline.Proofs.Software.Source

/-!
# Two scans of one text

A stage is scanned twice on its way: token by token when it is recast, and for
directives and uniforms by the software device.  Without strings and backslashes
both scans see the same comments and the same line ends, so that the device finds
in a recast text what it would find in the source.
-/

namespace ShaderPipeline.Software

open Text Token LexedText

section Separation

/-- A piece of filler in a text without backslashes. -/
def isOrdinary : Filler → Bool
  | .blank character => Filler.isBlank character
  | .continuation _ => false
  | _ => true

theorem isOrdinary_of_next? {text rest : List Char} {piece : Filler} (noBackslash : '\\' ∉ text)
    (found : Filler.next? text = some (piece, rest)) : isOrdinary piece := by
  unfold Filler.next? at found
  split at found
  · cases found
    rfl
  · exact absurd List.mem_cons_self noBackslash
  · exact absurd List.mem_cons_self noBackslash
  · cases found
    rfl
  · cases found
    rfl
  · split at found
    · next blank =>
        cases found
        exact blank
    · cases found
  · cases found

theorem isBlank_of_filler {character : Char} (blank : Filler.isBlank character) :
    isBlank character ∧ character ≠ '\n' := by
  simp only [Filler.isBlank, Bool.or_eq_true, beq_iff_eq, or_assoc] at blank
  rcases blank with rfl | rfl | rfl | rfl | rfl <;> decide

theorem isBlank_of_mem_stripped {piece : Filler} (ordinary : isOrdinary piece) {character : Char}
    (member : character ∈ stripped piece) : isBlank character := by
  cases piece with
  | blank other =>
      rw [List.mem_singleton.mp member]
      exact (isBlank_of_filler ordinary).1
  | lineBreak =>
      rw [List.mem_singleton.mp member]
      rfl
  | continuation carriageReturn => cases ordinary
  | lineComment body => cases member
  | blockComment body closed =>
      rcases List.mem_append.mp member with inside | isLast
      · have isFeed : character = '\n' := by simpa using (List.mem_filter.mp inside).2
        rw [isFeed]
        rfl
      · rw [List.mem_singleton.mp isLast]
        rfl

theorem feed_mem_stripped_iff {piece : Filler} (ordinary : isOrdinary piece) :
    '\n' ∈ stripped piece ↔ 0 < piece.lineBreaks := by
  cases piece with
  | blank character =>
      have notFeed := (isBlank_of_filler ordinary).2
      simp [stripped, Filler.text, Filler.lineBreaks, notFeed.symm]
  | lineBreak => simp [stripped, Filler.text, Filler.lineBreaks]
  | continuation carriageReturn => cases ordinary
  | lineComment body => simp [stripped, Filler.lineBreaks]
  | blockComment body closed => simp [stripped, Filler.lineBreaks, List.count_pos_iff]

/-- What the device sees of the filler in front of `rest`. -/
structure Separates (filler : List Filler) (rest : List Char) : Prop where
  noContinuation : Filler.continuationsIn filler = 0
  blank : ∀ character ∈ filler.flatMap stripped, isBlank character
  crosses : '\n' ∈ filler.flatMap stripped ↔ 0 < Filler.lineBreaksIn filler
  visible : rest ≠ [] → filler ≠ [] → filler.flatMap stripped ≠ []

/-- A line comment leaves nothing, but a line break follows it. -/
theorem stripped_append_ne_nil {text rest : List Char} {piece : Filler}
    (found : Filler.next? text = some (piece, rest)) (goesOn : (Filler.scan rest).2 ≠ []) :
    stripped piece ++ (Filler.scan rest).1.flatMap stripped ≠ [] := by
  unfold Filler.next? at found
  split at found
  · cases found
    exact List.cons_ne_nil _ _
  · cases found
    exact List.cons_ne_nil _ _
  · cases found
    exact List.cons_ne_nil _ _
  · next tail =>
      cases found
      have stops := List.head?_dropWhile_not (· != '\n') tail
      cases isRest : tail.dropWhile (· != '\n') with
      | nil =>
          rw [isRest, Filler.scan_of_none rfl] at goesOn
          exact absurd rfl goesOn
      | cons character rest =>
          rw [isRest] at stops
          have isFeed : character = '\n' := by simpa using stops
          subst isFeed
          rw [Filler.scan_of_some (rfl : Filler.next? ('\n' :: rest) = some (.lineBreak, rest))]
          exact List.cons_ne_nil _ _
  · cases found
    simp [stripped]
  · split at found
    · cases found
      exact List.cons_ne_nil _ _
    · cases found
  · cases found

theorem continuations_of_isOrdinary {piece : Filler} (ordinary : isOrdinary piece) :
    piece.continuations = 0 := by
  cases piece with
  | continuation carriageReturn => cases ordinary
  | _ => rfl

theorem separates_scan (text : List Char) (noBackslash : '\\' ∉ text) :
    Separates (Filler.scan text).1 (Filler.scan text).2 := by
  fun_induction Filler.scan text with
  | case1 text noFiller =>
      exact ⟨rfl, by simp, by simp [Filler.lineBreaksIn], fun _ isNil => absurd rfl isNil⟩
  | case2 text piece rest found pieces after skipped ih =>
      have ordinary := isOrdinary_of_next? noBackslash found
      rw [← Filler.text_append_of_next? found, List.mem_append, not_or] at noBackslash
      have goesOn := stripped_append_ne_nil found
      have behind := ih noBackslash.2
      rw [skipped] at behind goesOn
      constructor
      · have rest := behind.noContinuation
        rw [Filler.continuationsIn, continuations_of_isOrdinary ordinary, rest]
      · intro character member
        rcases List.mem_append.mp member with inside | inside
        · exact isBlank_of_mem_stripped ordinary inside
        · exact behind.blank character inside
      · have rest := behind.crosses
        simp only at rest
        rw [List.flatMap_cons, List.mem_append, feed_mem_stripped_iff ordinary, rest,
          Filler.lineBreaksIn]
        omega
      · exact fun notEnd _ => goesOn notEnd

end Separation

/-- The layout of a token that no continuation stands before. -/
theorem gap_layout (token : Token) (notContinued : token.continuations = 0)
    (spaced : token.spaced) :
    IsGap (token.layout.flatMap Filler.text) ∧
      ('\n' ∈ token.layout.flatMap Filler.text ↔ 0 < token.linesCrossed) := by
  have isLayout : token.layout = token.lead := by
    rw [layout, notContinued]
    rfl
  rw [isLayout, lead]
  split
  · next crossed =>
      refine ⟨⟨List.cons_ne_nil _ _, ?_⟩, iff_of_true List.mem_cons_self crossed⟩
      intro character member
      simp only [List.flatMap_cons, Filler.text, List.singleton_append, List.mem_cons,
        List.mem_flatMap, List.mem_replicate] at member
      rcases member with rfl | ⟨piece, ⟨-, rfl⟩, inside⟩
      · rfl
      · rw [List.mem_singleton.mp inside]
        rfl
  · next notCrossed =>
      have isText : [Filler.blank ' '].flatMap Filler.text = [' '] := rfl
      rw [if_pos (by simp [spaced, notContinued]), isText]
      exact ⟨⟨List.cons_ne_nil _ _, List.forall_mem_singleton.mpr rfl⟩,
        iff_of_false (by simp) notCrossed⟩

/-- The layout that is written sets the lexemes of a text apart as its filler does. -/
theorem respaced_relaid (text : List Char) (noBackslash : '\\' ∉ text) (state : ScanState) :
    Respaced (strippedText (ofChars text)) (toChars ⟨relaid state (ofChars text).items, []⟩) := by
  induction text using LexedText.ofChars.induct generalizing state with
  | case1 text ended =>
      rw [ofChars_of_nil ended]
      exact .ended (separates_scan text noBackslash).blank
  | case2 text first rest goesOn cut ih =>
      have separates := separates_scan text noBackslash
      have inRest : '\\' ∉ (Lexeme.next first rest).2 := by
        obtain ⟨whole, -⟩ := Filler.scan_append text
        rw [← whole, goesOn, ← Lexeme.next_append first rest, List.mem_append,
          List.mem_append, not_or, not_or] at noBackslash
        exact noBackslash.2.2
      rw [ofChars_of_cons goesOn, strippedText_cons, relaid_cons, toChars_cons]
      have behind := (ih inRest (state.across (Filler.scan text).1
        (Lexeme.next first rest).1.text)).append (Lexeme.next first rest).1.text
      rw [goesOn] at separates
      generalize (Filler.scan text).1 = filler at separates behind ⊢
      cases filler with
      | nil => exact behind
      | cons piece pieces =>
          have visible := separates.visible (List.cons_ne_nil _ _) (List.cons_ne_nil _ _)
          have isGap : IsGap ((piece :: pieces).flatMap stripped) := ⟨visible, separates.blank⟩
          obtain ⟨isGap', crosses⟩ := gap_layout (ofLexeme (state.skip (piece :: pieces))
            (piece :: pieces) (Lexeme.next first rest).1) separates.noContinuation rfl
          exact .gap isGap isGap' (separates.crosses.trans crosses.symm) behind

theorem stripped_of_isPlain {piece : Filler} (plain : piece.isPlain) :
    stripped piece = piece.text := by
  cases piece with
  | lineComment body => cases plain
  | blockComment body closed => cases plain
  | _ => rfl

/-- Written layout has no comments. -/
theorem strippedText_laidOut (tokens : List Token) :
    strippedText (laidOut tokens) = (laidOut tokens).toChars := by
  induction tokens with
  | nil => rfl
  | cons token tokens ih =>
      have sameLayout : token.layout.flatMap stripped = token.layout.flatMap Filler.text :=
        List.flatMap_congr fun piece member => stripped_of_isPlain (token.plain_layout piece member)
      rw [toChars_laidOut_cons, ← ih, ← sameLayout]
      exact strippedText_cons _ _ _ _

theorem quote_notMem_of_isPlain {piece : Filler} (plain : piece.isPlain) : '"' ∉ piece.text := by
  cases piece with
  | blank character => rcases Filler.eq_of_isPlain_blank plain with rfl | rfl <;> simp [Filler.text]
  | lineBreak => simp [Filler.text]
  | continuation carriageReturn => cases carriageReturn <;> simp [Filler.text]
  | lineComment body => cases plain
  | blockComment body closed => cases plain

theorem quote_notMem_laidOut {tokens : List Token}
    (noQuote : ∀ token ∈ tokens, '"' ∉ token.lexeme.text) : '"' ∉ (laidOut tokens).toChars := by
  induction tokens with
  | nil => exact List.not_mem_nil
  | cons token tokens ih =>
      rw [toChars_laidOut_cons, List.mem_append, List.mem_append, not_or, not_or]
      refine ⟨?_, noQuote token List.mem_cons_self,
        ih fun token member => noQuote token (List.mem_cons_of_mem _ member)⟩
      intro inside
      obtain ⟨piece, member, inPiece⟩ := List.mem_flatMap.mp inside
      exact quote_notMem_of_isPlain (token.plain_layout piece member) inPiece

/-- A stage without strings, backslashes and declarations is scanned alike before and after it is
recast. -/
theorem scans_recast_alike (caps : Capabilities) (stage : Stage) (source : String)
    (noQuote : '"' ∉ source.toList) (noBackslash : '\\' ∉ source.toList)
    (nothing : ∀ token ∈ Token.scan source, token.declares? = none) :
    let body := (Dialect.Body.ofSource caps stage source).text
    declaredUniforms body = declaredUniforms source ∧
      ((errorDirective? body).isSome ↔ (errorDirective? source).isSome) := by
  intro body
  have written := written_scan source
  have isBody : body.toList = (laidOut (Token.scan source)).toChars :=
    Dialect.Body.toList_text_ofTokens caps stage nothing
  have noQuote' : '"' ∉ body.toList := by
    rw [isBody]
    exact quote_notMem_laidOut fun token member inside => noQuote (written.mem member inside)
  have found : ofChars body.toList = laidOut (Token.scan source) := by
    rw [isBody, ofChars_laidOut written, rejoin_of_noBackslash]
    · rfl
    · intro item member isBackslash
      obtain ⟨token, isToken, rfl⟩ := List.mem_map.mp member
      have inside : '\\' ∈ token.lexeme.text := isBackslash ▸ List.mem_singleton_self '\\'
      exact noBackslash (written.mem isToken inside)
  have respaced := respaced_relaid source.toList noBackslash {}
  have isStripped : stripComments body.toList =
      toChars ⟨relaid {} (ofChars source.toList).items, []⟩ := by
    rw [stripComments_eq_strippedText _ noQuote', found, strippedText_laidOut, relaid_scan]
    rfl
  rw [← isStripped, ← stripComments_eq_strippedText _ noQuote] at respaced
  obtain ⟨sameUniforms, sameDirective⟩ := scans_of_respaced respaced
  exact ⟨sameUniforms.symm, by rw [sameDirective]⟩

def crowdedSource : String :=
  "uniform/**/highp//*\nvec4 a [ 2]/*\n*/,b/=c;/*/ uniform int d;/**/\n#\t/*//*/error x"

theorem scans_recast_alike_crowded :
    ('"' ∉ crowdedSource.toList ∧ '\\' ∉ crowdedSource.toList ∧
        ∀ token ∈ Token.scan crowdedSource, token.declares? = none) ∧
      declaredUniforms (Dialect.Body.ofSource .gl33 .vertex crowdedSource).text =
        declaredUniforms crowdedSource ∧
      ((errorDirective? (Dialect.Body.ofSource .gl33 .vertex crowdedSource).text).isSome ↔
        (errorDirective? crowdedSource).isSome) := by
  have noQuote : '"' ∉ crowdedSource.toList := by decide +kernel
  have noBackslash : '\\' ∉ crowdedSource.toList := by decide +kernel
  have nothing : ∀ token ∈ Token.scan crowdedSource, token.declares? = none := by decide +kernel
  exact ⟨⟨noQuote, noBackslash, nothing⟩,
    scans_recast_alike .gl33 .vertex crowdedSource noQuote noBackslash nothing⟩

end ShaderPipeline.Software
