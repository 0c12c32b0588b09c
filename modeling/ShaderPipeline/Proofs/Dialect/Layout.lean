import ShaderPipeline.Proofs.Dialect.Recasting

/-!
# Reading layout back

Where a stage declares nothing, recasting keeps its tokens and writes the filler
between them anew.  This file cuts the written text up again.  Each token is
found behind the layout that was written for it, with one exception: a backslash
that stands alone takes a line feed behind it for a continuation.
-/

namespace ShaderPipeline

open Lexeme

namespace Filler

/-- The pieces that written layout is made of. -/
def isPlain : Filler → Bool
  | .blank character => character == ' ' || character == '\t'
  | .lineBreak => true
  | .continuation carriageReturn => !carriageReturn
  | _ => false

theorem eq_of_isPlain_blank {character : Char} (plain : isPlain (.blank character)) :
    character = ' ' ∨ character = '\t' := by
  have either : (character == ' ' || character == '\t') = true := plain
  simpa using either

theorem next?_of_isPlain {piece : Filler} (plain : piece.isPlain) (rest : List Char) :
    next? (piece.text ++ rest) = some (piece, rest) := by
  cases piece with
  | blank character => rcases eq_of_isPlain_blank plain with rfl | rfl <;> rfl
  | lineBreak => rfl
  | continuation carriageReturn =>
      cases carriageReturn with
      | false => rfl
      | true => cases plain
  | lineComment body => cases plain
  | blockComment body closed => cases plain

theorem head?_ne_of_isPlain {piece : Filler} (plain : piece.isPlain) (rest : List Char) :
    (piece.text ++ rest).head? ≠ some '\r' := by
  intro isReturn
  obtain ⟨tail, isText⟩ := List.head?_eq_some_iff.mp isReturn
  have found := next?_of_isPlain plain rest
  rw [isText] at found
  have isBlank : next? ('\r' :: tail) = some (.blank '\r', tail) := rfl
  rw [isBlank] at found
  cases found
  cases plain

theorem next?_backslash {rest : List Char} (notFeed : rest.head? ≠ some '\n')
    (notReturn : rest.head? ≠ some '\r') : next? ('\\' :: rest) = none := by
  unfold next?
  split
  · next isText => cases isText
  · next isText =>
      cases isText
      exact absurd rfl notFeed
  · next isText =>
      cases isText
      exact absurd rfl notReturn
  · next isText => cases isText
  · next isText => cases isText
  · next isText =>
      cases isText
      rfl
  · rfl

theorem continuationsIn_append (first second : List Filler) :
    continuationsIn (first ++ second) = continuationsIn first + continuationsIn second := by
  induction first with
  | nil => simp [continuationsIn]
  | cons piece first ih =>
      simp only [List.cons_append, continuationsIn, ih]
      omega

/-- Continuations, each behind a blank, in front of some filler. -/
def continued (filler : List Filler) : Nat → List Filler
  | 0 => filler
  | count + 1 => .blank ' ' :: .continuation false :: continued filler count

theorem continuationsIn_continued (filler : List Filler) (count : Nat) :
    continuationsIn (continued filler count) = count + continuationsIn filler := by
  induction count with
  | zero => simp [continued]
  | succ count ih =>
      simp only [continued, continuationsIn, continuations, ih]
      omega

theorem lineBreaksIn_continued (filler : List Filler) (count : Nat) :
    lineBreaksIn (continued filler count) = lineBreaksIn filler := by
  induction count with
  | zero => rfl
  | succ count ih => simp [continued, lineBreaksIn, lineBreaks, ih]

theorem continued_append (filler rest : List Filler) (count : Nat) :
    continued filler count ++ rest = continued (filler ++ rest) count := by
  induction count with
  | zero => rfl
  | succ count ih => simp [continued, ih]

theorem continued_add (filler : List Filler) (first second : Nat) :
    continued filler (first + second) = continued (continued filler second) first := by
  induction first with
  | zero => simp [continued]
  | succ first ih => rw [Nat.succ_add, continued, continued, ih]

theorem continuationsIn_tabs (depth : Nat) :
    continuationsIn (List.replicate depth (.blank '\t')) = 0 := by
  induction depth with
  | zero => rfl
  | succ depth ih => simp [List.replicate_succ, continuationsIn, continuations, ih]

theorem lineBreaksIn_tabs (depth : Nat) :
    lineBreaksIn (List.replicate depth (.blank '\t')) = 0 := by
  induction depth with
  | zero => rfl
  | succ depth ih => simp [List.replicate_succ, lineBreaksIn, lineBreaks, ih]

theorem continued_inj {first second : List Filler} {count : Nat} :
    continued first count = continued second count ↔ first = second := by
  induction count with
  | zero => rfl
  | succ count ih => simp [continued, ih]

end Filler

namespace Token

/-- The layout in front of a token that no continuation stands before. -/
def lead (token : Token) : List Filler :=
  if 0 < token.linesCrossed then .lineBreak :: List.replicate token.braceDepth (.blank '\t')
  else if token.spaced && token.continuations == 0 then [.blank ' ']
  else []

/-- The layout in front of a token, piece by piece. -/
def layout (token : Token) : List Filler :=
  Filler.continued token.lead token.continuations

/-- A token is written as the first of its line. -/
def startsLine (token : Token) : Bool :=
  token.continuations == 0 && decide (0 < token.linesCrossed)

theorem startsLine_iff {token : Token} :
    token.startsLine ↔ token.continuations = 0 ∧ 0 < token.linesCrossed := by
  simp [startsLine]

theorem plain_lead (token : Token) : ∀ piece ∈ token.lead, piece.isPlain := by
  intro piece member
  unfold lead at member
  split at member
  · rcases List.mem_cons.mp member with rfl | isTab
    · rfl
    · rw [(List.mem_replicate.mp isTab).2]
      rfl
  · split at member
    · rw [List.mem_singleton.mp member]
      rfl
    · cases member

theorem plain_layout (token : Token) : ∀ piece ∈ token.layout, piece.isPlain := by
  unfold layout
  induction token.continuations with
  | zero => exact token.plain_lead
  | succ count ih =>
      intro piece member
      simp only [Filler.continued, List.mem_cons] at member
      rcases member with rfl | rfl | member
      · rfl
      · rfl
      · exact ih piece member

theorem toList_lead (token : Token) :
    (if 0 < token.linesCrossed then
        "\n" ++ String.ofList (List.replicate token.braceDepth '\t')
      else if token.spaced && token.continuations == 0 then " "
      else "").toList = token.lead.flatMap Filler.text := by
  unfold lead
  split
  · have tabs : ∀ depth, List.replicate depth '\t' =
        (List.replicate depth (Filler.blank '\t')).flatMap Filler.text := by
      intro depth
      induction depth with
      | zero => rfl
      | succ depth ih => simp [List.replicate_succ, Filler.text, ih]
    simp [Filler.text, tabs]
  · split <;> rfl

theorem toList_separator (token : Token) :
    token.separator.toList = token.layout.flatMap Filler.text := by
  unfold separator layout
  rw [String.toList_append, toList_lead]
  induction token.continuations with
  | zero => rfl
  | succ count ih =>
      rw [List.replicate_succ, String.join_cons, String.toList_append, List.append_assoc, ih]
      rfl

theorem separator_eq_blank_iff (token : Token) :
    token.separator = " " ↔ token.layout = [.blank ' '] := by
  rw [← String.toList_inj, toList_separator]
  refine ⟨fun isBlank => ?_, fun isBlank => by rw [isBlank]; rfl⟩
  -- The first piece that is not one blank shows in the text.
  unfold layout lead at isBlank ⊢
  generalize token.continuations = count at isBlank ⊢
  cases count with
  | succ count => simp [Filler.continued, Filler.text] at isBlank
  | zero =>
      simp only [Filler.continued] at isBlank ⊢
      split at isBlank
      · simp [Filler.text] at isBlank
      · next notCrossed =>
          rw [if_neg notCrossed]
          split at isBlank
          · next spaced => rw [if_pos spaced]
          · simp at isBlank

theorem head?_layout_iff (token : Token) :
    token.layout.head? = some .lineBreak ↔ token.startsLine := by
  rw [startsLine_iff]
  unfold layout lead
  cases token.continuations with
  | succ count => simp [Filler.continued]
  | zero =>
      simp only [Filler.continued]
      split
      · next crossed => simp [crossed]
      · next notCrossed => split <;> simp [notCrossed]

theorem continuationsIn_layout (token : Token) :
    Filler.continuationsIn token.layout = token.continuations := by
  have none : Filler.continuationsIn token.lead = 0 := by
    unfold lead
    split
    · simp [Filler.continuationsIn, Filler.continuations, Filler.continuationsIn_tabs]
    · split <;> rfl
  rw [layout, Filler.continuationsIn_continued, none, Nat.add_zero]

theorem lineBreaksIn_layout (token : Token) :
    Filler.lineBreaksIn token.layout = if 0 < token.linesCrossed then 1 else 0 := by
  rw [layout, Filler.lineBreaksIn_continued]
  unfold lead
  split
  · simp [Filler.lineBreaksIn, Filler.lineBreaks, Filler.lineBreaksIn_tabs]
  · split <;> rfl

theorem layout_eq_nil_iff (token : Token) :
    token.layout = [] ↔
      token.continuations = 0 ∧ token.linesCrossed = 0 ∧ token.spaced = false := by
  unfold layout lead
  cases token.continuations with
  | succ count => simp [Filler.continued]
  | zero =>
      simp only [Filler.continued]
      split
      · simp
        omega
      · next notCrossed =>
          have none : token.linesCrossed = 0 := by omega
          split <;> simp_all

/-- A token that stands behind written layout has this layout again. -/
theorem layout_of_layout {token again : Token} (spaced : again.spaced = !token.layout.isEmpty)
    (crossed : again.linesCrossed = Filler.lineBreaksIn token.layout)
    (continued : again.continuations = Filler.continuationsIn token.layout)
    (depth : again.braceDepth = token.braceDepth) : again.layout = token.layout := by
  rw [continuationsIn_layout] at continued
  rw [lineBreaksIn_layout] at crossed
  have isLead : again.lead = token.lead := by
    unfold lead
    rw [crossed, depth, continued, spaced]
    by_cases wasCrossed : 0 < token.linesCrossed
    · simp [wasCrossed]
    · by_cases wasContinued : token.continuations = 0
      · have none : token.linesCrossed = 0 := by omega
        have isEmpty : token.layout.isEmpty = !token.spaced := by
          rw [Bool.eq_iff_iff, List.isEmpty_iff, layout_eq_nil_iff]
          simp [wasContinued, none]
        simp [wasCrossed, wasContinued, isEmpty]
      · simp [wasCrossed, wasContinued]
  rw [layout, layout, isLead, continued]

/-- A token as it is written: its layout and its lexeme. -/
def item (token : Token) : List Filler × Lexeme :=
  (token.layout, token.lexeme)

/-- Some tokens as they are written one after another. -/
def laidOut (tokens : List Token) : LexedText :=
  ⟨tokens.map item, []⟩

theorem toChars_laidOut_cons (token : Token) (tokens : List Token) :
    (laidOut (token :: tokens)).toChars =
      token.layout.flatMap Filler.text ++ (token.lexeme.text ++ (laidOut tokens).toChars) :=
  LexedText.toChars_cons _ _ _ _

theorem resumes_laidOut {tokens : List Token} {text : List Char} (written : Written tokens text) :
    Resumes text (laidOut tokens).toChars := by
  induction written with
  | nil text => exact .ended text
  | cons follows cuts written ih =>
      rw [toChars_laidOut_cons, ← toList_separator]
      exact resumes_separator follows (ih.append _)

theorem head?_laidOut_ne {tokens : List Token} {text : List Char} (written : Written tokens text) :
    (laidOut tokens).toChars.head? ≠ some '\r' := by
  cases written with
  | nil => exact (Option.some_ne_none _).symm
  | @cons token tokens gap rest follows cuts written =>
      rw [toChars_laidOut_cons]
      cases isLayout : token.layout with
      | cons piece layout =>
          have plain : piece.isPlain := token.plain_layout piece (by simp [isLayout])
          rw [List.flatMap_cons, List.append_assoc]
          exact Filler.head?_ne_of_isPlain plain _
      | nil =>
          obtain ⟨noFiller, first, tail, isText, -⟩ := cuts
          rintro isReturn
          rw [List.flatMap_nil, List.nil_append, isText, List.cons_append, List.head?_cons,
            Option.some.injEq] at isReturn
          subst isReturn
          rw [isText] at noFiller
          cases noFiller

end Token

namespace LexedText

/-- Puts an item in front of others.  A backslash joins a line break that starts the first of
them. -/
def putBefore (item : List Filler × Lexeme) :
    List (List Filler × Lexeme) → List (List Filler × Lexeme)
  | (.lineBreak :: indent, next) :: rest =>
      if item.2.text = ['\\'] then (item.1 ++ .continuation false :: indent, next) :: rest
      else item :: (.lineBreak :: indent, next) :: rest
  | items => item :: items

/-- What is found where the items were written. -/
def rejoin (items : List (List Filler × Lexeme)) : List (List Filler × Lexeme) :=
  items.foldr putBefore []

/-- The first item starts a line. -/
def OpensLine (items : List (List Filler × Lexeme)) : Prop :=
  ∃ indent next rest, items = (.lineBreak :: indent, next) :: rest

theorem rejoin_cons (item : List Filler × Lexeme) (items : List (List Filler × Lexeme)) :
    rejoin (item :: items) = putBefore item (rejoin items) :=
  rfl

theorem putBefore_of_ne {item : List Filler × Lexeme} (notBackslash : item.2.text ≠ ['\\'])
    (items : List (List Filler × Lexeme)) : putBefore item items = item :: items := by
  unfold putBefore
  split
  · rw [if_neg notBackslash]
  · rfl

theorem putBefore_of_not {item : List Filler × Lexeme} {items : List (List Filler × Lexeme)}
    (noLine : item.2.text = ['\\'] → ¬ OpensLine items) : putBefore item items = item :: items := by
  by_cases isBackslash : item.2.text = ['\\']
  · unfold putBefore
    split
    · exact absurd ⟨_, _, _, rfl⟩ (noLine isBackslash)
    · rfl
  · exact putBefore_of_ne isBackslash items

theorem putBefore_line {item : List Filler × Lexeme} (isBackslash : item.2.text = ['\\'])
    (indent : List Filler) (next : Lexeme) (rest : List (List Filler × Lexeme)) :
    putBefore item ((.lineBreak :: indent, next) :: rest) =
      (item.1 ++ .continuation false :: indent, next) :: rest :=
  if_pos isBackslash

/-- An item stays as it is, or it is a backslash and joins the line break behind it. -/
theorem putBefore_cases (item : List Filler × Lexeme) (items : List (List Filler × Lexeme)) :
    (putBefore item items = item :: items ∧ (item.2.text = ['\\'] → ¬ OpensLine items)) ∨
      ∃ indent next rest, item.2.text = ['\\'] ∧ items = (.lineBreak :: indent, next) :: rest ∧
        putBefore item items = (item.1 ++ .continuation false :: indent, next) :: rest := by
  by_cases joins : item.2.text = ['\\'] ∧ OpensLine items
  · obtain ⟨isBackslash, indent, next, rest, rfl⟩ := joins
    exact Or.inr ⟨indent, next, rest, isBackslash, rfl, putBefore_line isBackslash indent next rest⟩
  · have noLine : item.2.text = ['\\'] → ¬ OpensLine items :=
      fun isBackslash isLine => joins ⟨isBackslash, isLine⟩
    exact Or.inl ⟨putBefore_of_not noLine, noLine⟩

theorem rejoin_of_noBackslash {items : List (List Filler × Lexeme)}
    (noBackslash : ∀ item ∈ items, item.2.text ≠ ['\\']) : rejoin items = items := by
  induction items with
  | nil => rfl
  | cons item items ih =>
      rw [rejoin_cons, ih fun item member => noBackslash item (List.mem_cons_of_mem _ member),
        putBefore_of_ne (noBackslash item List.mem_cons_self)]

/-- Joining leaves the layout of the first item in place. -/
theorem opensLine_rejoin_cons (item : List Filler × Lexeme)
    (items : List (List Filler × Lexeme)) :
    OpensLine (rejoin (item :: items)) ↔ item.1.head? = some .lineBreak := by
  rw [rejoin_cons]
  rcases putBefore_cases item (rejoin items) with ⟨isKept, -⟩ | ⟨line, next, rest, -, -, isJoined⟩
  · rw [isKept]
    obtain ⟨filler, lexeme⟩ := item
    constructor
    · rintro ⟨indent, next, rest, isItem⟩
      cases isItem
      rfl
    · intro isHead
      obtain ⟨indent, rfl⟩ := List.head?_eq_some_iff.mp isHead
      exact ⟨indent, lexeme, _, rfl⟩
  · rw [isJoined]
    constructor
    · rintro ⟨indent, next', rest', joined⟩
      cases isFiller : item.1 with
      | nil => simp [isFiller] at joined
      | cons piece filler => simp_all
    · intro isHead
      obtain ⟨filler, isFiller⟩ := List.head?_eq_some_iff.mp isHead
      exact ⟨filler ++ .continuation false :: line, next, rest, by rw [isFiller]; rfl⟩

theorem prepend_nil (lexed : LexedText) : lexed.prepend [] = lexed := by
  obtain ⟨items, trailing⟩ := lexed
  cases items <;> rfl

theorem ofChars_plain {filler : List Filler} (plain : ∀ piece ∈ filler, piece.isPlain)
    (rest : List Char) :
    ofChars (filler.flatMap Filler.text ++ rest) = (ofChars rest).prepend filler := by
  induction filler with
  | nil => exact (prepend_nil _).symm
  | cons piece filler ih =>
      have found := Filler.next?_of_isPlain (plain piece List.mem_cons_self)
        (filler.flatMap Filler.text ++ rest)
      rw [List.flatMap_cons, List.append_assoc, ofChars_of_filler found,
        ih fun piece member => plain piece (List.mem_cons_of_mem _ member)]
      obtain ⟨items, trailing⟩ := ofChars rest
      cases items <;> rfl

theorem cuts_backslash {lexeme : Lexeme} {rest behind : List Char} (cuts : lexeme.Cuts rest)
    (isBackslash : lexeme.text = ['\\']) (noFiller : Filler.next? ('\\' :: behind) = none) :
    lexeme.Cuts behind := by
  obtain ⟨-, first, tail, isText, cut⟩ := cuts
  obtain ⟨rfl, rfl⟩ := List.cons.inj (isBackslash.symm.trans isText)
  refine ⟨by rw [isBackslash]; exact noFiller, '\\', [], isBackslash, ?_⟩
  rw [next_backslash, Prod.mk.injEq] at cut
  rw [next_backslash, cut.1]
  rfl

/-- A backslash takes a line feed away from the text behind it. -/
theorem ofChars_backslash {lexeme : Lexeme} {rest behind : List Char}
    {items : List (List Filler × Lexeme)} (cuts : lexeme.Cuts rest)
    (isBackslash : lexeme.text = ['\\']) (noReturn : behind.head? ≠ some '\r')
    (isLexed : ofChars behind = ⟨items, []⟩) (filler : List Filler) :
    (ofChars (lexeme.text ++ behind)).prepend filler =
      ⟨putBefore (filler, lexeme) items, []⟩ := by
  by_cases isFeed : behind.head? = some '\n'
  · obtain ⟨tail, rfl⟩ := List.head?_eq_some_iff.mp isFeed
    have feed := ofChars_of_filler (rfl : Filler.next? ('\n' :: tail) = some (.lineBreak, tail))
    have joined := ofChars_of_filler
      (rfl : Filler.next? ('\\' :: '\n' :: tail) = some (.continuation false, tail))
    rw [isLexed] at feed
    rw [isBackslash, List.singleton_append, joined]
    cases isTail : ofChars tail with
    | mk items' trailing =>
        rw [isTail] at feed
        cases items' with
        | nil => simp [prepend] at feed
        | cons first items' =>
            simp only [prepend, LexedText.mk.injEq] at feed
            obtain ⟨rfl, isEmpty⟩ := feed
            rw [List.singleton_append, putBefore_line isBackslash, ← isEmpty]
            rfl
  · have noFiller := Filler.next?_backslash isFeed noReturn
    have noLine : ¬ OpensLine items := by
      rintro ⟨indent, next, rest', rfl⟩
      have whole := toChars_ofChars behind
      rw [isLexed, toChars_cons] at whole
      exact isFeed (by rw [← whole]; rfl)
    rw [ofChars_of_cuts (cuts_backslash cuts isBackslash noFiller), isLexed,
      putBefore_of_not fun _ => noLine]
    simp [prepend]

/-- What is read where some tokens were laid out. -/
theorem ofChars_laidOut {tokens : List Token} {text : List Char}
    (written : Token.Written tokens text) :
    ofChars (Token.laidOut tokens).toChars = ⟨rejoin (tokens.map Token.item), []⟩ := by
  induction written with
  | nil text =>
      have ended : (Filler.scan []).2 = [] := by rw [Filler.scan_of_none rfl]
      exact (ofChars_of_nil ended).trans (by rw [Filler.scan_of_none rfl]; rfl)
  | @cons token tokens gap rest follows cuts written ih =>
      rw [Token.toChars_laidOut_cons, ofChars_plain token.plain_layout, List.map_cons,
        rejoin_cons]
      by_cases isBackslash : token.lexeme.text = ['\\']
      · exact ofChars_backslash cuts isBackslash (Token.head?_laidOut_ne written) ih _
      · have resumes := Token.resumes_laidOut written
        have kept : putBefore token.item (rejoin (tokens.map Token.item)) =
            token.item :: rejoin (tokens.map Token.item) := putBefore_of_ne isBackslash _
        rw [ofChars_of_cuts (cuts.resume isBackslash resumes), ih, kept]
        simp [prepend, Token.item]

end LexedText

namespace Dialect.Body

/-- Where nothing is declared, the tokens are laid out as they are. -/
theorem toList_text_ofTokens (caps : Capabilities) (stage : Stage) {tokens : List Token}
    (plain : ∀ token ∈ tokens, token.declares? = none) :
    (ofTokens caps stage [] tokens).text.toList = (Token.laidOut tokens).toChars := by
  induction tokens with
  | nil =>
      rw [ofTokens]
      rfl
  | cons token tokens ih =>
      have sameText : tokenText caps stage [] token = token.text := by
        unfold tokenText
        split <;> rfl
      rw [text_ofTokens_kept caps stage [] (plain token List.mem_cons_self), sameText,
        Token.toChars_laidOut_cons, String.toList_append, String.toList_append,
        Token.toList_separator, ih fun token member => plain token (List.mem_cons_of_mem _ member)]
      rfl

end Dialect.Body

end ShaderPipeline
