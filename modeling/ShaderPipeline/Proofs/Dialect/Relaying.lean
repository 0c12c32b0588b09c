import Mathlib.Data.List.Chain
import ShaderPipeline.Proofs.Dialect.Layout

/-!
# Recasting a recast text

The layout that recasting writes is meant to be a normal form: recasting the
text again should leave it alone.  It does, but for a backslash that stands alone
in front of a line break, which is a continuation in the written text.  Recasting
twice always ends in a normal form.
-/

namespace ShaderPipeline

open Lexeme LexedText

namespace ScanState

/-- Two states inside the same brackets. -/
structure Nests (first second : ScanState) : Prop where
  paren : first.parenDepth = second.parenDepth
  brace : first.braceDepth = second.braceDepth

section Nests

variable {first second : ScanState}

theorem Nests.skip (nests : Nests first second) (filler filler' : List Filler) :
    Nests (first.skip filler) (second.skip filler') :=
  ⟨nests.paren, nests.brace⟩

theorem Nests.beforeToken (nests : Nests first second) (text : String) :
    Nests (first.beforeToken text) (second.beforeToken text) := by
  unfold ScanState.beforeToken
  split
  · exact ⟨by simp [nests.paren], nests.brace⟩
  · split
    · exact ⟨nests.paren, by simp [nests.brace]⟩
    · exact nests

theorem Nests.afterToken (nests : Nests first second) (text : String) :
    Nests (first.afterToken text) (second.afterToken text) := by
  unfold ScanState.afterToken
  split
  · exact ⟨by simp [nests.paren], nests.brace⟩
  · split
    · exact ⟨nests.paren, by simp [nests.brace]⟩
    · exact nests

theorem Nests.across (nests : Nests first second) (filler filler' : List Filler)
    (text : List Char) : Nests (first.across filler text) (second.across filler' text) := by
  have behind := ((nests.skip filler filler').beforeToken (String.ofList text)).afterToken
    (String.ofList text)
  exact ⟨behind.paren, behind.brace⟩

theorem nests_refl (state : ScanState) : Nests state state :=
  ⟨rfl, rfl⟩

theorem nests_across_backslash (state : ScanState) (filler : List Filler) :
    Nests (state.across filler ['\\']) state :=
  ⟨rfl, rfl⟩

end Nests

end ScanState

namespace Token

open ScanState

/-- Items with the layout that is written for them. -/
def relaid (state : ScanState) (items : List (List Filler × Lexeme)) :
    List (List Filler × Lexeme) :=
  (place state items).1.map item

theorem relaid_scan (source : String) :
    relaid {} (ofChars source.toList).items = (scan source).map item := by
  rw [scan_eq]
  rfl

theorem relaid_cons (state : ScanState) (filler : List Filler) (lexeme : Lexeme)
    (items : List (List Filler × Lexeme)) :
    relaid state ((filler, lexeme) :: items) =
      ((ofLexeme (state.skip filler) filler lexeme).layout, lexeme) ::
        relaid (state.across filler lexeme.text) items := by
  rw [relaid, place_cons, List.map_cons, item, lexeme_ofLexeme]
  rfl

section Nested

variable {first second : ScanState}

theorem declares?_ofLexeme (nests : Nests first second) (filler filler' : List Filler)
    (lexeme : Lexeme) :
    (ofLexeme first filler lexeme).declares? = (ofLexeme second filler' lexeme).declares? := by
  have depth : (ofLexeme first filler lexeme).parenDepth =
      (ofLexeme second filler' lexeme).parenDepth := (nests.beforeToken (String.ofList lexeme.text)).paren
  rw [declares?, declares?, depth]
  rfl

theorem layout_ofLexeme (nests : Nests first second) (filler : List Filler) (lexeme : Lexeme) :
    (ofLexeme first filler lexeme).layout = (ofLexeme second filler lexeme).layout := by
  have depth : (ofLexeme first filler lexeme).braceDepth =
      (ofLexeme second filler lexeme).braceDepth := (nests.beforeToken (String.ofList lexeme.text)).brace
  rw [layout, layout, lead, lead, depth]
  rfl

theorem layout_relaid (nests : Nests first second) (filler : List Filler) (lexeme : Lexeme) :
    (ofLexeme second (ofLexeme first filler lexeme).layout lexeme).layout =
      (ofLexeme first filler lexeme).layout := by
  apply layout_of_layout
  · rfl
  · rfl
  · rfl
  · exact (nests.beforeToken (String.ofList lexeme.text)).brace.symm

/-- Only the brackets around a text matter for its layout. -/
theorem relaid_congr (nests : Nests first second) (items : List (List Filler × Lexeme)) :
    relaid first items = relaid second items := by
  induction items generalizing first second with
  | nil => rfl
  | cons item items ih =>
      obtain ⟨filler, lexeme⟩ := item
      rw [relaid_cons, relaid_cons, layout_ofLexeme (nests.skip filler filler),
        ih (nests.across filler filler lexeme.text)]

theorem relaid_relaid (nests : Nests first second) (items : List (List Filler × Lexeme)) :
    relaid second (relaid first items) = relaid first items := by
  induction items generalizing first second with
  | nil => rfl
  | cons item items ih =>
      obtain ⟨filler, lexeme⟩ := item
      rw [relaid_cons, relaid_cons, layout_relaid (nests.skip filler _),
        ih (nests.across filler _ lexeme.text)]

end Nested

/-- No item starts a declaration. -/
def DeclareNothing (state : ScanState) (items : List (List Filler × Lexeme)) : Prop :=
  ∀ token ∈ (place state items).1, token.declares? = none

theorem declareNothing_cons {state : ScanState} {filler : List Filler} {lexeme : Lexeme}
    {items : List (List Filler × Lexeme)} :
    DeclareNothing state ((filler, lexeme) :: items) ↔
      (ofLexeme (state.skip filler) filler lexeme).declares? = none ∧
        DeclareNothing (state.across filler lexeme.text) items := by
  unfold DeclareNothing
  rw [place_cons, List.forall_mem_cons]

theorem DeclareNothing.congr {first second : ScanState} (nests : Nests first second)
    {items items' : List (List Filler × Lexeme)} (same : items.map (·.2) = items'.map (·.2))
    (nothing : DeclareNothing first items) : DeclareNothing second items' := by
  induction items generalizing first second items' with
  | nil =>
      rw [List.map_eq_nil_iff.mp same.symm]
      exact nothing
  | cons item items ih =>
      obtain ⟨filler, lexeme⟩ := item
      obtain ⟨⟨filler', lexeme'⟩, items', rfl⟩ : ∃ item' rest, items' = item' :: rest := by
        apply List.exists_cons_of_ne_nil
        rintro rfl
        cases same
      obtain ⟨rfl, sameRest⟩ := List.cons.inj same
      rw [declareNothing_cons] at nothing ⊢
      refine ⟨?_, ih (nests.across filler filler' _) sameRest nothing.2⟩
      rw [← declares?_ofLexeme (nests.skip filler filler') filler filler' lexeme]
      exact nothing.1

theorem lexemes_relaid (state : ScanState) (items : List (List Filler × Lexeme)) :
    (relaid state items).map (·.2) = items.map (·.2) := by
  rw [Token.relaid, List.map_map, ← lexemes_place state items]
  rfl

theorem DeclareNothing.relaid {state : ScanState} {items : List (List Filler × Lexeme)}
    (nothing : DeclareNothing state items) : DeclareNothing state (relaid state items) := by
  apply nothing.congr (nests_refl state)
  rw [lexemes_relaid]

/-- A backslash that joins a line break was no declaration either. -/
theorem DeclareNothing.rejoin {state : ScanState} {items : List (List Filler × Lexeme)}
    (nothing : DeclareNothing state items) : DeclareNothing state (rejoin items) := by
  induction items generalizing state with
  | nil => exact nothing
  | cons item items ih =>
      obtain ⟨filler, lexeme⟩ := item
      obtain ⟨here, behind⟩ := declareNothing_cons.mp nothing
      have kept := declareNothing_cons.mpr ⟨here, ih behind⟩
      rw [rejoin_cons]
      rcases putBefore_cases (filler, lexeme) (LexedText.rejoin items) with
        ⟨isKept, -⟩ | ⟨indent, next, rest, isBackslash, isItems, isJoined⟩
      · rw [isKept]
        exact kept
      · have joined := ih behind
        rw [isItems, isBackslash] at joined
        rw [isJoined]
        apply joined.congr (nests_across_backslash state filler)
        rfl

theorem startsLine_ofLexeme {state : ScanState} {filler : List Filler} {lexeme : Lexeme} :
    (ofLexeme state filler lexeme).startsLine ↔
      Filler.continuationsIn filler = 0 ∧ 0 < Filler.lineBreaksIn filler :=
  startsLine_iff

/-- Behind a backslash, no item starts a line. -/
def Settled (items : List (List Filler × Lexeme)) : Prop :=
  items.IsChain fun item next => item.2.text = ['\\'] →
    ¬ (Filler.continuationsIn next.1 = 0 ∧ 0 < Filler.lineBreaksIn next.1)

/-- Where the first item that is read starts a line, it does so with its first piece. -/
theorem opensLine_of_first (tokens : List Token) {next : List Filler × Lexeme}
    (isFirst : next ∈ (rejoin (tokens.map item)).head?)
    (starts : Filler.continuationsIn next.1 = 0 ∧ 0 < Filler.lineBreaksIn next.1) :
    OpensLine (rejoin (tokens.map item)) := by
  cases tokens with
  | nil => cases isFirst
  | cons token tokens =>
      rw [List.map_cons, opensLine_rejoin_cons]
      have alone : next.1 = token.layout → token.item.1.head? = some .lineBreak := by
        intro isLayout
        rw [isLayout, continuationsIn_layout, lineBreaksIn_layout] at starts
        refine token.head?_layout_iff.mpr (startsLine_iff.mpr ⟨starts.1, ?_⟩)
        by_contra notCrossed
        rw [if_neg notCrossed] at starts
        omega
      rw [List.map_cons, rejoin_cons] at isFirst
      rcases putBefore_cases token.item (rejoin (tokens.map item)) with
        ⟨isKept, -⟩ | ⟨indent, lexeme, rest, -, -, isJoined⟩
      · rw [isKept] at isFirst
        cases isFirst
        exact alone rfl
      · -- The item has a continuation, so that it does not start a line.
        rw [isJoined] at isFirst
        cases isFirst
        rw [Filler.continuationsIn_append, Filler.continuationsIn, Filler.continuations] at starts
        omega

theorem settled_rejoin (tokens : List Token) : Settled (rejoin (tokens.map item)) := by
  induction tokens with
  | nil => exact .nil
  | cons token tokens ih =>
      rw [List.map_cons, rejoin_cons]
      rcases putBefore_cases token.item (rejoin (tokens.map item)) with
        ⟨isKept, noLine⟩ | ⟨indent, lexeme, rest, -, isItems, isJoined⟩
      · rw [isKept]
        exact List.isChain_cons.mpr ⟨fun next isFirst isBackslash starts =>
          noLine isBackslash (opensLine_of_first tokens isFirst starts), ih⟩
      · rw [isItems] at ih
        rw [isJoined]
        exact List.isChain_cons.mpr (List.isChain_cons.mp ih)

theorem rejoin_relaid_of_settled {state : ScanState} {items : List (List Filler × Lexeme)}
    (settled : Settled items) : rejoin (relaid state items) = relaid state items := by
  induction items generalizing state with
  | nil => rfl
  | cons item items ih =>
      obtain ⟨filler, lexeme⟩ := item
      obtain ⟨first, rest⟩ := List.isChain_cons.mp settled
      rw [relaid_cons, rejoin_cons, ih rest]
      apply putBefore_of_not
      rintro isBackslash ⟨indent, next, behind, isItems⟩
      cases items with
      | nil => cases isItems
      | cons item items =>
          obtain ⟨filler', lexeme'⟩ := item
          rw [relaid_cons] at isItems
          obtain ⟨isItem, -⟩ := List.cons.inj isItems
          have isLayout := (Prod.mk.inj isItem).1
          have opens := (head?_layout_iff _).mp (congrArg List.head? isLayout)
          exact first (filler', lexeme') rfl isBackslash (startsLine_ofLexeme.mp opens)

/-- A backslash in front of a token that starts a line is read back as a continuation.  This is
written alike only behind one blank, and where the next token is not indented. -/
def KeepsLayout (token next : Token) : Prop :=
  token.text = "\\" → next.startsLine → token.separator = " " ∧ next.braceDepth = 0

instance : DecidableRel KeepsLayout := fun token next =>
  inferInstanceAs (Decidable (token.text = "\\" → next.startsLine →
    token.separator = " " ∧ next.braceDepth = 0))

theorem layout_of_startsLine {token : Token} (starts : token.startsLine) :
    token.layout = .lineBreak :: List.replicate token.braceDepth (.blank '\t') := by
  obtain ⟨notContinued, crossed⟩ := startsLine_iff.mp starts
  rw [layout, notContinued, lead, if_pos crossed]
  rfl

/-- A continuation is written behind one blank, and with nothing else before it. -/
theorem of_joined_layout {token again : Token} {indent : List Filler} {count : Nat}
    (continued : again.continuations = token.continuations + (count + 1))
    (joined : again.layout = token.layout ++ .continuation false :: indent) :
    token.layout = [.blank ' '] ∧ indent = Filler.continued again.lead count := by
  rw [layout, layout, continued, Filler.continued_add, Filler.continued_append,
    Filler.continued_inj, Filler.continued] at joined
  have isLead : token.lead = [.blank ' '] ∧ token.continuations = 0 := by
    unfold lead at joined ⊢
    split
    · next crossed => simp [crossed] at joined
    · next notCrossed =>
        rw [if_neg notCrossed] at joined
        split
        · next spaced => exact ⟨rfl, by simpa using (Bool.and_eq_true_iff.mp spaced).2⟩
        · next notSpaced =>
            rw [if_neg notSpaced] at joined
            cases joined
  rw [isLead.1, List.singleton_append, List.cons.injEq, List.cons.injEq] at joined
  rw [layout, isLead.1, isLead.2]
  exact ⟨rfl, joined.2.2.symm⟩

/-- Where a joined item keeps its layout, one blank stood before the backslash. -/
theorem of_relaid_joined {state : ScanState} {token : Token} {indent : List Filler}
    {lexeme : Lexeme} {items : List (List Filler × Lexeme)}
    (stays : relaid state ((token.layout ++ .continuation false :: indent, lexeme) :: items) =
      (token.layout ++ .continuation false :: indent, lexeme) :: items) :
    token.layout = [.blank ' '] ∧ ∃ lead,
      indent = Filler.continued lead (Filler.continuationsIn indent) ∧
        (Filler.lineBreaksIn indent = 0 → lead = []) := by
  rw [relaid_cons, List.cons.injEq, Prod.mk.injEq] at stays
  have continued : (ofLexeme (state.skip (token.layout ++ .continuation false :: indent))
      (token.layout ++ .continuation false :: indent) lexeme).continuations =
        token.continuations + (Filler.continuationsIn indent + 1) := by
    simp only [ofLexeme, Filler.continuationsIn_append, continuationsIn_layout,
      Filler.continuationsIn, Filler.continuations]
    omega
  obtain ⟨isBlank, isIndent⟩ := of_joined_layout continued stays.1.1
  refine ⟨isBlank, _, isIndent, fun noBreak => ?_⟩
  rw [lead, if_neg, if_neg]
  · rw [continued]
    simp
  · simp [ofLexeme, isBlank, Filler.lineBreaksIn, Filler.lineBreaks, noBreak]

/-- A backslash joins the break before a token that starts a line. -/
theorem relaid_joined_iff (state : ScanState) (filler filler' : List Filler) (token : Token)
    (depth : Nat) (next : Lexeme) (items : List (List Filler × Lexeme)) :
    relaid state
        ((token.layout ++ .continuation false :: List.replicate depth (.blank '\t'), next) ::
          items) =
        (token.layout ++ .continuation false :: List.replicate depth (.blank '\t'), next) ::
          items ↔
      (token.separator = " " ∧ depth = 0) ∧
        relaid ((state.across filler ['\\']).across filler' next.text) items = items := by
  have sameBehind : ∀ pieces, relaid (state.across pieces next.text) items =
      relaid ((state.across filler ['\\']).across filler' next.text) items := fun pieces =>
    (relaid_congr ((nests_across_backslash state filler).across filler' pieces next.text) _).symm
  rw [separator_eq_blank_iff]
  constructor
  · intro stays
    obtain ⟨isBlank, lead, isTabs, noLead⟩ := of_relaid_joined stays
    rw [Filler.continuationsIn_tabs, noLead (Filler.lineBreaksIn_tabs depth)] at isTabs
    have isZero : depth = 0 := by simpa [Filler.continued] using isTabs
    rw [relaid_cons, sameBehind, List.cons.injEq] at stays
    exact ⟨⟨isBlank, isZero⟩, stays.2⟩
  · rintro ⟨⟨isBlank, rfl⟩, stays⟩
    rw [relaid_cons, sameBehind, stays, isBlank]
    rfl

/-- An item that stays as it is has the layout that was written for it. -/
theorem relaid_kept_iff {first second : ScanState} (nests : Nests first second)
    (filler : List Filler) (lexeme : Lexeme) (items : List (List Filler × Lexeme)) :
    relaid second (((ofLexeme (first.skip filler) filler lexeme).layout, lexeme) :: items) =
        ((ofLexeme (first.skip filler) filler lexeme).layout, lexeme) :: items ↔
      relaid (first.across filler lexeme.text) items = items := by
  rw [relaid_cons, layout_relaid (nests.skip filler _),
    relaid_congr (nests.across filler _ lexeme.text), List.cons.injEq]
  exact and_iff_right rfl

/-- Two backslashes in a row join two breaks, which are not written alike. -/
theorem relaid_joined_twice_ne {state : ScanState} {token next : Token} (starts : next.startsLine)
    {indent : List Filler} {lexeme last : Lexeme} {items : List (List Filler × Lexeme)}
    (isBackslash : lexeme.text = ['\\']) :
    relaid state (putBefore (token.layout, lexeme)
        ((next.layout ++ .continuation false :: indent, last) :: items)) ≠
      putBefore (token.layout, lexeme)
        ((next.layout ++ .continuation false :: indent, last) :: items) := by
  intro stays
  rw [layout_of_startsLine starts, List.cons_append, putBefore_line isBackslash] at stays
  obtain ⟨-, lead, isIndent, -⟩ := of_relaid_joined stays
  rw [Filler.continuationsIn_append, Filler.continuationsIn_tabs, Filler.continuationsIn,
    Filler.continuations, Nat.zero_add, Nat.add_comm, Filler.continued] at isIndent
  cases isDepth : next.braceDepth with
  | zero => simp [isDepth] at isIndent
  | succ depth => simp [isDepth, List.replicate_succ] at isIndent

theorem relaid_pair_iff (state : ScanState) (filler filler' : List Filler)
    (lexeme lexeme' : Lexeme) (items : List (List Filler × Lexeme)) :
    let token := ofLexeme (state.skip filler) filler lexeme
    let here := state.across filler lexeme.text
    let next := ofLexeme (here.skip filler') filler' lexeme'
    let found := rejoin ((next.layout, lexeme') :: items)
    relaid state (putBefore (token.layout, lexeme) found) =
        putBefore (token.layout, lexeme) found ↔
      KeepsLayout token next ∧ relaid here found = found := by
  intro token here next found
  have opens : OpensLine found ↔ next.startsLine :=
    (opensLine_rejoin_cons _ _).trans (head?_layout_iff next)
  have isText : token.text = "\\" ↔ lexeme.text = ['\\'] := by
    rw [← String.toList_inj]
    simp [token, ofLexeme]
  by_cases joins : lexeme.text = ['\\'] ∧ next.startsLine
  · obtain ⟨isBackslash, starts⟩ := joins
    have keeps : KeepsLayout token next ↔ token.separator = " " ∧ next.braceDepth = 0 := by
      simp [KeepsLayout, isText.mpr isBackslash, starts]
    rcases putBefore_cases (next.layout, lexeme') (rejoin items) with
      ⟨isFound, -⟩ | ⟨indent, last, rest, -, -, isFound⟩
    · have isFound : found = (next.layout, lexeme') :: rejoin items := isFound
      rw [isFound, keeps, relaid_kept_iff (nests_refl here), layout_of_startsLine starts,
        putBefore_line isBackslash]
      have joined := relaid_joined_iff state filler filler' token next.braceDepth lexeme'
        (rejoin items)
      rw [← isBackslash] at joined
      exact joined
    · have isFound : found = (next.layout ++ .continuation false :: indent, last) :: rest := isFound
      rw [isFound]
      apply iff_of_false (relaid_joined_twice_ne starts isBackslash)
      rintro ⟨-, stays⟩
      have isBlank := (of_relaid_joined stays).1
      rw [layout_of_startsLine starts] at isBlank
      cases isBlank
  · have kept : putBefore (token.layout, lexeme) found = (token.layout, lexeme) :: found :=
      putBefore_of_not fun isBackslash isLine => joins ⟨isBackslash, opens.mp isLine⟩
    have keeps : KeepsLayout token next :=
      fun isBackslash starts => absurd ⟨isText.mp isBackslash, starts⟩ joins
    rw [kept, relaid_kept_iff (nests_refl state)]
    exact (and_iff_right keeps).symm

/-- Reading a laid out text back keeps its layout exactly where no backslash stands before a line
break, or the continuation that it makes is written alike. -/
theorem relaid_rejoin_iff (state : ScanState) (items : List (List Filler × Lexeme)) :
    relaid state (rejoin (relaid state items)) = rejoin (relaid state items) ↔
      (place state items).1.IsChain KeepsLayout := by
  induction items generalizing state with
  | nil => exact ⟨fun _ => .nil, fun _ => rfl⟩
  | cons item items ih =>
      obtain ⟨filler, lexeme⟩ := item
      rw [relaid_cons, rejoin_cons, place_cons, List.isChain_cons,
        ← ih (state.across filler lexeme.text)]
      cases items with
      | nil =>
          rw [putBefore_of_not (by rintro - ⟨_, _, _, isNil⟩; cases isNil),
            relaid_kept_iff (nests_refl state)]
          exact ⟨fun stays => ⟨by rintro _ ⟨⟩, stays⟩, And.right⟩
      | cons next items =>
          obtain ⟨filler', lexeme'⟩ := next
          have onlyNext : ∀ {relation : Token → Prop} {token : Token},
              (∀ next ∈ some token, relation next) ↔ relation token := by simp
          rw [place_cons, relaid_cons, List.head?_cons, onlyNext]
          exact relaid_pair_iff state filler filler' lexeme lexeme' _

end Token

namespace Dialect.Body

open Token

section Plain

variable {source : String} (nothing : ∀ token ∈ Token.scan source, token.declares? = none)
include nothing

theorem toList_text_ofSource (caps : Capabilities) (stage : Stage) :
    (ofSource caps stage source).text.toList =
      toChars ⟨relaid {} (ofChars source.toList).items, []⟩ := by
  rw [relaid_scan]
  exact toList_text_ofTokens caps stage nothing

theorem ofChars_text_ofSource (caps : Capabilities) (stage : Stage) :
    ofChars (ofSource caps stage source).text.toList =
      ⟨rejoin (relaid {} (ofChars source.toList).items), []⟩ := by
  rw [toList_text_ofSource nothing, relaid_scan]
  exact ofChars_laidOut (written_scan source)

theorem declareNothing_text_ofSource (caps : Capabilities) (stage : Stage) :
    ∀ token ∈ Token.scan (ofSource caps stage source).text, token.declares? = none := by
  have before : DeclareNothing {} (ofChars source.toList).items := by
    rw [scan_eq] at nothing
    exact nothing
  have isItems : (ofChars (ofSource caps stage source).text.toList).items =
      rejoin (relaid {} (ofChars source.toList).items) := by
    rw [ofChars_text_ofSource nothing]
  have behind := before.relaid.rejoin
  rw [← isItems] at behind
  rw [scan_eq]
  exact behind

end Plain

/-- A recast text without declarations is recast into itself exactly where its backslashes keep
the layout.  Recasting it twice always gives a text that stays as it is. -/
theorem recast_again_iff (caps : Capabilities) (stage : Stage) (source : String)
    (nothing : ∀ token ∈ Token.scan source, token.declares? = none) :
    let body := (ofSource caps stage source).text
    let again := (ofSource caps stage body).text
    (again = body ↔ (Token.scan source).IsChain KeepsLayout) ∧
      (ofSource caps stage again).text = again := by
  intro body again
  have nothingAgain : ∀ token ∈ Token.scan body, token.declares? = none :=
    declareNothing_text_ofSource nothing caps stage
  have found : ofChars body.toList = ⟨rejoin (relaid {} (ofChars source.toList).items), []⟩ :=
    ofChars_text_ofSource nothing caps stage
  have isAgain : again.toList = toChars ⟨relaid {} (ofChars body.toList).items, []⟩ :=
    toList_text_ofSource nothingAgain caps stage
  -- The second text is read back as it was written.
  have foundAgain : ofChars again.toList = ⟨relaid {} (ofChars body.toList).items, []⟩ := by
    have settled : Settled (ofChars body.toList).items := by
      rw [found, relaid_scan]
      exact settled_rejoin (Token.scan source)
    rw [ofChars_text_ofSource nothingAgain caps stage, rejoin_relaid_of_settled settled]
  constructor
  · have stays : (Token.scan source).IsChain KeepsLayout ↔
        relaid {} (ofChars body.toList).items = (ofChars body.toList).items := by
      rw [found, scan_eq]
      exact (relaid_rejoin_iff {} (ofChars source.toList).items).symm
    rw [stays]
    constructor
    · intro same
      rw [same] at foundAgain
      exact (congrArg LexedText.items foundAgain).symm
    · intro same
      have noTrailing : (ofChars body.toList).trailing = [] := by rw [found]
      have isBody := toChars_ofChars body.toList
      rw [← String.toList_inj, isAgain, same, ← noTrailing]
      exact isBody
  · have nothingThen := declareNothing_text_ofSource nothingAgain caps stage
    have isThen := toList_text_ofSource nothingThen caps stage
    rw [← String.toList_inj, isThen, foundAgain, relaid_relaid (ScanState.nests_refl {}), isAgain]

/-- A backslash at the end of a line becomes a continuation, which is written behind a blank. -/
theorem stray_backslash_moves :
    (∀ token ∈ Token.scan "a\\ \nb", token.declares? = none) ∧
      (ofSource .gl33 .vertex "a\\ \nb").text = "a\\\nb" ∧
      (ofSource .gl33 .vertex "a\\\nb").text = "a \\\nb" := by
  decide +kernel

theorem recast_again_iff_blank :
    (∀ token ∈ Token.scan "a \\ \nb", token.declares? = none) ∧
      (Token.scan "a \\ \nb").IsChain KeepsLayout ∧
      (ofSource .gl33 .vertex (ofSource .gl33 .vertex "a \\ \nb").text).text =
        (ofSource .gl33 .vertex "a \\ \nb").text := by
  have nothing : ∀ token ∈ Token.scan "a \\ \nb", token.declares? = none := by decide +kernel
  have keeps : (Token.scan "a \\ \nb").IsChain KeepsLayout := by decide +kernel
  exact ⟨nothing, keeps, (recast_again_iff .gl33 .vertex _ nothing).1.mpr keeps⟩

end Dialect.Body

end ShaderPipeline
