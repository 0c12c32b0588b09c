import ShaderPipeline.Proofs.Dialect.Reading
import ShaderPipeline.Proofs.Token.Lines

/-!
# What is reported about declarations

A declaration is reported if it is skipped, or if it is recorded without a location,
and then it is reported once.  The line of a report is that of a token of the
declaration, so reports stand in the order of their lines.
-/

namespace ShaderPipeline

namespace Declaration

/-- The line is that of the keyword, or that of a token in front of `rest`. -/
def Cites (keywordLine : Nat) (tokens rest : List Token) (line : Nat) : Prop :=
  line = keywordLine ∨
    ∃ token behind, token :: behind <:+ tokens ∧ rest <:+ behind ∧ token.line = line

section Cites

variable {keywordLine line : Nat} {tokens inner rest : List Token}

theorem Cites.of_suffix (cites : Cites keywordLine inner rest line) (suffix : inner <:+ tokens) :
    Cites keywordLine tokens rest line := by
  rcases cites with atKeyword | ⟨token, behind, isInner, isRest, isLine⟩
  · exact Or.inl atKeyword
  · exact Or.inr ⟨token, behind, isInner.trans suffix, isRest, isLine⟩

theorem cites_first (keywordLine : Nat) (token : Token) {behind : List Token}
    (suffix : rest <:+ behind) : Cites keywordLine (token :: behind) rest token.line :=
  Or.inr ⟨token, behind, List.suffix_refl _, suffix, rfl⟩

/-- A cited token is among those that are taken in front of `rest`. -/
theorem Cites.exists_token {taken : List Token} (cites : Cites keywordLine tokens rest line)
    (isSplit : taken ++ rest = tokens) :
    line = keywordLine ∨ ∃ token ∈ taken, token.line = line := by
  rcases cites with atKeyword | ⟨token, behind, ⟨before, isTokens⟩, ⟨between, rfl⟩, isLine⟩
  · exact Or.inl atKeyword
  · refine Or.inr ⟨token, ?_, isLine⟩
    have whole : taken ++ rest = before ++ token :: between ++ rest := by
      rw [isSplit, ← isTokens]
      simp
    rw [List.append_cancel_right whole]
    exact List.mem_append_right _ List.mem_cons_self

end Cites

theorem skipStatement_cons (token : Token) (tokens : List Token) :
    skipStatement (token :: tokens) = skipAfter token tokens := by
  by_cases ends : token.text = ";"
  · simp [skipStatement, skipAfter, ends]
  · simp [skipStatement, skipAfter, ends]

/-- A semantic is reported exactly if it gives no location. -/
theorem semantic_reports (keywordLine : Nat) (name : String) (tokens : List Token) :
    ((semantic keywordLine name tokens).2.1.isSome ↔
        (semantic keywordLine name tokens).1 = none) ∧
      ∀ problem ∈ (semantic keywordLine name tokens).2.1,
        Cites keywordLine tokens (semantic keywordLine name tokens).2.2 problem.1 := by
  unfold semantic
  split
  · exact ⟨by simp, by rintro _ ⟨⟩; exact Or.inl rfl⟩
  · next colon rest =>
      have inTokens := List.suffix_cons colon rest
      split
      · split
        · exact ⟨by simp, by rintro _ ⟨⟩; exact cites_first _ _ List.nil_suffix⟩
        · next token after =>
            split
            · split
              · exact ⟨by simp, by rintro _ ⟨⟩⟩
              · refine ⟨by simp, ?_⟩
                rintro _ ⟨⟩
                exact (cites_first _ _ (skipStatement_suffix after)).of_suffix inTokens
            · refine ⟨by simp, ?_⟩
              rintro _ ⟨⟩
              exact (cites_first _ _ (skipAfter_suffix token after)).of_suffix inTokens
      · refine ⟨by simp, ?_⟩
        rintro _ ⟨⟩
        exact cites_first _ _ (skipAfter_suffix colon rest)

/-- A declaration is reported exactly if it has no slot, or one that should have a
location and has none.  The report cites the declaration. -/
structure Reports (keywordLine : Nat) (hasSemantic : Bool) (tokens : List Token)
    (found : Declaration) : Prop where
  isSome_iff : found.problem.isSome ↔ ∀ slot ∈ found.slot, hasSemantic ∧ slot.location = none
  cites : ∀ problem ∈ found.problem, Cites keywordLine tokens found.rest problem.1

section Reports

variable {keywordLine : Nat} {hasSemantic : Bool} {tokens inner : List Token}

theorem Reports.of_suffix {found : Declaration} (reports : Reports keywordLine hasSemantic inner found)
    (suffix : inner <:+ tokens) : Reports keywordLine hasSemantic tokens found :=
  ⟨reports.isSome_iff, fun problem isProblem => (reports.cites problem isProblem).of_suffix suffix⟩

theorem reports_skipped {line : Nat} {problem : DeclarationProblem} {rest : List Token}
    (cites : Cites keywordLine tokens rest line) :
    Reports keywordLine hasSemantic tokens ⟨none, some (line, problem), rest⟩ := by
  refine ⟨by simp, ?_⟩
  rintro _ ⟨⟩
  exact cites

theorem reports_parseName (keywordLine : Nat) (hasSemantic : Bool) (type : String)
    (tokens : List Token) :
    Reports keywordLine hasSemantic tokens (parseName keywordLine hasSemantic type tokens) := by
  unfold parseName
  split
  · exact reports_skipped (Or.inl rfl)
  · next token rest =>
      split
      · have bracketed := (arraySuffix_suffix rest).trans (List.suffix_cons token rest)
        dsimp only
        split
        · next located =>
            obtain ⟨isSome_iff, cites⟩ :=
              semantic_reports keywordLine token.text (arraySuffix rest).2
            exact ⟨by simpa [located] using isSome_iff,
              fun problem isProblem => (cites problem isProblem).of_suffix bracketed⟩
        · next unlocated => exact ⟨by simp [unlocated], by rintro _ ⟨⟩⟩
      · exact reports_skipped (cites_first _ _ (skipAfter_suffix token rest))

theorem reports_parse (keywordLine : Nat) (hasSemantic : Bool) (tokens : List Token) :
    Reports keywordLine hasSemantic tokens (parse keywordLine hasSemantic tokens) := by
  unfold parse
  split
  · exact reports_skipped (Or.inl rfl)
  · next first rest =>
      have inTokens := List.suffix_cons first rest
      split
      · split
        · split
          · exact reports_skipped (cites_first _ _ List.nil_suffix)
          · next second after =>
              split
              · exact (reports_parseName _ _ _ after).of_suffix
                  ((List.suffix_cons second after).trans inTokens)
              · exact reports_skipped (cites_first _ _ (skipStatement_suffix _))
        · exact (reports_parseName _ _ _ rest).of_suffix inTokens
      · rw [skipStatement_cons]
        exact reports_skipped (cites_first _ _ (skipAfter_suffix first rest))

end Reports

end Declaration

namespace Dialect

def ReadDeclaration.last (read : ReadDeclaration) : Token :=
  read.taken.getLast?.getD read.keyword

namespace Span

/-- A declaration for which nothing but its layout is written. -/
def isSkipped : Span → Bool
  | .word _ => false
  | .declaration read => read.slot.isNone

/-- A slot is recorded that has no location. -/
def isUnlocated (stage : Stage) (span : Span) : Bool :=
  ((span.recorded? stage).map (·.location.isNone)).getD false

/-- A declaration starts with a keyword outside parentheses, a word is no such keyword. -/
def IsKeyed : Span → Prop
  | .word token => token.declares? = none
  | .declaration read => read.keyword.declares? = some read.direction

end Span

/-- The spans are those of the source, and what a target gets for the source is written and
found span by span. -/
structure IsReading (caps : Capabilities) (stage : Stage) (source : String)
    (read : List Span) : Prop where
  tokens_eq : read.flatMap Span.tokens = Token.scan source
  keyed : ∀ span ∈ read, span.IsKeyed
  text_eq : (recastStage caps stage source).text =
    header caps stage ++ String.join (writeSpans caps stage [] read)
  slots_eq : (recastStage caps stage source).slots = read.filterMap (Span.recorded? stage)
  diagnostics_eq : (recastStage caps stage source).diagnostics =
    read.filterMap (Span.diagnostic? stage)

theorem isReading_spansOf (caps : Capabilities) (stage : Stage) (source : String) :
    IsReading caps stage source (spansOf stage source) where
  tokens_eq := flatMap_tokens_spans stage (Token.scan source)
  keyed := forall_mem_spans (fun _ declares => declares) (fun _ _ _ declares => declares) _
  text_eq := by rw [recastStage_eq_writeSpans]
  slots_eq := by rw [recastStage_eq_writeSpans]
  diagnostics_eq := by rw [recastStage_eq_writeSpans]

section Spans

variable (stage : Stage) (tokens : List Token)

/-- A span is reported exactly if it is skipped or records a slot without a location. -/
theorem isSome_diagnostic?_iff : ∀ span ∈ spans stage tokens,
    (span.diagnostic? stage).isSome ↔ span.isSkipped ∨ span.isUnlocated stage := by
  refine forall_mem_spans (fun token _ => ?_) (fun keyword direction rest _ => ?_) tokens
  · simp [Span.diagnostic?, Span.isSkipped, Span.isUnlocated, Span.recorded?]
  · have reported := (Declaration.reports_parse keyword.line (stage.records direction)
      rest).isSome_iff
    simp only [Span.diagnostic?, Span.isSkipped, Span.isUnlocated, Span.recorded?,
      ReadDeclaration.behind, Option.isSome_map, reported]
    cases (Declaration.parse keyword.line (stage.records direction) rest).slot with
    | none => simp
    | some slot => by_cases isRecorded : stage.records direction <;> simp [isRecorded]

theorem not_isSkipped_of_isUnlocated {span : Span} (unlocated : span.isUnlocated stage) :
    span.isSkipped = false := by
  cases span with
  | word token => rfl
  | declaration read =>
      obtain ⟨keyword, direction, taken, slot, problem⟩ := read
      cases slot with
      | none => simp [Span.isUnlocated, Span.recorded?] at unlocated
      | some slot => rfl

/-- A report stands on the line of a token of its span. -/
theorem exists_token_of_diagnostic? : ∀ span ∈ spans stage tokens,
    ∀ diagnostic ∈ span.diagnostic? stage, ∃ token ∈ span.tokens,
      token.line = diagnostic.line := by
  refine forall_mem_spans (fun token _ => ?_) (fun keyword direction rest _ => ?_) tokens
  · exact fun _ found => absurd found (by simp [Span.diagnostic?])
  · intro diagnostic found
    obtain ⟨problem, isProblem, rfl⟩ := Option.map_eq_some_iff.mp found
    have cites := (Declaration.reports_parse keyword.line (stage.records direction) rest).cites
      problem isProblem
    rcases cites.exists_token (ReadDeclaration.taken_append stage keyword direction rest) with
      atKeyword | ⟨token, isTaken, isLine⟩
    · exact ⟨keyword, List.mem_cons_self, atKeyword.symm⟩
    · exact ⟨token, List.mem_cons_of_mem keyword isTaken, isLine⟩

end Spans

/-- Elements of two kinds that exclude each other are counted apart. -/
theorem countP_eq_add {α : Type} {either first second : α → Bool} {items : List α}
    (split : ∀ item ∈ items, either item ↔ first item ∨ second item)
    (exclusive : ∀ item ∈ items, second item → first item = false) :
    items.countP either = items.countP first + items.countP second := by
  induction items with
  | nil => rfl
  | cons item items ih =>
      rw [List.forall_mem_cons] at split exclusive
      have later := ih split.2 exclusive.2
      have here := split.1
      have apart := exclusive.1
      simp only [List.countP_cons, later]
      cases isFirst : first item <;> cases isSecond : second item <;> simp_all <;> omega

theorem ReadDeclaration.line_le_last {read : ReadDeclaration} {token : Token}
    (ascend : (read.keyword :: read.taken).Pairwise fun first second => first.line ≤ second.line)
    (member : token ∈ read.keyword :: read.taken) :
    read.keyword.line ≤ token.line ∧ token.line ≤ read.last.line := by
  obtain ⟨keyword, direction, taken, slot, problem⟩ := read
  have fromKeyword := (List.pairwise_cons.mp ascend).1
  constructor
  · rcases List.mem_cons.mp member with rfl | isTaken
    · exact Nat.le_refl _
    · exact fromKeyword token isTaken
  · rcases List.eq_nil_or_concat taken with rfl | ⟨before, final, rfl⟩
    · rw [List.mem_singleton.mp member]
      exact Nat.le_refl _
    · have isLast : ReadDeclaration.last ⟨keyword, direction, before.concat final, slot, problem⟩ =
          final := by
        simp [ReadDeclaration.last]
      rw [isLast]
      rw [List.concat_eq_append, ← List.cons_append] at ascend member
      rcases List.mem_append.mp member with isBefore | isFinal
      · exact (List.pairwise_append.mp ascend).2.2 token isBefore final List.mem_cons_self
      · rw [List.mem_singleton.mp isFinal]

/-- The declarations are read from the lexemes of the text.  Every one that is skipped or
recorded without a location is reported once, on a line that it covers, and nothing else is
reported.  Reports are in the order of their lines. -/
theorem diagnostics_account_for_declarations (caps : Capabilities) (stage : Stage)
    (source : String) :
    let recast := recastStage caps stage source
    let read := spansOf stage source
    (read.flatMap Span.tokens).map Token.lexeme =
      (LexedText.ofChars source.toList).lexemes ∧
    IsReading caps stage source read ∧
    recast.diagnostics.length =
      read.countP Span.isSkipped + recast.slots.countP (·.location.isNone) ∧
    (∀ found : ReadDeclaration, .declaration found ∈ read → found.slot.isSome →
      stage.records found.direction = false → found.problem = none) ∧
    (∀ found : ReadDeclaration, .declaration found ∈ read → ∀ problem ∈ found.problem,
      found.keyword.line ≤ problem.1 ∧ problem.1 ≤ found.last.line) ∧
    recast.diagnostics.Pairwise fun first second => first.line ≤ second.line := by
  intro recast read
  have reading : IsReading caps stage source read := isReading_spansOf caps stage source
  have ascend := Token.lines_scan_ascend source
  rw [← reading.tokens_eq, List.pairwise_flatMap] at ascend
  have reported := isSome_diagnostic?_iff stage (Token.scan source)
  have onToken := exists_token_of_diagnostic? stage (Token.scan source)
  refine ⟨?_, reading, ?_, ?_, ?_, ?_⟩
  · rw [reading.tokens_eq, Token.lexemes_scan]
  · rw [reading.diagnostics_eq, reading.slots_eq, List.length_filterMap_eq_countP,
      List.countP_filterMap]
    exact countP_eq_add reported fun span _ => not_isSkipped_of_isUnlocated stage
  · intro found member emitted unrecorded
    have silent := (reported _ member).not.mpr (by
      simp [Span.isSkipped, Span.isUnlocated, Span.recorded?, unrecorded,
        Option.isSome_iff_ne_none.mp emitted])
    simpa [Span.diagnostic?] using silent
  · intro found member problem isProblem
    obtain ⟨token, isToken, isLine⟩ := onToken _ member ⟨stage, problem.1, problem.2⟩
      (Option.mem_map_of_mem _ isProblem)
    have between := ReadDeclaration.line_le_last (ascend.1 _ member) isToken
    rwa [isLine] at between
  · rw [reading.diagnostics_eq, List.pairwise_filterMap]
    refine ascend.2.imp_of_mem fun {before after} isBefore isAfter ordered => ?_
    intro first isFirst second isSecond
    obtain ⟨token, inBefore, atFirst⟩ := onToken before isBefore first isFirst
    obtain ⟨later, inAfter, atSecond⟩ := onToken after isAfter second isSecond
    rw [← atFirst, ← atSecond]
    exact ordered token inBefore later inAfter

end Dialect

end ShaderPipeline
