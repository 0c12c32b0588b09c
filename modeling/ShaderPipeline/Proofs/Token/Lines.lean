import ShaderPipeline.Proofs.Token.Partition

/-!
# The lines of tokens

A token should stand on the line that the line feeds in front of it say, and the
end of the text likewise.  Every line feed of a gap is counted, and so is one in
a string, unless a backslash stands before it.  From then on all lines are
behind, by one for each such feed, and nothing else makes them differ.
-/

namespace ShaderPipeline

namespace Lexeme

/-- Line feeds behind a backslash, where a backslash takes the next character with it. -/
def escapedFeeds : List Char → Nat
  | [] => 0
  | ['\\'] => 0
  | '\\' :: escaped :: rest => (if escaped = '\n' then 1 else 0) + escapedFeeds rest
  | _ :: rest => escapedFeeds rest

theorem escapedFeeds_cons {character : Char} (notBackslash : character ≠ '\\')
    (rest : List Char) : escapedFeeds (character :: rest) = escapedFeeds rest := by
  rw [escapedFeeds]
  · rintro rfl
    exact absurd rfl notBackslash
  · rintro escaped tail rfl
    exact absurd rfl notBackslash

/-- A line feed of a lexeme is counted or has a backslash before it. -/
theorem lineBreaks_add_escapedFeeds (text : List Char) :
    lineBreaks text + escapedFeeds text = text.count '\n' := by
  fun_induction lineBreaks text with
  | case1 => rfl
  | case2 rest ih =>
      rw [escapedFeeds_cons (by decide), List.count_cons_self, ← ih]
      omega
  | case3 => rfl
  | case4 escaped rest ih =>
      rw [escapedFeeds, List.count_cons_of_ne (by decide), List.count_cons, ← ih]
      simp only [beq_iff_eq]
      omega
  | case5 character rest notFeed isLast notEscape ih =>
      have notBackslash : character ≠ '\\' := by
        rintro rfl
        cases rest with
        | nil => exact isLast rfl rfl
        | cons escaped rest => exact notEscape escaped rest rfl rfl
      rw [escapedFeeds_cons notBackslash, List.count_cons_of_ne notFeed, ih]

theorem escapedFeeds_of_notMem {text : List Char} (noBackslash : '\\' ∉ text) :
    escapedFeeds text = 0 := by
  induction text with
  | nil => rfl
  | cons character rest ih =>
      rw [List.mem_cons, not_or] at noBackslash
      rw [escapedFeeds_cons (Ne.symm noBackslash.1), ih noBackslash.2]

/-- Only a string has a line feed behind a backslash. -/
theorem escapedFeeds_next {first : Char} {rest : List Char}
    (notString : (next first rest).1.kind ≠ .string) :
    escapedFeeds (next first rest).1.text = 0 := by
  by_cases isBackslash : first = '\\'
  · rw [isBackslash, next_backslash]
    rfl
  · exact escapedFeeds_of_notMem
      (notMem_next (fun _ => rfl) (by decide) (by decide) (Ne.symm isBackslash) notString)

end Lexeme

namespace Token

/-- The line feeds inside a token that no line is counted for. -/
def feedsLost (token : Token) : Nat :=
  Lexeme.escapedFeeds token.text.toList

/-- The line feeds inside some tokens that no line is counted for. -/
def feedsLostIn : List Token → Nat
  | [] => 0
  | token :: tokens => token.feedsLost + feedsLostIn tokens

theorem feedsLostIn_eq_zero_iff {tokens : List Token} :
    feedsLostIn tokens = 0 ↔ ∀ token ∈ tokens, token.feedsLost = 0 := by
  induction tokens with
  | nil => simp [feedsLostIn]
  | cons token tokens ih =>
      rw [feedsLostIn, Nat.add_eq_zero_iff, ih, List.forall_mem_cons]

theorem line_skip {gap : List Filler} {rest : List Char} (run : Filler.Run gap rest)
    (state : ScanState) :
    (state.skip gap).line = state.line + (gap.flatMap Filler.text).count '\n' := by
  rw [← run.count.1]
  rfl

theorem line_across (state : ScanState) (gap : List Filler) (text : List Char) :
    (state.across gap text).line = (state.skip gap).line + Lexeme.lineBreaks text := by
  have before := (state.skip gap).beforeToken_le (String.ofList text)
  have after := ((state.skip gap).beforeToken (String.ofList text)).afterToken_le
    (String.ofList text)
  rw [ScanState.across, ScanState.down, after.1, before.1]

section Placed

variable {state final : ScanState} {text : List Char} {items : List (List Filler × Token)}
  {last : List Filler}

/-- What a token and its gap add to the line. -/
theorem line_across_add {gap : List Filler} {lexeme : Lexeme} {rest : List Char}
    (run : Filler.Run gap (lexeme.text ++ rest)) (state : ScanState) :
    (state.across gap lexeme.text).line + (ofLexeme (state.skip gap) gap lexeme).feedsLost =
      state.line + (gap.flatMap Filler.text ++ lexeme.text).count '\n' := by
  have inside := Lexeme.lineBreaks_add_escapedFeeds lexeme.text
  rw [line_across, line_skip run, feedsLost, text_ofLexeme, List.count_append]
  omega

theorem Placed.line_add_feedsLostIn (placed : Placed state text items last final)
    {before behind : List (List Filler × Token)} {gap : List Filler} {token : Token}
    (isSplit : items = before ++ (gap, token) :: behind) :
    token.line + feedsLostIn (before.map (·.2)) =
      state.line + (textOf before ++ gap.flatMap Filler.text).count '\n' := by
  induction placed generalizing before with
  | last run => simp at isSplit
  | @token state final here last lexeme rest items run cuts placed ih =>
      cases before with
      | nil =>
          cases isSplit
          exact line_skip run state
      | cons item before =>
          cases isSplit
          have earlier := line_across_add run state
          have later := ih rfl
          rw [List.map_cons, feedsLostIn, textOf_cons, text_ofLexeme]
          simp only [List.count_append] at earlier later ⊢
          omega

theorem Placed.final_line_add_feedsLostIn (placed : Placed state text items last final) :
    final.line + feedsLostIn (items.map (·.2)) = state.line + text.count '\n' := by
  induction placed with
  | last run => exact line_skip run _
  | @token state final here last lexeme rest items run cuts placed ih =>
      have earlier := line_across_add run state
      rw [List.map_cons, feedsLostIn]
      simp only [List.count_append] at earlier ⊢
      omega

/-- Lines never go back. -/
theorem Placed.lines_ascend (placed : Placed state text items last final) :
    (∀ item ∈ items, state.line ≤ item.2.line) ∧
      items.Pairwise fun first second => first.2.line ≤ second.2.line := by
  induction placed with
  | last run => exact ⟨fun _ member => absurd member List.not_mem_nil, .nil⟩
  | @token state final gap last lexeme rest items run cuts placed ih =>
      obtain ⟨later, ascend⟩ := ih
      have here : state.line ≤ (state.skip gap).line := by
        rw [line_skip run]
        exact Nat.le_add_right _ _
      have behind : ∀ item ∈ items, (state.skip gap).line ≤ item.2.line := by
        intro item member
        have onward := later item member
        rw [line_across] at onward
        omega
      refine ⟨List.forall_mem_cons.mpr ⟨here, fun item member => ?_⟩,
        List.pairwise_cons.mpr ⟨behind, ascend⟩⟩
      exact here.trans (behind item member)

end Placed

theorem lines_scan_ascend (source : String) :
    (scan source).Pairwise fun first second => first.line ≤ second.line := by
  obtain ⟨final, placed, -⟩ := placed_scan source
  rw [← map_snd_scanWithGaps, List.pairwise_map]
  exact placed.lines_ascend.2

theorem kind_of_feedsLost {source : String} {token : Token} (member : token ∈ scan source)
    (loses : token.feedsLost ≠ 0) : token.kind = .string := by
  obtain ⟨rest, -, first, tail, isText, cut⟩ := (written_scan source).exists_cuts member
  by_contra notString
  refine loses ?_
  have plain : (Lexeme.next first (tail ++ rest)).1.kind ≠ .string →
      Lexeme.escapedFeeds (Lexeme.next first (tail ++ rest)).1.text = 0 :=
    Lexeme.escapedFeeds_next
  rw [cut] at plain
  exact plain notString

/-- Every token and the end of the text are on the line that the line feeds in front
of them say. -/
def LinesExact (source : String) : Prop :=
  (∀ before gap token behind, scanWithGaps source = before ++ (gap, token) :: behind →
    token.line = 1 + (textOf before ++ gap.flatMap Filler.text).count '\n') ∧
  endLine source = 1 + source.toList.count '\n'

/-- Lines are behind by the feeds that stand behind a backslash in an earlier string,
so they are exact if and only if there is none. -/
theorem lines_lag_by_feedsLost (source : String) :
    (∀ before gap token behind, scanWithGaps source = before ++ (gap, token) :: behind →
      CutAt source (textOf before ++ gap.flatMap Filler.text) token ∧
      token.line + feedsLostIn (before.map (·.2)) =
        1 + (textOf before ++ gap.flatMap Filler.text).count '\n') ∧
    endLine source + feedsLostIn (scan source) = 1 + source.toList.count '\n' ∧
    (∀ token ∈ scan source, token.feedsLost ≠ 0 → token.kind = .string) ∧
    (LinesExact source ↔ ∀ token ∈ scan source, token.feedsLost = 0) := by
  obtain ⟨final, placed, isEnd⟩ := placed_scan source
  have ended := placed.final_line_add_feedsLostIn
  rw [isEnd, map_snd_scanWithGaps] at ended
  refine ⟨?_, ended, fun token member => kind_of_feedsLost member, ?_, ?_⟩
  · intro before gap token behind isSplit
    have partition := placed.partition
    rw [isSplit] at partition
    obtain ⟨rest, whole⟩ := partition.append_of_mem
    exact ⟨cutAt_of_append whole, placed.line_add_feedsLostIn isSplit⟩
  · rintro ⟨-, exactEnd⟩
    rw [← feedsLostIn_eq_zero_iff]
    change _ = 1 + _ at ended
    omega
  · intro noneLost
    constructor
    · intro before gap token behind isSplit
      have line := placed.line_add_feedsLostIn isSplit
      have noneBefore : feedsLostIn (before.map (·.2)) = 0 := by
        refine feedsLostIn_eq_zero_iff.mpr fun earlier member => noneLost earlier ?_
        rw [← map_snd_scanWithGaps, isSplit, List.map_append]
        exact List.mem_append_left _ member
      rw [noneBefore] at line
      exact line
    · rw [feedsLostIn_eq_zero_iff.mpr noneLost] at ended
      exact ended

/-- Behind a string with an escaped line feed the second line counts as the first. -/
theorem escaped_feed_uncounted :
    (scan "\"\\\n\" x").map (fun token => (token.text, token.line)) =
      [("\"\\\n\"", 1), ("x", 1)] ∧
    endLine "\"\\\n\" x" = 1 ∧ ¬ LinesExact "\"\\\n\" x" := by
  have ended : endLine "\"\\\n\" x" = 1 := by decide +kernel
  refine ⟨by decide +kernel, ended, ?_⟩
  rintro ⟨-, exactEnd⟩
  rw [ended] at exactEnd
  revert exactEnd
  decide +kernel

end Token

end ShaderPipeline
