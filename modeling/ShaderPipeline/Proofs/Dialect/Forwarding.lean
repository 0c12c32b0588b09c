import ShaderPipeline.Proofs.Dialect.Passages

/-!
# What a forwarded declaration keeps

A declaration that is handed from stage to stage is read without a semantic.  Its
words and its brackets are written again, and whatever else stands in front of the
semicolon is passed over without a report.  So nothing is lost if nothing or one
semantic is passed over, and in all other cases something is.
-/

namespace ShaderPipeline

open Dialect Declaration

/-- Nothing is left out of a list of tokens but one colon with a name behind it. -/
inductive LeavesOut : List Token → List Token → Prop
  | nothing (tokens : List Token) : LeavesOut tokens tokens
  | semantic (before behind : List Token) {colon name : Token} (isColon : colon.text = ":")
      (isName : name.kind = .name) :
      LeavesOut (before ++ colon :: name :: behind) (before ++ behind)

/-- The texts of a statement, at most one semantic apart, are among those that were copied,
and in the same order. -/
def Survives (statement copied : List Token) : Prop :=
  ∃ kept, LeavesOut statement kept ∧
    (kept.map (·.text)).Sublist (copied.map (·.text))

/-- A colon with a name behind it. -/
def IsSemantic (tokens : List Token) : Prop :=
  ∃ colon name, tokens = [colon, name] ∧ colon.text = ":" ∧ name.kind = .name

/-- One pair of brackets in front of other tokens.  Brackets that are not closed reach to
the end of the text. -/
inductive BracketGroup : List Token → List Token → Prop
  | absent (after : List Token) : BracketGroup [] after
  | closed {opening closing : Token} {inside : List Token} (opens : opening.text = "[")
      (closes : closing.text = "]") (noneInside : ∀ token ∈ inside, token.text ≠ "]")
      (after : List Token) : BracketGroup (opening :: (inside ++ [closing])) after
  | unclosed {opening : Token} {inside : List Token} (opens : opening.text = "[")
      (noneInside : ∀ token ∈ inside, token.text ≠ "]") : BracketGroup (opening :: inside) []

/-- The tokens in front of the next semicolon. -/
def statement (tokens : List Token) : List Token :=
  tokens.takeWhile (·.text != ";")

/-- How a forwarded declaration is read behind its keyword. -/
structure Forwards (tokens words brackets passed rest : List Token) : Prop where
  parts : tokens = words ++ (brackets ++ (passed ++ rest))
  areNames : ∀ token ∈ words, token.kind = .name
  group : BracketGroup brackets (passed ++ rest)
  noEnd : ∀ token ∈ passed, token.text ≠ ";"
  atEnd : ∀ token ∈ rest.head?, token.text = ";"

theorem splitBrackets_inside (tokens : List Token) :
    (∃ inside closing, (splitBrackets tokens).1 = inside ++ [closing] ∧ closing.text = "]" ∧
        ∀ token ∈ inside, token.text ≠ "]") ∨
      (splitBrackets tokens).2 = [] ∧ ∀ token ∈ (splitBrackets tokens).1, token.text ≠ "]" := by
  induction tokens with
  | nil => exact Or.inr ⟨rfl, by simp [splitBrackets]⟩
  | cons token tokens ih =>
      unfold splitBrackets
      by_cases closes : token.text = "]"
      · rw [if_pos closes]
        exact Or.inl ⟨[], token, rfl, closes, by simp⟩
      · rw [if_neg closes]
        rcases ih with ⟨inside, closing, isInside, isClosing, noneInside⟩ | ⟨ended, noneInside⟩
        · refine Or.inl ⟨token :: inside, closing, ?_, isClosing, ?_⟩
          · simp [isInside]
          · simpa [closes] using noneInside
        · exact Or.inr ⟨ended, by simpa [closes] using noneInside⟩

theorem arraySuffix_group (tokens : List Token) :
    ∃ brackets, tokens = brackets ++ (arraySuffix tokens).2 ∧
      (arraySuffix tokens).1 = String.join (brackets.map (·.text)) ∧
      BracketGroup brackets (arraySuffix tokens).2 := by
  cases tokens with
  | nil => exact ⟨[], rfl, rfl, .absent _⟩
  | cons token tokens =>
      by_cases opens : token.text = "["
      · rw [arraySuffix, if_pos opens]
        refine ⟨token :: (splitBrackets tokens).1, ?_, ?_, ?_⟩
        · rw [List.cons_append, splitBrackets_append]
        · rw [List.map_cons, String.join_cons, opens]
        · rcases splitBrackets_inside tokens with
            ⟨inside, closing, isInside, closes, noneInside⟩ | ⟨ended, noneInside⟩
          · dsimp only
            rw [isInside]
            exact .closed opens closes noneInside _
          · dsimp only
            rw [ended]
            exact .unclosed opens noneInside
      · rw [arraySuffix, if_neg opens]
        exact ⟨[], rfl, rfl, .absent _⟩

/-- Behind its type, a declaration without a semantic has a name and perhaps brackets. -/
theorem parseName_forwards {line : Nat} {type : String} {tokens : List Token}
    (silent : (parseName line false type tokens).problem = none) :
    ∃ name brackets passed rest, Forwards tokens [name] brackets passed rest ∧
      (parseName line false type tokens).slot =
        some ⟨type, name.text, none, String.join (brackets.map (·.text))⟩ ∧
      (parseName line false type tokens).rest = rest.tail := by
  cases tokens with
  | nil => cases silent
  | cons name tokens =>
      by_cases isName : name.kind = .name
      · obtain ⟨brackets, parts, isText, group⟩ := arraySuffix_group tokens
        have isRead : parseName line false type (name :: tokens) =
            ⟨some ⟨type, name.text, none, (arraySuffix tokens).1⟩, none,
              skipStatement (arraySuffix tokens).2⟩ := by
          rw [parseName, if_pos isName]
          rfl
        rw [isRead]
        have whole := List.takeWhile_append_dropWhile
          (p := fun token : Token => token.text != ";") (l := (arraySuffix tokens).2)
        refine ⟨name, brackets, statement (arraySuffix tokens).2,
          (arraySuffix tokens).2.dropWhile (·.text != ";"), ?_, ?_, rfl⟩
        · constructor
          · rw [statement, whole, ← parts]
            rfl
          · simpa using isName
          · rwa [statement, whole]
          · intro token member
            simpa using List.mem_takeWhile_imp member
          · intro token isHead
            have stops := List.head?_dropWhile_not (fun token : Token => token.text != ";")
              (arraySuffix tokens).2
            rw [Option.mem_def.mp isHead] at stops
            simpa using stops
        · rw [isText]
      · rw [parseName, if_neg isName] at silent
        cases silent

theorem Forwards.cons {tokens words brackets passed rest : List Token}
    (forwards : Forwards tokens words brackets passed rest) {word : Token}
    (isName : word.kind = .name) :
    Forwards (word :: tokens) (word :: words) brackets passed rest where
  parts := congrArg (word :: ·) forwards.parts
  areNames := by
    intro token member
    rcases List.mem_cons.mp member with rfl | member
    · exact isName
    · exact forwards.areNames token member
  group := forwards.group
  noEnd := forwards.noEnd
  atEnd := forwards.atEnd

/-- A declaration without a semantic that is read without a problem. -/
theorem parse_forwards {line : Nat} {tokens : List Token}
    (silent : (parse line false tokens).problem = none) :
    ∃ words brackets passed rest slot, Forwards tokens words brackets passed rest ∧
      (parse line false tokens).slot = some slot ∧
      declaredText slot = " ".intercalate (words.map (·.text)) ++
        (String.join (brackets.map (·.text)) ++ ";") ∧
      (parse line false tokens).rest = rest.tail := by
  cases tokens with
  | nil => cases silent
  | cons first tokens =>
      by_cases isName : first.kind = .name
      · by_cases isPrecision : first.text ∈ precisions
        · cases tokens with
          | nil =>
              rw [parse, if_pos isName, if_pos isPrecision] at silent
              cases silent
          | cons second tokens =>
              by_cases isType : second.kind = .name
              · have isRead : parse line false (first :: second :: tokens) =
                    parseName line false (first.text ++ " " ++ second.text) tokens := by
                  rw [parse, if_pos isName, if_pos isPrecision]
                  exact if_pos isType
                rw [isRead] at silent ⊢
                obtain ⟨name, brackets, passed, rest, forwards, isSlot, isRest⟩ :=
                  parseName_forwards silent
                refine ⟨[first, second, name], brackets, passed, rest, _,
                  (forwards.cons isType).cons isName, isSlot, ?_, isRest⟩
                have isWords : " ".intercalate [first.text, second.text, name.text] =
                    first.text ++ " " ++ second.text ++ " " ++ name.text := rfl
                simp only [declaredText, List.map_cons, List.map_nil, isWords,
                  String.append_assoc]
              · have isRead : parse line false (first :: second :: tokens) =
                    ⟨none, some (first.line, .typeMissingAfter first.text),
                      skipStatement (second :: tokens)⟩ := by
                  rw [parse, if_pos isName, if_pos isPrecision]
                  exact if_neg isType
                rw [isRead] at silent
                cases silent
        · have isRead : parse line false (first :: tokens) =
              parseName line false first.text tokens := by
            simp [parse, isName, isPrecision]
          rw [isRead] at silent ⊢
          obtain ⟨name, brackets, passed, rest, forwards, isSlot, isRest⟩ :=
            parseName_forwards silent
          refine ⟨[first, name], brackets, passed, rest, _, forwards.cons isName, isSlot, ?_,
            isRest⟩
          have isWords : " ".intercalate [first.text, name.text] =
              first.text ++ " " ++ name.text := rfl
          simp only [declaredText, List.map_cons, List.map_nil, isWords, String.append_assoc]
      · simp [parse, isName] at silent

theorem Token.isName_of_mem_scan {source : String} {token : Token}
    (member : token ∈ Token.scan source) (isKind : token.kind = .name) :
    IsName token.text.toList := by
  obtain ⟨rest, cuts⟩ := (Token.written_scan source).exists_cuts member
  exact (name_of_cuts cuts isKind).1

theorem not_isName_of_mark {text mark : String} (isName : IsName text.toList)
    (notName : isNameText mark.toList = false) : text ≠ mark := by
  rintro rfl
  rw [IsName, notName] at isName
  cases isName

/-- What follows an element that occurs only once follows it in a part of the list, too. -/
theorem sublist_behind {α : Type} {element : α} {before behind ahead rest : List α}
    (included : (before ++ element :: behind).Sublist (ahead ++ element :: rest))
    (once : element ∉ ahead) : behind.Sublist rest := by
  obtain ⟨first, second, isSplit, inAhead, inRest⟩ := List.sublist_append_iff.mp included
  have notFirst : element ∉ first := fun member => once (inAhead.subset member)
  -- The element is in the second part, so all behind it is there, too.
  rcases List.append_eq_append_iff.mp isSplit with ⟨middle, rfl, isRest⟩ | ⟨middle, rfl, rfl⟩
  · cases middle with
    | nil =>
        rw [List.nil_append] at isRest
        rw [← isRest] at inRest
        exact List.cons_sublist_cons.mp inRest
    | cons head middle =>
        cases isRest
        exact absurd (List.mem_append_right _ List.mem_cons_self) notFirst
  · exact List.cons_sublist_cons.mp ((List.sublist_append_right _ _).trans inRest)

namespace Forwards

variable {tokens words brackets passed rest : List Token}

/-- A semicolon between the brackets ends the statement there. -/
theorem statement_within (forwards : Forwards tokens words brackets passed rest)
    (inside : ∃ token ∈ brackets, token.text = ";") :
    (statement tokens).Sublist (words ++ brackets) := by
  obtain ⟨semicolon, member, isEnd⟩ := inside
  obtain ⟨before, behind, isSplit⟩ := List.append_of_mem (List.mem_append_right words member)
  have parts : tokens = before ++ semicolon :: (behind ++ (passed ++ rest)) := by
    rw [forwards.parts, ← List.append_assoc, isSplit]
    simp
  rw [parts, isSplit, statement, List.takeWhile_append]
  split
  · rw [List.takeWhile_cons_of_neg (by simp [isEnd]), List.append_nil]
    exact List.sublist_append_left _ _
  · exact (List.takeWhile_sublist _).trans (List.sublist_append_left _ _)

theorem statement_eq (forwards : Forwards tokens words brackets passed rest)
    (noneInside : ∀ token ∈ words ++ brackets, token.text ≠ ";") :
    statement tokens = words ++ brackets ++ passed := by
  have stops : rest.takeWhile (·.text != ";") = [] := by
    cases rest with
    | nil => rfl
    | cons semicolon rest =>
        have isEnd := forwards.atEnd semicolon rfl
        exact List.takeWhile_cons_of_neg (by simp [isEnd])
  rw [forwards.parts, ← List.append_assoc, statement, List.takeWhile_append_of_pos,
    List.takeWhile_append_of_pos, stops, List.append_nil]
  · simpa using forwards.noEnd
  · simpa using noneInside

theorem text_ne_of_word (forwards : Forwards tokens words brackets passed rest)
    (named : ∀ token ∈ tokens, token.kind = .name → IsName token.text.toList) {mark : String}
    (notName : isNameText mark.toList = false) : ∀ token ∈ words, token.text ≠ mark := by
  intro token member
  have inTokens : token ∈ tokens := by
    rw [forwards.parts]
    exact List.mem_append_left _ member
  exact not_isName_of_mark (named token inTokens (forwards.areNames token member)) notName

/-- If the semantic that is left out starts between the brackets, nothing is passed over: the
closing bracket is copied only once. -/
theorem passed_eq_nil_of_inside (forwards : Forwards tokens words brackets passed rest)
    (named : ∀ token ∈ tokens, token.kind = .name → IsName token.text.toList)
    {before middle behind : List Token} {colon name : Token} (isColon : colon.text = ":")
    (isName : name.kind = .name) (isCopied : words ++ brackets = before ++ colon :: middle)
    (isBehind : name :: behind = middle ++ passed)
    (included : ((before ++ behind).map (·.text)).Sublist
      ((words ++ brackets).map (·.text))) : passed = [] := by
  have nameText : name.text ≠ "]" := by
    have inTokens : name ∈ tokens := by
      have member : name ∈ middle ++ passed := isBehind ▸ List.mem_cons_self
      rw [forwards.parts, ← List.append_assoc, isCopied]
      grind
    exact not_isName_of_mark (named name inTokens isName) rfl
  have group := forwards.group
  generalize isAfter : passed ++ rest = after at group
  cases group with
  | absent =>
      have member : colon ∈ words := by
        rw [List.append_nil] at isCopied
        rw [isCopied]
        simp
      exact absurd isColon (forwards.text_ne_of_word named rfl colon member)
  | unclosed opens noneInside => exact (List.append_eq_nil_iff.mp isAfter).1
  | @closed opening closing inside opens closes noneInside =>
      have once : "]" ∉ (words ++ opening :: inside).map (·.text) := by
        intro member
        obtain ⟨token, member, isText⟩ := List.mem_map.mp member
        rcases List.mem_append.mp member with inWords | inBrackets
        · exact forwards.text_ne_of_word named rfl token inWords isText
        · rcases List.mem_cons.mp inBrackets with rfl | inside
          · rw [opens] at isText
            exact absurd isText (by decide)
          · exact noneInside token inside isText
      have isConcat : (words ++ opening :: inside) ++ [closing] = before ++ colon :: middle := by
        simpa using isCopied
      rcases List.eq_nil_or_concat middle with rfl | ⟨middle, last, rfl⟩
      · obtain ⟨-, same⟩ := List.append_inj' isConcat rfl
        cases same
        rw [closes] at isColon
        exact absurd isColon (by decide)
      · rw [List.concat_eq_append] at isBehind
        rw [List.concat_eq_append, ← List.cons_append, ← List.append_assoc] at isConcat
        obtain ⟨-, same⟩ := List.append_inj' isConcat rfl
        cases same
        cases middle with
        | nil =>
            cases isBehind
            exact absurd closes nameText
        | cons second middle =>
            cases isBehind
            have split : ((before ++ middle).map (·.text) ++ "]" :: passed.map (·.text)).Sublist
                ((words ++ opening :: inside).map (·.text) ++ "]" :: []) := by
              simpa [closes] using included
            have none := List.sublist_nil.mp (sublist_behind split once)
            exact List.map_eq_nil_iff.mp none

/-- A semantic that is left out of the statement is passed over, unless nothing is. -/
theorem isSemantic_of_survives (forwards : Forwards tokens words brackets passed rest)
    (named : ∀ token ∈ tokens, token.kind = .name → IsName token.text.toList)
    (survives : Survives (words ++ brackets ++ passed) (words ++ brackets)) :
    passed = [] ∨ IsSemantic passed := by
  obtain ⟨kept, leavesOut, included⟩ := survives
  generalize isWhole : words ++ brackets ++ passed = whole at leavesOut
  cases leavesOut with
  | nothing =>
      -- The whole statement would fit into the part that was copied.
      have shorter := included.length_le
      rw [← isWhole] at shorter
      simp only [List.length_map, List.length_append] at shorter
      exact Or.inl (List.eq_nil_of_length_eq_zero (by omega))
  | @semantic before behind colon name isColon isName =>
      have shorter := included.length_le
      simp only [List.length_map, List.length_append] at shorter
      rcases List.append_eq_append_iff.mp isWhole with
        ⟨middle, rfl, isPassed⟩ | ⟨middle, isCopied, isBehind⟩
      · -- The semantic is among the tokens passed over, and there is room for no other.
        simp only [List.length_append] at shorter
        have noMiddle : middle = [] := List.eq_nil_of_length_eq_zero (by omega)
        have noBehind : behind = [] := List.eq_nil_of_length_eq_zero (by omega)
        subst noMiddle noBehind
        exact Or.inr ⟨colon, name, isPassed, isColon, isName⟩
      · cases middle with
        | nil =>
            rw [List.append_nil] at isCopied
            have sameLength := congrArg List.length isCopied
            rw [List.length_append] at sameLength
            have noBehind : behind = [] := List.eq_nil_of_length_eq_zero (by omega)
            subst noBehind
            exact Or.inr ⟨colon, name, isBehind.symm, isColon, isName⟩
        | cons head middle =>
            obtain ⟨rfl, isTail⟩ := List.cons.inj isBehind
            exact Or.inl (forwards.passed_eq_nil_of_inside named isColon isName isCopied isTail
              included)

/-- Nothing is lost exactly if nothing or one semantic is passed over, or if the statement
ends between the brackets. -/
theorem survives_iff (forwards : Forwards tokens words brackets passed rest)
    (named : ∀ token ∈ tokens, token.kind = .name → IsName token.text.toList) :
    Survives (statement tokens) (words ++ brackets) ↔
      (∃ token ∈ brackets, token.text = ";") ∨ passed = [] ∨ IsSemantic passed := by
  by_cases inside : ∃ token ∈ brackets, token.text = ";"
  · have survives : Survives (statement tokens) (words ++ brackets) :=
      ⟨_, .nothing _, (forwards.statement_within inside).map _⟩
    exact ⟨fun _ => Or.inl inside, fun _ => survives⟩
  · have noneInside : ∀ token ∈ words ++ brackets, token.text ≠ ";" := by
      intro token member isEnd
      rcases List.mem_append.mp member with inWords | inBrackets
      · exact forwards.text_ne_of_word named rfl token inWords isEnd
      · exact inside ⟨token, inBrackets, isEnd⟩
    rw [forwards.statement_eq noneInside]
    constructor
    · exact fun survives => Or.inr (forwards.isSemantic_of_survives named survives)
    · rintro (isInside | rfl | ⟨colon, name, rfl, isColon, isName⟩)
      · exact absurd isInside inside
      · exact ⟨_, .nothing _, by simp⟩
      · exact ⟨_, .semantic (words ++ brackets) [] isColon isName, by simp⟩

end Forwards

/-- Recasting a stage arrives at some tokens, with a body written so far. -/
inductive Arrives (caps : Capabilities) (stage : Stage) (source : String) :
    Body → List Token → Prop
  | start : Arrives caps stage source {} (Token.scan source)
  | declared {written : Body} {keyword : Token} {direction : Direction} {behind : List Token}
      (before : Arrives caps stage source written (keyword :: behind))
      (declares : keyword.declares? = some direction) :
      Arrives caps stage source
        (written.append (Body.ofDeclaration caps stage direction keyword.separator
          (Declaration.parse keyword.line (stage.records direction) behind)))
        (Declaration.parse keyword.line (stage.records direction) behind).rest
  | kept {written : Body} {token : Token} {behind : List Token}
      (before : Arrives caps stage source written (token :: behind))
      (notDeclares : token.declares? = none) :
      Arrives caps stage source
        (written.append { pieces := [token.separator, tokenText caps stage written.slots token] })
        behind

namespace Arrives

variable {caps : Capabilities} {stage : Stage} {source : String} {written : Body}
  {tokens : List Token}

theorem suffix (arrives : Arrives caps stage source written tokens) :
    tokens <:+ Token.scan source := by
  induction arrives with
  | start => exact List.suffix_refl _
  | declared before declares ih =>
      exact ((Declaration.parse_suffix _ _ _).trans (List.suffix_cons _ _)).trans ih
  | kept before notDeclares ih => exact (List.suffix_cons _ _).trans ih

/-- What is written later goes behind what was written so far. -/
theorem ofSource_eq (arrives : Arrives caps stage source written tokens) :
    Body.ofSource caps stage source =
      written.append (Body.ofTokens caps stage written.slots tokens) := by
  induction arrives with
  | start => rfl
  | declared before declares ih =>
      rw [ih, Body.ofTokens_declares declares]
      simp [Body.append]
  | kept before notDeclares ih =>
      rw [ih, Body.ofTokens_kept notDeclares]
      simp [Body.append]

end Arrives

/-- A forwarded declaration that is read without a problem is written with its words and its
first brackets.  Of its other tokens none is written, and none is reported. -/
theorem forwarded_survives_iff {source : String} {caps : Capabilities} {stage : Stage}
    {written : Body} {behind : List Token} {keyword : Token} {direction : Direction}
    (arrives : Arrives caps stage source written (keyword :: behind))
    (declares : keyword.declares? = some direction) (unrecorded : stage.records direction = false)
    (silent : (Declaration.parse keyword.line false behind).problem = none) :
    ∃ words brackets passed rest, Forwards behind words brackets passed rest ∧
      (recastStage caps stage source).text = header caps stage ++ (written.text ++
        (keyword.separator ++ (forwardedWords caps.version direction ++
          (" ".intercalate (words.map (·.text)) ++
            (String.join (brackets.map (·.text)) ++ ";"))) ++
        (Body.ofTokens caps stage written.slots rest.tail).text)) ∧
      (Survives (statement behind) (words ++ brackets) ↔
        (∃ token ∈ brackets, token.text = ";") ∨ passed = [] ∨ IsSemantic passed) := by
  obtain ⟨words, brackets, passed, rest, slot, forwards, isSlot, isText, isRest⟩ :=
    parse_forwards silent
  refine ⟨words, brackets, passed, rest, forwards, ?_, forwards.survives_iff ?_⟩
  · obtain ⟨isWritten, noSlots⟩ := ofDeclaration_eq caps stage direction keyword.separator
      (Declaration.parse keyword.line (stage.records direction) behind)
    rw [recastStage, arrives.ofSource_eq, Body.ofTokens_declares declares]
    dsimp only
    rw [Body.text_append, Body.text_append, isWritten, noSlots, unrecorded, isRest]
    simp [Passage.ofDeclaration, isSlot, Passage.text, Passage.recorded?, unrecorded, isText]
  · intro token member isKind
    have inScan : token ∈ Token.scan source :=
      arrives.suffix.subset (List.mem_cons_of_mem keyword member)
    exact Token.isName_of_mem_scan inScan isKind

/-- Of two names that one declaration lists, the second is lost. -/
theorem second_name_lost :
    (statement (Token.scan "out vec2 a, b;").tail).map (·.text) = ["vec2", "a", ",", "b"] ∧
      Body.ofSource .gl33 .vertex "out vec2 a, b;" = { pieces := ["", "out vec2 a;"] } := by
  decide +kernel

theorem forwarded_survives_iff_second_name :
    let keyword : Token := ⟨"out", .name, false, 0, 0, 1, 0, 0⟩
    let behind := (Token.scan "out vec2 a, b;").tail
    Arrives .gl33 .vertex "out vec2 a, b;" {} (keyword :: behind) ∧
    (Declaration.parse 1 false behind).problem = none ∧
    ∃ words brackets passed rest, Forwards behind words brackets passed rest ∧
      (recastStage .gl33 .vertex "out vec2 a, b;").text = header .gl33 .vertex ++
        (Body.text {} ++ (keyword.separator ++ (forwardedWords Capabilities.gl33.version .output ++
          (" ".intercalate (words.map (·.text)) ++
            (String.join (brackets.map (·.text)) ++ ";"))) ++
        (Body.ofTokens .gl33 .vertex [] rest.tail).text)) ∧
      (Survives (statement behind) (words ++ brackets) ↔
        (∃ token ∈ brackets, token.text = ";") ∨ passed = [] ∨ IsSemantic passed) := by
  intro keyword behind
  have isScan : Token.scan "out vec2 a, b;" = keyword :: behind := by decide +kernel
  have arrives : Arrives .gl33 .vertex "out vec2 a, b;" {} (keyword :: behind) := by
    rw [← isScan]
    exact .start
  have silent : (Declaration.parse keyword.line false behind).problem = none := by
    decide +kernel
  exact ⟨arrives, silent, forwarded_survives_iff arrives rfl rfl silent⟩

end ShaderPipeline
