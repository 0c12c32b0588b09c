import ShaderPipeline.Dialect
import ShaderPipeline.Proofs.Dialect.Recasting

/-!
# Reading before writing

Recasting a stage reads its tokens and writes text for a target in one pass.  The
two come apart: the tokens are read in spans, without a look at the target, and the
text is written span by span.  Slots and diagnostics are found by the reading alone.
-/

namespace ShaderPipeline.Dialect

/-- A declaration as it was read. -/
structure ReadDeclaration where
  keyword : Token
  direction : Direction
  /-- The tokens that were taken behind the keyword. -/
  taken : List Token
  /-- The declared slot, unless the declaration was skipped. -/
  slot : Option InterfaceSlot
  problem : Option (Nat × DeclarationProblem)
deriving Repr, DecidableEq

/-- Reads the declaration of a keyword in front of some tokens. -/
def ReadDeclaration.behind (stage : Stage) (keyword : Token) (direction : Direction)
    (tokens : List Token) : ReadDeclaration :=
  let declaration := Declaration.parse keyword.line (stage.records direction) tokens
  { keyword := keyword
    direction := direction
    taken := tokens.take (tokens.length - declaration.rest.length)
    slot := declaration.slot
    problem := declaration.problem }

/-- A stretch of the tokens of a stage. -/
inductive Span where
  /-- A token outside declarations. -/
  | word (token : Token)
  | declaration (read : ReadDeclaration)
deriving Repr, DecidableEq

namespace Span

def tokens : Span → List Token
  | .word token => [token]
  | .declaration read => read.keyword :: read.taken

def recorded? (stage : Stage) : Span → Option InterfaceSlot
  | .word _ => none
  | .declaration read => if stage.records read.direction then read.slot else none

/-- What a span has to be reported for. -/
def diagnostic? (stage : Stage) : Span → Option Diagnostic
  | .word _ => none
  | .declaration read => read.problem.map fun found => ⟨stage, found.1, found.2⟩

/-- The text that a target gets for a span, behind the declarations of `recorded`.  Of a
declaration that was skipped only the layout is left. -/
def pieces (caps : Capabilities) (stage : Stage) (recorded : List InterfaceSlot) :
    Span → List String
  | .word token => [token.separator, tokenText caps stage recorded token]
  | .declaration read => read.keyword.separator ::
      (read.slot.map (declarationText caps stage read.direction)).toList

end Span

/-- Reads the tokens of a stage. -/
def spans (stage : Stage) (tokens : List Token) : List Span :=
  match tokens with
  | [] => []
  | token :: rest =>
      match token.declares? with
      | some direction =>
          .declaration (.behind stage token direction rest) ::
            spans stage (Declaration.parse token.line (stage.records direction) rest).rest
      | none => .word token :: spans stage rest
termination_by tokens.length
decreasing_by
  · have shorter := Declaration.length_parse_rest_le token.line (stage.records direction) rest
    simp only [List.length_cons]
    omega
  · simp

def spansOf (stage : Stage) (source : String) : List Span :=
  spans stage (Token.scan source)

/-- Writes spans for a target, behind the declarations of `recorded`. -/
def writeSpans (caps : Capabilities) (stage : Stage) (recorded : List InterfaceSlot) :
    List Span → List String
  | [] => []
  | span :: later => span.pieces caps stage recorded ++
      writeSpans caps stage (recorded ++ (span.recorded? stage).toList) later

theorem filterMap_cons_toList {α β : Type} (view : α → Option β) (first : α) (rest : List α) :
    (first :: rest).filterMap view = (view first).toList ++ rest.filterMap view := by
  rw [List.filterMap_cons]
  cases view first <;> rfl

/-- What a declaration contributes is read off its span. -/
theorem ofDeclaration_behind (caps : Capabilities) (stage : Stage)
    (recorded : List InterfaceSlot) (keyword : Token) (direction : Direction)
    (tokens : List Token) :
    Body.ofDeclaration caps stage direction keyword.separator
        (Declaration.parse keyword.line (stage.records direction) tokens) =
      let span := Span.declaration (.behind stage keyword direction tokens)
      { pieces := span.pieces caps stage recorded
        slots := (span.recorded? stage).toList
        diagnostics := (span.diagnostic? stage).toList } := by
  dsimp only [Body.ofDeclaration, Span.pieces, Span.recorded?, Span.diagnostic?,
    ReadDeclaration.behind]
  congr 1
  · cases (Declaration.parse keyword.line (stage.records direction) tokens).slot <;> rfl
  · split <;> rfl
  · cases (Declaration.parse keyword.line (stage.records direction) tokens).problem <;> rfl

theorem ofTokens_eq_writeSpans (caps : Capabilities) (stage : Stage)
    (recorded : List InterfaceSlot) (tokens : List Token) :
    Body.ofTokens caps stage recorded tokens =
      { pieces := writeSpans caps stage recorded (spans stage tokens)
        slots := (spans stage tokens).filterMap (Span.recorded? stage)
        diagnostics := (spans stage tokens).filterMap (Span.diagnostic? stage) } := by
  fun_induction spans stage tokens generalizing recorded with
  | case1 => simp [Body.ofTokens, writeSpans]
  | case2 token rest direction declares ih =>
      rw [Body.ofTokens_declares declares]
      dsimp only
      rw [ih, ofDeclaration_behind caps stage recorded, filterMap_cons_toList,
        filterMap_cons_toList, writeSpans]
      rfl
  | case3 token rest declares ih =>
      rw [Body.ofTokens_kept declares, ih, writeSpans, filterMap_cons_toList,
        filterMap_cons_toList]
      simp [Body.append, Span.pieces, Span.recorded?, Span.diagnostic?]

theorem recastStage_eq_writeSpans (caps : Capabilities) (stage : Stage) (source : String) :
    recastStage caps stage source =
      { stage := stage
        text := header caps stage ++ String.join (writeSpans caps stage [] (spansOf stage source))
        slots := (spansOf stage source).filterMap (Span.recorded? stage)
        diagnostics := (spansOf stage source).filterMap (Span.diagnostic? stage) } := by
  rw [recastStage, Body.ofSource, ofTokens_eq_writeSpans]
  rfl

/-- What is taken for a declaration and what is left are the tokens behind its keyword. -/
theorem ReadDeclaration.taken_append (stage : Stage) (keyword : Token) (direction : Direction)
    (tokens : List Token) :
    (behind stage keyword direction tokens).taken ++
      (Declaration.parse keyword.line (stage.records direction) tokens).rest = tokens := by
  obtain ⟨taken, isSplit⟩ := Declaration.parse_suffix keyword.line (stage.records direction) tokens
  have sameLength := congrArg List.length isSplit
  rw [List.length_append] at sameLength
  have isTaken : (behind stage keyword direction tokens).taken = tokens.take taken.length := by
    rw [behind, ← sameLength, Nat.add_sub_cancel]
  have isFront : tokens.take taken.length = taken := by
    rw [← isSplit, List.take_left]
  rw [isTaken, isFront]
  exact isSplit

/-- The spans are the tokens of the stage, each of them once. -/
theorem flatMap_tokens_spans (stage : Stage) (tokens : List Token) :
    (spans stage tokens).flatMap Span.tokens = tokens := by
  fun_induction spans stage tokens with
  | case1 => rfl
  | case2 token rest direction declares ih =>
      rw [List.flatMap_cons, ih, Span.tokens, List.cons_append]
      exact congrArg (token :: ·) (ReadDeclaration.taken_append stage token direction rest)
  | case3 token rest declares ih =>
      rw [List.flatMap_cons, ih]
      rfl

/-- What holds of words and of declarations holds of every span. -/
theorem forall_mem_spans {stage : Stage} {holds : Span → Prop}
    (word : ∀ token : Token, token.declares? = none → holds (.word token))
    (declaration : ∀ (keyword : Token) (direction : Direction) (rest : List Token),
      keyword.declares? = some direction →
      holds (.declaration (.behind stage keyword direction rest)))
    (tokens : List Token) : ∀ span ∈ spans stage tokens, holds span := by
  fun_induction spans stage tokens with
  | case1 => exact fun _ member => absurd member List.not_mem_nil
  | case2 token rest direction declares ih =>
      exact List.forall_mem_cons.mpr ⟨declaration token direction rest declares, ih⟩
  | case3 token rest declares ih =>
      exact List.forall_mem_cons.mpr ⟨word token declares, ih⟩

end ShaderPipeline.Dialect
