import ShaderPipeline.Declaration

/-!
# Well-formed declarations

The tokens of an input or output behind its keyword, when it is written as
documented: `[precision] type name[length] [: SEMANTIC];`, with at most one
token between the brackets.
-/

namespace ShaderPipeline

open Declaration

/-- Array brackets around at most one token. -/
structure ArrayBrackets where
  opening : Token
  length : Option Token
  closing : Token
  opens : opening.text = "["
  closes : closing.text = "]"
  inside : ∀ token ∈ length, token.text ≠ "]"

def ArrayBrackets.tokens (brackets : ArrayBrackets) : List Token :=
  brackets.opening :: (brackets.length.toList ++ [brackets.closing])

/-- A colon and a semantic. -/
structure SemanticClause where
  colon : Token
  word : Token
  isColon : colon.text = ":"
  notEnd : word.text ≠ ";"

def SemanticClause.tokens (clause : SemanticClause) : List Token :=
  [clause.colon, clause.word]

/-- A declaration behind its keyword. -/
structure DeclarationForm where
  precision : Option Token
  type : Token
  name : Token
  brackets : Option ArrayBrackets
  clause : Option SemanticClause
  semicolon : Token
  isPrecision : ∀ token ∈ precision, token.kind = .name ∧ token.text ∈ precisions
  isType : type.kind = .name ∧ type.text ∉ precisions
  isName : name.kind = .name
  ends : semicolon.text = ";"

namespace DeclarationForm

def bracketTokens (form : DeclarationForm) : List Token :=
  (form.brackets.map ArrayBrackets.tokens).getD []

def clauseTokens (form : DeclarationForm) : List Token :=
  (form.clause.map SemanticClause.tokens).getD []

/-- All tokens of the declaration behind its keyword. -/
def tokens (form : DeclarationForm) : List Token :=
  form.precision.toList ++ form.type :: form.name ::
    (form.bracketTokens ++ (form.clauseTokens ++ [form.semicolon]))

/-- The tokens that every target keeps. -/
def kept (form : DeclarationForm) : List Token :=
  form.precision.toList ++ form.type :: form.name :: (form.bracketTokens ++ [form.semicolon])

def location? (form : DeclarationForm) : Option UInt32 :=
  form.clause.bind fun clause =>
    if clause.word.kind = .name then Semantic.location? clause.word.text else none

def slot (form : DeclarationForm) (hasSemantic : Bool) : InterfaceSlot where
  type := match form.precision with
    | some precision => precision.text ++ " " ++ form.type.text
    | none => form.type.text
  name := form.name.text
  location := if hasSemantic then form.location? else none
  arraySuffix := String.join (form.bracketTokens.map (·.text))

variable (form : DeclarationForm) (rest : List Token)

theorem skipStatement_semicolon : skipStatement (form.semicolon :: rest) = rest := by
  simp [skipStatement, form.ends]

theorem skipStatement_clause :
    skipStatement (form.clauseTokens ++ form.semicolon :: rest) = rest := by
  unfold clauseTokens
  cases isClause : form.clause with
  | none => exact form.skipStatement_semicolon rest
  | some clause =>
      simp [SemanticClause.tokens, skipStatement, clause.isColon, clause.notEnd, form.ends]

theorem arraySuffix_brackets :
    arraySuffix (form.bracketTokens ++ (form.clauseTokens ++ form.semicolon :: rest)) =
      (String.join (form.bracketTokens.map (·.text)),
        form.clauseTokens ++ form.semicolon :: rest) := by
  unfold bracketTokens
  cases form.brackets with
  | none =>
      -- What comes behind the name is a colon or the semicolon.
      unfold clauseTokens
      cases form.clause with
      | none => simp [arraySuffix, form.ends]
      | some clause => simp [SemanticClause.tokens, arraySuffix, clause.isColon]
  | some brackets =>
      cases isLength : brackets.length with
      | none =>
          simp [ArrayBrackets.tokens, isLength, arraySuffix, splitBrackets, brackets.opens,
            brackets.closes]
      | some token =>
          have open_ := brackets.inside token (by rw [isLength]; rfl)
          simp [ArrayBrackets.tokens, isLength, arraySuffix, splitBrackets, brackets.opens,
            brackets.closes, open_]

theorem semantic_clause (keywordLine : Nat) (name : String) :
    (semantic keywordLine name (form.clauseTokens ++ form.semicolon :: rest)).1 =
        form.location? ∧
      (semantic keywordLine name (form.clauseTokens ++ form.semicolon :: rest)).2.2 = rest := by
  unfold clauseTokens location?
  cases form.clause with
  | none =>
      simp [semantic, form.ends, skipAfter]
  | some clause =>
      have skipped := form.skipStatement_semicolon rest
      have notEnd := clause.notEnd
      by_cases isName : clause.word.kind = .name
      · cases located : Semantic.location? clause.word.text with
        | none => simp [SemanticClause.tokens, semantic, clause.isColon, isName, located, skipped]
        | some location =>
            simp [SemanticClause.tokens, semantic, clause.isColon, isName, located, skipped]
      · simp [SemanticClause.tokens, semantic, clause.isColon, isName, skipAfter, notEnd, skipped]

theorem parseName_form (keywordLine : Nat) (hasSemantic : Bool) (type : String) :
    (parseName keywordLine hasSemantic type
        (form.name :: (form.bracketTokens ++ (form.clauseTokens ++ form.semicolon :: rest)))).slot =
      some { form.slot hasSemantic with type := type } ∧
    (parseName keywordLine hasSemantic type
        (form.name :: (form.bracketTokens ++ (form.clauseTokens ++ form.semicolon :: rest)))).rest =
      rest := by
  obtain ⟨located, behind⟩ := form.semantic_clause rest keywordLine form.name.text
  cases hasSemantic with
  | false =>
      simp [parseName, form.isName, form.arraySuffix_brackets, form.skipStatement_clause, slot]
  | true =>
      simp [parseName, form.isName, form.arraySuffix_brackets, located, behind, slot]

/-- A well-formed declaration is read as it stands. -/
theorem parse_form (keywordLine : Nat) (hasSemantic : Bool) :
    (parse keywordLine hasSemantic (form.tokens ++ rest)).slot = some (form.slot hasSemantic) ∧
      (parse keywordLine hasSemantic (form.tokens ++ rest)).rest = rest := by
  have named := form.parseName_form rest keywordLine hasSemantic
  cases isPrecision : form.precision with
  | none =>
      have isSlot : form.slot hasSemantic =
          { form.slot hasSemantic with type := form.type.text } := by
        simp [slot, isPrecision]
      rw [isSlot]
      simpa [tokens, isPrecision, parse, form.isType.1, form.isType.2] using named form.type.text
  | some precision =>
      have known := form.isPrecision precision (by rw [isPrecision]; rfl)
      have isSlot : form.slot hasSemantic =
          { form.slot hasSemantic with type := precision.text ++ " " ++ form.type.text } := by
        simp [slot, isPrecision]
      rw [isSlot]
      simpa [tokens, isPrecision, parse, form.isType.1, known.1, known.2] using
        named (precision.text ++ " " ++ form.type.text)

end DeclarationForm

end ShaderPipeline
