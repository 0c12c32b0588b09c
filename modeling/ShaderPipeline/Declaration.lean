import ShaderPipeline.Interface
import ShaderPipeline.Semantic
import ShaderPipeline.Token

/-!
# Interface declarations

An input or output is declared as `in [precision] type name[array] [: SEMANTIC];`.
Behind the keyword the declaration is read up to its semicolon.  A declaration
that cannot be read is skipped to its semicolon with one problem reported, so a
bad declaration never stops the text behind it from being read.
-/

namespace ShaderPipeline

/-- What reading one declaration found. -/
structure Declaration where
  /-- The declared slot, unless the declaration has no usable type or name. -/
  slot : Option InterfaceSlot
  /-- At most one problem, with its line. -/
  problem : Option (Nat × DeclarationProblem)
  /-- The tokens behind the declaration. -/
  rest : List Token
deriving Repr, DecidableEq

namespace Declaration

/-- The words that may stand before a type. -/
def precisions : List String := ["lowp", "mediump", "highp"]

/-- The tokens behind the next semicolon. -/
def skipStatement (tokens : List Token) : List Token :=
  (tokens.dropWhile (·.text != ";")).tail

/-- The tokens behind a statement, when `token` has been taken from it. -/
def skipAfter (token : Token) (tokens : List Token) : List Token :=
  if token.text = ";" then tokens else skipStatement tokens

/-- Cuts a token list behind its first closing bracket. -/
def splitBrackets : List Token → List Token × List Token
  | [] => ([], [])
  | token :: rest =>
      if token.text = "]" then ([token], rest)
      else
        let (inside, after) := splitBrackets rest
        (token :: inside, after)

/-- The array brackets at the start of a token list, as one text. -/
def arraySuffix : List Token → String × List Token
  | [] => ("", [])
  | token :: rest =>
      if token.text = "[" then
        let (inside, after) := splitBrackets rest
        ("[" ++ String.join (inside.map (·.text)), after)
      else ("", token :: rest)

/-- The location behind a name, with the problem found there and the tokens
behind the statement. -/
def semantic (keywordLine : Nat) (name : String) :
    List Token → Option UInt32 × Option (Nat × DeclarationProblem) × List Token
  | [] => (none, some (keywordLine, .semanticAbsent name), [])
  | colon :: rest =>
      if colon.text = ":" then
        match rest with
        | [] => (none, some (colon.line, .semanticMissing name), [])
        | token :: after =>
            if token.kind = .name then
              match Semantic.location? token.text with
              | some location => (some location, none, skipStatement after)
              | none =>
                  (none, some (token.line, .semanticUnknown token.text name),
                    skipStatement after)
            else (none, some (token.line, .semanticMissing name), skipAfter token after)
      else (none, some (colon.line, .semanticAbsent name), skipAfter colon rest)

/-- Reads what follows the type. -/
def parseName (keywordLine : Nat) (hasSemantic : Bool) (type : String) :
    List Token → Declaration
  | [] => ⟨none, some (keywordLine, .nameMissing type), []⟩
  | token :: rest =>
      if token.kind = .name then
        let brackets := arraySuffix rest
        if hasSemantic then
          let found := semantic keywordLine token.text brackets.2
          ⟨some ⟨type, token.text, found.1, brackets.1⟩, found.2.1, found.2.2⟩
        else ⟨some ⟨type, token.text, none, brackets.1⟩, none, skipStatement brackets.2⟩
      else
        ⟨none, some (token.line, .nameExpected type token.text), skipAfter token rest⟩

/-- Reads the declaration behind a keyword on `keywordLine`.  Only a declaration
that `hasSemantic` is asked for a location. -/
def parse (keywordLine : Nat) (hasSemantic : Bool) (tokens : List Token) : Declaration :=
  match tokens with
  | [] => ⟨none, some (keywordLine, .typeMissing), []⟩
  | first :: rest =>
      if first.kind = .name then
        if first.text ∈ precisions then
          match rest with
          | [] => ⟨none, some (first.line, .typeMissingAfter first.text), []⟩
          | second :: after =>
              if second.kind = .name then
                parseName keywordLine hasSemantic (first.text ++ " " ++ second.text) after
              else
                ⟨none, some (first.line, .typeMissingAfter first.text),
                  skipStatement (second :: after)⟩
        else parseName keywordLine hasSemantic first.text rest
      else ⟨none, some (first.line, .typeMissing), skipStatement (first :: rest)⟩

theorem skipStatement_suffix (tokens : List Token) : skipStatement tokens <:+ tokens :=
  (List.tail_suffix _).trans (List.dropWhile_suffix _)

theorem skipAfter_suffix (token : Token) (tokens : List Token) :
    skipAfter token tokens <:+ tokens := by
  unfold skipAfter
  split
  · exact List.suffix_refl _
  · exact skipStatement_suffix tokens

/-- Cutting at a closing bracket loses nothing. -/
theorem splitBrackets_append (tokens : List Token) :
    (splitBrackets tokens).1 ++ (splitBrackets tokens).2 = tokens := by
  induction tokens with
  | nil => rfl
  | cons token rest ih =>
      unfold splitBrackets
      split <;> simp [ih]

theorem arraySuffix_suffix (tokens : List Token) : (arraySuffix tokens).2 <:+ tokens := by
  unfold arraySuffix
  split
  · exact List.suffix_refl _
  · next token rest =>
      split
      · have inRest : (splitBrackets rest).2 <:+ rest := ⟨_, splitBrackets_append rest⟩
        exact inRest.trans (List.suffix_cons token rest)
      · exact List.suffix_refl _

theorem semantic_suffix (keywordLine : Nat) (name : String) (tokens : List Token) :
    (semantic keywordLine name tokens).2.2 <:+ tokens := by
  unfold semantic
  split
  · exact List.suffix_refl _
  · next colon rest =>
      split
      · split
        · exact List.nil_suffix
        · next token after =>
            have inTokens : after <:+ colon :: token :: after :=
              (List.suffix_cons token after).trans (List.suffix_cons colon _)
            split
            · split <;> exact (skipStatement_suffix after).trans inTokens
            · exact (skipAfter_suffix token after).trans inTokens
      · exact (skipAfter_suffix colon rest).trans (List.suffix_cons colon rest)

theorem parseName_suffix (keywordLine : Nat) (hasSemantic : Bool) (type : String)
    (tokens : List Token) :
    (parseName keywordLine hasSemantic type tokens).rest <:+ tokens := by
  unfold parseName
  split
  · exact List.suffix_refl _
  · next token rest =>
      split
      · have bracketed := (arraySuffix_suffix rest).trans (List.suffix_cons token rest)
        dsimp only
        split
        · exact (semantic_suffix keywordLine token.text _).trans bracketed
        · exact (skipStatement_suffix _).trans bracketed
      · exact (skipAfter_suffix token rest).trans (List.suffix_cons token rest)

/-- Reading a declaration leaves the end of the tokens. -/
theorem parse_suffix (keywordLine : Nat) (hasSemantic : Bool) (tokens : List Token) :
    (parse keywordLine hasSemantic tokens).rest <:+ tokens := by
  unfold parse
  split
  · exact List.suffix_refl _
  · next first rest =>
      have inTokens := List.suffix_cons first rest
      split
      · split
        · split
          · exact List.nil_suffix
          · next second after =>
              split
              · exact ((parseName_suffix _ _ _ after).trans (List.suffix_cons second after)).trans
                  inTokens
              · exact (skipStatement_suffix _).trans inTokens
        · exact (parseName_suffix _ _ _ rest).trans inTokens
      · exact skipStatement_suffix (first :: rest)

/-- Reading a declaration never makes the token list longer. -/
theorem length_parse_rest_le (keywordLine : Nat) (hasSemantic : Bool) (tokens : List Token) :
    (parse keywordLine hasSemantic tokens).rest.length ≤ tokens.length :=
  (parse_suffix keywordLine hasSemantic tokens).length_le

end Declaration

end ShaderPipeline
