import ShaderPipeline.Proofs.Dialect.Phrases

/-!
# The tokens of a recast stage

Recasting a stage writes text, and a driver cuts this text into tokens again.
The tokens that it finds are those of the source, with declarations and the
names of outputs replaced: no two tokens that are written run together, and none
comes apart.
-/

namespace ShaderPipeline

open Lexeme

/-- The built-in variable that an output stands for.  Arrays have none. -/
def DeclarationForm.builtIn? (form : DeclarationForm) (version : UInt32) : Option String :=
  if form.brackets.isSome then none
  else form.location?.bind (LegacyOutput.substitute? · version)

namespace Dialect

/-- The built-in variable that is written for a token behind the declarations of some
outputs. -/
def standIn? (caps : Capabilities) (stage : Stage) (outputs : List DeclarationForm)
    (token : Token) : Option String :=
  if stage = .fragment ∧ token.kind = .name then
    outputs.findSome? fun form =>
      if form.name.text = token.text then form.builtIn? caps.version else none
  else none

/-- The tokens of a stage, behind the declarations of some outputs, and the lexemes that the
target is to see for them. -/
inductive Recasts (caps : Capabilities) (stage : Stage) :
    List DeclarationForm → List Token → List Lexeme → Prop
  | nil (outputs : List DeclarationForm) : Recasts caps stage outputs [] []
  | declared {outputs : List DeclarationForm} {keyword : Token} {direction : Direction}
      {form : DeclarationForm} {tokens : List Token} {lexemes : List Lexeme}
      (declares : keyword.declares? = some direction)
      (behind : Recasts caps stage
        (outputs ++ if direction = .output then [form] else []) tokens lexemes) :
      Recasts caps stage outputs (keyword :: (form.tokens ++ tokens))
        (lexemesOf
            (storageQualifier caps stage direction (form.slot (stage.records direction))) ++
          (form.kept.map Token.lexeme ++ lexemes))
  | replaced {outputs : List DeclarationForm} {token : Token} {builtIn : String}
      {tokens : List Token} {lexemes : List Lexeme} (notDeclares : token.declares? = none)
      (isOutput : standIn? caps stage outputs token = some builtIn)
      (behind : Recasts caps stage outputs tokens lexemes) :
      Recasts caps stage outputs (token :: tokens) (lexemesOf builtIn ++ lexemes)
  | kept {outputs : List DeclarationForm} {token : Token} {tokens : List Token}
      {lexemes : List Lexeme} (notDeclares : token.declares? = none)
      (noOutput : standIn? caps stage outputs token = none)
      (behind : Recasts caps stage outputs tokens lexemes) :
      Recasts caps stage outputs (token :: tokens) (token.lexeme :: lexemes)

/-- Every keyword outside parentheses starts a declaration as documented. -/
def Documented (tokens : List Token) : Prop :=
  ∀ before keyword behind, tokens = before ++ keyword :: behind →
    keyword.declares?.isSome → ∃ (form : DeclarationForm) (rest : List Token),
      behind = form.tokens ++ rest

section Specification

variable {caps : Capabilities} {stage : Stage}

theorem Documented.of_append {before tokens : List Token}
    (documented : Documented (before ++ tokens)) : Documented tokens := by
  intro further keyword behind isSplit
  exact documented (before ++ further) keyword behind (by rw [isSplit, List.append_assoc])

theorem Documented.cons {token : Token} {tokens : List Token} (documented : Documented tokens)
    (starts : token.declares?.isSome → ∃ (form : DeclarationForm) (rest : List Token),
      tokens = form.tokens ++ rest) : Documented (token :: tokens) := by
  intro before keyword behind isSplit
  cases before with
  | nil =>
      obtain ⟨rfl, rfl⟩ := List.cons.inj isSplit
      exact starts
  | cons first before => exact documented before keyword behind (List.cons.inj isSplit).2

theorem Documented.append {before tokens : List Token} (documented : Documented tokens)
    (plain : ∀ token ∈ before, token.declares? = none) : Documented (before ++ tokens) := by
  induction before with
  | nil => exact documented
  | cons token before ih =>
      refine (ih fun token member => plain token (List.mem_cons_of_mem _ member)).cons ?_
      intro declares
      rw [plain token List.mem_cons_self] at declares
      cases declares

theorem Documented.declared {keyword : Token} {tokens : List Token}
    (documented : Documented tokens) (form : DeclarationForm)
    (plain : ∀ token ∈ form.tokens, token.declares? = none) :
    Documented (keyword :: (form.tokens ++ tokens)) :=
  (documented.append plain).cons fun _ => ⟨form, tokens, rfl⟩

theorem Recasts.exists {tokens : List Token} (documented : Documented tokens)
    (outputs : List DeclarationForm) : ∃ lexemes, Recasts caps stage outputs tokens lexemes := by
  induction isLength : tokens.length using Nat.strong_induction_on generalizing tokens outputs with
  | _ length ih =>
      cases tokens with
      | nil => exact ⟨[], .nil outputs⟩
      | cons token tokens =>
          cases declares : token.declares? with
          | some direction =>
              obtain ⟨form, rest, rfl⟩ := documented [] token tokens rfl (by rw [declares]; rfl)
              have shorter : rest.length < length := by
                rw [← isLength, List.length_cons, List.length_append]
                omega
              have whole : Documented ((token :: form.tokens) ++ rest) := documented
              obtain ⟨lexemes, recasts⟩ := ih rest.length shorter whole.of_append _ rfl
              exact ⟨_, .declared declares recasts⟩
          | none =>
              have shorter : tokens.length < length := by
                rw [← isLength, List.length_cons]
                omega
              have whole : Documented ([token] ++ tokens) := documented
              obtain ⟨lexemes, recasts⟩ := ih tokens.length shorter whole.of_append outputs rfl
              cases isOutput : standIn? caps stage outputs token with
              | some builtIn => exact ⟨_, .replaced declares isOutput recasts⟩
              | none => exact ⟨_, .kept declares isOutput recasts⟩

end Specification

theorem isArray_slot (form : DeclarationForm) (hasSemantic : Bool) :
    (form.slot hasSemantic).isArray = form.brackets.isSome := by
  cases isBrackets : form.brackets with
  | none => simp [InterfaceSlot.isArray, DeclarationForm.slot, DeclarationForm.bracketTokens,
      isBrackets]
  | some brackets =>
      simp [InterfaceSlot.isArray, DeclarationForm.slot, DeclarationForm.bracketTokens,
        isBrackets, ArrayBrackets.tokens, brackets.opens]

theorem legacyOutput?_slots (caps : Capabilities) (outputs : List DeclarationForm)
    (name : String) :
    legacyOutput? caps (outputs.map (·.slot true)) name =
      outputs.findSome? fun form =>
        if form.name.text = name then form.builtIn? caps.version else none := by
  unfold legacyOutput?
  induction outputs with
  | nil => rfl
  | cons form outputs ih =>
      have isName : (form.slot true).name = form.name.text := rfl
      have isLocation : (form.slot true).location = form.location? := rfl
      rw [List.map_cons, List.filter_cons, List.findSome?_cons, isName, isArray_slot]
      by_cases same : form.name.text = name
      · by_cases isArray : form.brackets.isSome
        · simp [same, isArray, DeclarationForm.builtIn?, ih]
        · simp [same, isArray, DeclarationForm.builtIn?, ih, isLocation, List.findSome?_cons]
      · simp [same, ih]

theorem tokenText_slots {caps : Capabilities} {stage : Stage} {recorded : List InterfaceSlot}
    {outputs : List DeclarationForm}
    (isRecorded : stage = .fragment → recorded = outputs.map (·.slot true)) (token : Token) :
    tokenText caps stage recorded token =
      (standIn? caps stage outputs token).getD token.text := by
  unfold tokenText standIn?
  split
  · next isName => rw [isRecorded isName.1, legacyOutput?_slots]
  · rfl

namespace Body

theorem text_append (first second : Body) :
    (first.append second).text = first.text ++ second.text :=
  String.join_append

theorem ofTokens_declares {keyword : Token} {direction : Direction}
    (declares : keyword.declares? = some direction) (caps : Capabilities) (stage : Stage)
    (recorded : List InterfaceSlot) (tokens : List Token) :
    ofTokens caps stage recorded (keyword :: tokens) =
      let declaration := Declaration.parse keyword.line (stage.records direction) tokens
      let here := ofDeclaration caps stage direction keyword.separator declaration
      here.append (ofTokens caps stage (recorded ++ here.slots) declaration.rest) := by
  rw [ofTokens]
  split
  · next declares' =>
      rw [declares] at declares'
      cases declares'
      rfl
  · next notDeclares =>
      rw [declares] at notDeclares
      cases notDeclares

theorem ofTokens_kept {token : Token} (notDeclares : token.declares? = none)
    (caps : Capabilities) (stage : Stage) (recorded : List InterfaceSlot)
    (tokens : List Token) :
    ofTokens caps stage recorded (token :: tokens) =
      append { pieces := [token.separator, tokenText caps stage recorded token] }
        (ofTokens caps stage recorded tokens) := by
  rw [ofTokens]
  split
  · next declares =>
      rw [notDeclares] at declares
      cases declares
  · rfl

theorem text_ofTokens_declared (caps : Capabilities) (stage : Stage)
    (recorded : List InterfaceSlot) {keyword : Token} {direction : Direction}
    (declares : keyword.declares? = some direction) (form : DeclarationForm)
    (tokens : List Token) :
    (ofTokens caps stage recorded (keyword :: (form.tokens ++ tokens))).text =
      keyword.separator ++
        (declarationText caps stage direction (form.slot (stage.records direction)) ++
          (ofTokens caps stage
            (recorded ++ if stage.records direction then [form.slot true] else [])
            tokens).text) := by
  obtain ⟨isSlot, isRest⟩ := form.parse_form tokens keyword.line (stage.records direction)
  rw [ofTokens_declares declares]
  dsimp only
  rw [text_append, isRest]
  cases records : stage.records direction with
  | false =>
      rw [records] at isSlot
      simp [ofDeclaration, text, isSlot, records, String.append_assoc]
  | true =>
      rw [records] at isSlot
      simp [ofDeclaration, text, isSlot, records, String.append_assoc]

theorem text_ofTokens_kept (caps : Capabilities) (stage : Stage) (recorded : List InterfaceSlot)
    {token : Token} (notDeclares : token.declares? = none) (tokens : List Token) :
    (ofTokens caps stage recorded (token :: tokens)).text =
      token.separator ++ (tokenText caps stage recorded token ++
        (ofTokens caps stage recorded tokens).text) := by
  rw [ofTokens_kept notDeclares, text_append]
  simp [text, String.append_assoc]

end Body

section Recast

variable {caps : Capabilities} {stage : Stage} {outputs : List DeclarationForm}
  {tokens : List Token} {lexemes : List Lexeme}

theorem leadsTo_of_standIn? {token : Token} {builtIn : String}
    (isOutput : standIn? caps stage outputs token = some builtIn) :
    token.kind = .name ∧ LeadsTo EndsName builtIn ∧ StartsName builtIn.toList := by
  unfold standIn? at isOutput
  split at isOutput
  · next isName =>
      obtain ⟨form, -, isBuiltIn⟩ := List.exists_of_findSome?_eq_some isOutput
      split at isBuiltIn
      · unfold DeclarationForm.builtIn? at isBuiltIn
        split at isBuiltIn
        · cases isBuiltIn
        · obtain ⟨location, -, isLive⟩ := Option.bind_eq_some_iff.mp isBuiltIn
          exact ⟨isName.2, leadsTo_builtIn isLive⟩
      · cases isBuiltIn
  · cases isOutput

theorem resumes_of_startsName {original written : List Char} (former : StartsName original)
    (starts : StartsName written) : Resumes original written := by
  obtain ⟨first, tail, rfl, wasName⟩ := former
  obtain ⟨first', tail', rfl, isName⟩ := starts
  exact .named wasName isName tail tail'

theorem startsName_keyword {keyword : Token} {direction : Direction}
    (declares : keyword.declares? = some direction) (rest : List Char) :
    StartsName (keyword.text.toList ++ rest) := by
  have isKeyword : keyword.text = "in" ∨ keyword.text = "out" := by
    unfold Token.declares? at declares
    split at declares
    · unfold Direction.ofKeyword? at declares
      split at declares
      · exact Or.inl ‹_›
      · split at declares
        · exact Or.inr ‹_›
        · cases declares
    · cases declares
  rcases isKeyword with isIn | isOut
  · rw [isIn]
    exact ⟨'i', _, rfl, rfl⟩
  · rw [isOut]
    exact ⟨'o', _, rfl, rfl⟩

theorem toList_declarationText (caps : Capabilities) (stage : Stage) (direction : Direction)
    (slot : InterfaceSlot) (rest : List Char) :
    (declarationText caps stage direction slot).toList ++ rest =
      (storageQualifier caps stage direction slot).toList ++
        ((slot.type ++ " " ++ slot.name ++ slot.arraySuffix ++ ";").toList ++ rest) := by
  simp [declarationText]

theorem spells_declared {keyword : Token} {direction : Direction}
    (declares : keyword.declares? = some direction) {form : DeclarationForm} {text : List Char}
    (written : Token.Written (keyword :: (form.tokens ++ tokens)) text)
    (noBackslash : ∀ token ∈ form.tokens, token.text ≠ "\\") {rest : List Char}
    (spells : Spells lexemes rest) :
    Spells
        (lexemesOf
            (storageQualifier caps stage direction (form.slot (stage.records direction))) ++
          (form.kept.map Token.lexeme ++ lexemes))
        (keyword.separator.toList ++
          ((declarationText caps stage direction (form.slot (stage.records direction))).toList ++
            rest)) ∧
      Resumes text
        (keyword.separator.toList ++
          ((declarationText caps stage direction (form.slot (stage.records direction))).toList ++
            rest)) := by
  rw [toList_declarationText]
  cases written with
  | cons follows cuts written =>
      obtain ⟨keptSpells, starts⟩ :=
        DeclarationForm.spells_kept (stage.records direction) written noBackslash spells
      have storage := isStorage_storageQualifier caps stage direction
        (form.slot (stage.records direction))
      -- Where the keyword stood, there is a name again.
      exact ⟨(storage.leads.spells trivial keptSpells).separator keyword,
        resumes_separator follows (resumes_of_startsName (startsName_keyword declares _)
          (storage.startsName starts))⟩

/-- What is written for some tokens has the lexemes that it should have.  The text around it
sees it as it saw the original text. -/
theorem Recasts.spells (recasts : Recasts caps stage outputs tokens lexemes)
    {recorded : List InterfaceSlot}
    (isRecorded : stage = .fragment → recorded = outputs.map (·.slot true))
    {text : List Char} (written : Token.Written tokens text)
    (noBackslash : ∀ token ∈ tokens, token.text ≠ "\\") :
    Spells lexemes (Body.ofTokens caps stage recorded tokens).text.toList ∧
      Resumes text (Body.ofTokens caps stage recorded tokens).text.toList := by
  -- The second part is what the token in front needs: its cut looks into the text behind it.
  induction recasts generalizing recorded text with
  | nil outputs =>
      rw [Body.ofTokens]
      exact ⟨.nil, .ended text⟩
  | @declared outputs keyword direction form tokens lexemes declares behind ih =>
      have isRecorded' : stage = .fragment →
          recorded ++ (if stage.records direction then [form.slot true] else []) =
            (outputs ++ if direction = .output then [form] else []).map (·.slot true) := by
        rintro rfl
        rw [isRecorded rfl]
        cases direction <;> simp [Stage.records]
      rw [Body.text_ofTokens_declared caps stage recorded declares, String.toList_append,
        String.toList_append]
      obtain ⟨rest, writtenBehind⟩ : ∃ rest, Token.Written tokens rest := by
        have whole : Token.Written ((keyword :: form.tokens) ++ tokens) text := written
        exact whole.of_append
      obtain ⟨spells, -⟩ := ih isRecorded' writtenBehind fun token member =>
        noBackslash token (List.mem_cons_of_mem _ (List.mem_append_right _ member))
      exact spells_declared declares written (fun token member =>
        noBackslash token (List.mem_cons_of_mem _ (List.mem_append_left _ member))) spells
  | @replaced outputs token builtIn tokens lexemes notDeclares isOutput behind ih =>
      rw [Body.text_ofTokens_kept caps stage recorded notDeclares, tokenText_slots isRecorded,
        isOutput, Option.getD_some, String.toList_append, String.toList_append]
      cases written with
      | cons follows cuts written =>
          obtain ⟨isName, leads, starts⟩ := leadsTo_of_standIn? isOutput
          obtain ⟨wasName, ends⟩ := name_of_cuts cuts isName
          obtain ⟨spells, resumes⟩ := ih isRecorded written
            fun token member => noBackslash token (List.mem_cons_of_mem _ member)
          refine ⟨(leads.spells (resumes.endsName ends) spells).separator token,
            resumes_separator follows ?_⟩
          exact resumes_of_startsName (wasName.startsName _) (starts.append _)
  | @kept outputs token tokens lexemes notDeclares noOutput behind ih =>
      rw [Body.text_ofTokens_kept caps stage recorded notDeclares, tokenText_slots isRecorded,
        noOutput, Option.getD_none, String.toList_append, String.toList_append]
      cases written with
      | cons follows cuts written =>
          have notBackslash : token.lexeme.text ≠ ['\\'] := by
            intro isBackslash
            exact noBackslash token List.mem_cons_self (String.toList_inj.mp isBackslash)
          obtain ⟨spells, resumes⟩ := ih isRecorded written
            fun token member => noBackslash token (List.mem_cons_of_mem _ member)
          exact ⟨(Spells.lexeme (cuts.resume notBackslash resumes) spells).separator token,
            resumes_separator follows (resumes.append token.text.toList)⟩

end Recast

/-- The tokens of a recast stage. -/
theorem recasts_iff_scan (caps : Capabilities) (stage : Stage) (source : String)
    (noBackslash : ∀ token ∈ Token.scan source, token.text ≠ "\\")
    (documented : Documented (Token.scan source)) (lexemes : List Lexeme) :
    Recasts caps stage [] (Token.scan source) lexemes ↔
      (Token.scan (Body.ofSource caps stage source).text).map Token.lexeme = lexemes := by
  have only : ∀ lexemes, Recasts caps stage [] (Token.scan source) lexemes →
      (Token.scan (Body.ofSource caps stage source).text).map Token.lexeme = lexemes := by
    intro lexemes recasts
    rw [Token.lexemes_scan]
    exact (recasts.spells (fun _ => rfl) (Token.written_scan source) noBackslash).1.lexemes_eq
  refine ⟨only lexemes, ?_⟩
  rintro rfl
  -- Some lexemes are called for, and they can only be those that are found.
  obtain ⟨lexemes, recasts⟩ := Recasts.exists documented []
  rw [only lexemes recasts]
  exact recasts

/-- An input and an output, which is written to as a built-in on old targets. -/
def blendSource : String :=
  "in vec2 w[2];out lowp vec4 c/* */:FRAG_COLOR0;void f(in int k)\n\x7bc=w[k]/c;\x7d"

/-- A token on the first line of a text, outside parentheses. -/
def flatToken (text : String) (kind : TokenKind) (spaced : Bool) : Token :=
  ⟨text, kind, spaced, 0, 0, 1, 0, 0⟩

def weightForm : DeclarationForm where
  precision := none
  type := flatToken "vec2" .name true
  name := flatToken "w" .name true
  brackets := some
    { opening := flatToken "[" .punctuation false
      length := some (flatToken "2" .number false)
      closing := flatToken "]" .punctuation false
      opens := rfl
      closes := rfl
      inside := by decide }
  clause := none
  semicolon := flatToken ";" .punctuation false
  isPrecision := by decide
  isType := by decide
  isName := rfl
  ends := rfl

def colorForm : DeclarationForm where
  precision := some (flatToken "lowp" .name true)
  type := flatToken "vec4" .name true
  name := flatToken "c" .name true
  brackets := none
  clause := some
    { colon := flatToken ":" .punctuation true
      word := flatToken "FRAG_COLOR0" .name false
      isColon := rfl
      notEnd := by decide }
  semicolon := flatToken ";" .punctuation false
  isPrecision := by decide
  isType := by decide
  isName := rfl
  ends := rfl

theorem documented_blendSource : Documented (Token.scan blendSource) := by
  have isScan : Token.scan blendSource =
      flatToken "in" .name false :: (weightForm.tokens ++
        flatToken "out" .name false :: (colorForm.tokens ++
          ((Token.scan blendSource).drop 14 ++ []))) := by
    rw [Token.scan_eq]
    decide +kernel
  have plain : Documented [] := by
    intro before keyword behind isSplit
    simp at isSplit
  have quiet : ∀ token ∈ (Token.scan blendSource).drop 14, token.declares? = none := by
    rw [Token.scan_eq]
    decide +kernel
  rw [isScan]
  exact ((plain.append quiet).declared colorForm (by decide)).declared weightForm (by decide)

theorem recasts_blendSource :
    Documented (Token.scan blendSource) ∧
    Recasts .gl21 .fragment [] (Token.scan blendSource)
      (lexemesOf ("varying vec2 w[2];lowp vec4 c;void f(in int k)" ++
        "\x7bgl_FragData[0]=w[k]/gl_FragData[0];\x7d")) := by
  have noBackslash : ∀ token ∈ Token.scan blendSource, token.text ≠ "\\" := by
    rw [Token.scan_eq]
    decide +kernel
  refine ⟨documented_blendSource, (recasts_iff_scan .gl21 .fragment blendSource noBackslash
    documented_blendSource _).mpr ?_⟩
  rw [Token.lexemes_scan, Body.ofSource, Token.scan_eq]
  decide +kernel

end Dialect

end ShaderPipeline
