import ShaderPipeline.Dialect.Body
import ShaderPipeline.Proofs.Dialect.Declared
import ShaderPipeline.Proofs.Text.Words
import ShaderPipeline.Proofs.Token.Spelling

/-!
# The pieces of a recast text

Each piece of text that a target's dialect puts in, the layout, the storage
words, the built-in variables and the declarations, is cut into the same lexemes
wherever it stands.
-/

namespace ShaderPipeline

open Lexeme

def lexemesOf (text : String) : List Lexeme :=
  (LexedText.ofChars text.toList).lexemes

/-- The text has the same lexemes before every text of a kind. -/
structure LeadsTo (follow : List Char → Prop) (text : String) : Prop where
  spells : ∀ {lexemes rest}, follow rest → Spells lexemes rest →
    Spells (lexemesOf text ++ lexemes) (text.toList ++ rest)

theorem leadsTo_of_spells {follow : List Char → Prop} {text : String} (lexemes : List Lexeme)
    (ended : follow [])
    (spells : ∀ more rest, follow rest → Spells more rest →
      Spells (lexemes ++ more) (text.toList ++ rest)) : LeadsTo follow text := by
  have alone : lexemesOf text = lexemes := by
    have alone := (spells [] [] ended .nil).lexemes_eq
    rwa [List.append_nil, List.append_nil] at alone
  constructor
  intro more rest follows spellsMore
  rw [alone]
  exact spells more rest follows spellsMore

def isNameText : List Char → Bool
  | [] => false
  | first :: tail => isNameStart first && tail.all isNameChar

def IsName (text : List Char) : Prop :=
  isNameText text = true

theorem isName_cons {first : Char} {tail : List Char} :
    IsName (first :: tail) ↔ isNameStart first ∧ ∀ character ∈ tail, isNameChar character := by
  simp [IsName, isNameText]

theorem not_isName_nil : ¬ IsName [] :=
  Bool.false_ne_true

def StartsName (text : List Char) : Prop :=
  ∃ first tail, text = first :: tail ∧ isNameStart first

theorem StartsName.append {text : List Char} (starts : StartsName text) (rest : List Char) :
    StartsName (text ++ rest) := by
  obtain ⟨first, tail, rfl, isName⟩ := starts
  exact ⟨first, tail ++ rest, rfl, isName⟩

theorem IsName.startsName {text : List Char} (isName : IsName text) (rest : List Char) :
    StartsName (text ++ rest) := by
  cases text with
  | nil => exact absurd isName not_isName_nil
  | cons first tail => exact ⟨first, tail ++ rest, rfl, (isName_cons.mp isName).1⟩

theorem next?_of_isNameChar {first : Char} (isName : isNameChar first) (rest : List Char) :
    Filler.next? (first :: rest) = none := by
  have differs : ∀ other, isNameChar other = false → first ≠ other := by
    rintro other notName rfl
    rw [isName] at notName
    cases notName
  rw [next?_eq_none_iff (differs _ rfl)]
  refine ⟨differs _ rfl, ?_, fun isSlash => absurd isSlash (differs _ rfl)⟩
  simp only [Filler.isBlank, Bool.or_eq_false_iff, beq_eq_false_iff_ne]
  exact ⟨⟨⟨⟨differs _ rfl, differs _ rfl⟩, differs _ rfl⟩, differs _ rfl⟩, differs _ rfl⟩

theorem cuts_name {text rest : List Char} (isName : IsName text) (ends : EndsName rest) :
    Cuts ⟨.name, text⟩ rest := by
  cases text with
  | nil => exact absurd isName not_isName_nil
  | cons first tail =>
      obtain ⟨start, chars⟩ := isName_cons.mp isName
      exact ⟨next?_of_isNameChar (isNameChar_of_isNameStart start) _, first, tail, rfl,
        next_name start chars ends⟩

theorem name_of_cuts {lexeme : Lexeme} {rest : List Char} (cuts : lexeme.Cuts rest)
    (isKind : lexeme.kind = .name) : IsName lexeme.text ∧ EndsName rest := by
  obtain ⟨-, first, tail, isText, cut⟩ := cuts
  have start : isNameStart first := by
    by_contra notStart
    have kind : (next first (tail ++ rest)).1.kind = .name := by rw [cut, isKind]
    unfold next at kind
    rw [if_neg notStart] at kind
    split at kind
    · cases kind
    · split at kind
      · cases kind
      · split at kind
        · split at kind <;> cases kind
        · cases kind
  obtain ⟨-, chars, ends⟩ := of_next_name start isText cut
  rw [isText]
  exact ⟨isName_cons.mpr ⟨start, chars⟩, ends⟩

theorem endsName_cons {character : Char} (stops : isNameChar character = false)
    (rest : List Char) : EndsName (character :: rest) := by
  rintro _ ⟨⟩
  exact stops

section Spelling

variable {lexemes : List Lexeme} {rest : List Char}

theorem Spells.name {text : List Char} (isName : IsName text) (ends : EndsName rest)
    (spells : Spells lexemes rest) : Spells (⟨.name, text⟩ :: lexemes) (text ++ rest) :=
  .lexeme (cuts_name isName ends) spells

theorem Spells.blank (spells : Spells lexemes rest) : Spells lexemes (' ' :: rest) :=
  .filler rfl spells

theorem Spells.lineBreak (spells : Spells lexemes rest) : Spells lexemes ('\n' :: rest) :=
  .filler rfl spells

/-- A word and the blank behind it. -/
theorem Spells.word {text : List Char} (isName : IsName text) (spells : Spells lexemes rest) :
    Spells (⟨.name, text⟩ :: lexemes) (text ++ ' ' :: rest) :=
  .name isName (endsName_cons rfl _) spells.blank

/-- Characters that are lexemes of their own, whatever stands behind them. -/
def isMark (character : Char) : Bool :=
  character == '(' || character == ')' || character == '[' || character == ']' ||
    character == ';'

theorem cuts_mark {character : Char} (mark : isMark character) (rest : List Char) :
    Cuts ⟨.punctuation, [character]⟩ rest := by
  simp only [isMark, Bool.or_eq_true, beq_iff_eq, or_assoc] at mark
  rcases mark with rfl | rfl | rfl | rfl | rfl <;> exact ⟨rfl, _, [], rfl, rfl⟩

theorem Spells.mark (spells : Spells lexemes rest) {character : Char} (mark : isMark character) :
    Spells (⟨.punctuation, [character]⟩ :: lexemes) (character :: rest) :=
  .lexeme (cuts_mark mark rest) spells

theorem Spells.equals (spells : Spells lexemes rest) :
    Spells (⟨.punctuation, ['=']⟩ :: lexemes) ('=' :: ' ' :: rest) := by
  have cuts : Cuts ⟨.punctuation, ['=']⟩ (' ' :: rest) := ⟨rfl, '=', [], rfl, rfl⟩
  exact .lexeme cuts spells.blank

theorem Token.lexeme_of_mark {token : Token} (cuts : token.lexeme.Cuts rest) {character : Char}
    (isText : token.text.toList = [character]) (mark : isMark character) :
    token.lexeme = ⟨.punctuation, [character]⟩ := by
  obtain ⟨-, first, tail, isText', cut⟩ := cuts
  obtain ⟨-, first', tail', isText'', cut'⟩ := cuts_mark mark rest
  obtain ⟨rfl, rfl⟩ := List.cons.inj (isText.symm.trans isText')
  obtain ⟨rfl, rfl⟩ := List.cons.inj isText''
  exact (Prod.mk.inj (cut.symm.trans cut')).1

theorem splitNumber_digits {digits : List Char} (areDigits : ∀ digit ∈ digits, digit.isDigit)
    {character : Char} (stops : ∀ previous, isNumberChar previous character = false)
    (rest : List Char) (previous : Char) :
    splitNumber previous (digits ++ character :: rest) = (digits, character :: rest) := by
  induction digits generalizing previous with
  | nil => simp [splitNumber, stops previous]
  | cons digit digits ih =>
      have goesOn : isNumberChar previous digit :=
        isNumberChar_of_isNameChar (isNameChar_of_isDigit (areDigits digit List.mem_cons_self)) _
      rw [List.cons_append, splitNumber, if_pos goesOn,
        ih (fun digit member => areDigits digit (List.mem_cons_of_mem _ member))]

theorem Spells.digits {digits : List Char} (areDigits : ∀ digit ∈ digits, digit.isDigit)
    (notEmpty : digits ≠ []) {character : Char}
    (stops : ∀ previous, isNumberChar previous character = false)
    (spells : Spells lexemes (character :: rest)) :
    Spells (⟨.number, digits⟩ :: lexemes) (digits ++ character :: rest) := by
  obtain ⟨first, tail, rfl⟩ := List.exists_cons_of_ne_nil notEmpty
  have isDigit := areDigits first List.mem_cons_self
  refine .lexeme ⟨?_, first, tail, rfl, ?_⟩ spells
  · exact next?_of_isNameChar (isNameChar_of_isDigit isDigit) _
  · have split := splitNumber_digits
      (fun digit member => areDigits digit (List.mem_cons_of_mem _ member)) stops rest first
    rw [next_number (not_isNameStart_of_isDigit isDigit) (by simp [startsNumber, isDigit]), split]

/-- A storage word behind a location. -/
theorem Spells.layout {number word : List Char} (areDigits : ∀ digit ∈ number, digit.isDigit)
    (notEmpty : number ≠ []) (isName : IsName word)
    (spells : Spells lexemes rest) :
    Spells
      (⟨.name, "layout".toList⟩ :: ⟨.punctuation, ['(']⟩ :: ⟨.name, "location".toList⟩ ::
        ⟨.punctuation, ['=']⟩ :: ⟨.number, number⟩ :: ⟨.punctuation, [')']⟩ :: ⟨.name, word⟩ ::
        lexemes)
      ("layout".toList ++ ' ' :: '(' :: ("location".toList ++ ' ' :: '=' :: ' ' ::
        (number ++ ')' :: ' ' :: (word ++ ' ' :: rest)))) := by
  have closed := (spells.word isName).blank.mark (rfl : isMark ')')
  have located := (closed.digits areDigits notEmpty fun _ => rfl).equals
  have isLocation : IsName "location".toList := rfl
  have isLayout : IsName "layout".toList := rfl
  exact ((located.word isLocation).mark rfl).word isLayout

theorem Spells.separator (spells : Spells lexemes rest) (token : Token) :
    Spells lexemes (token.separator.toList ++ rest) := by
  have tabs : ∀ depth, Spells lexemes (List.replicate depth '\t' ++ rest) := by
    intro depth
    induction depth with
    | zero => exact spells
    | succ depth ih => exact .filler rfl ih
  have continued : ∀ count text, Spells lexemes text →
      Spells lexemes ((String.join (List.replicate count " \\\n")).toList ++ text) := by
    intro count text spells
    induction count with
    | zero => exact spells
    | succ count ih =>
        rw [List.replicate_succ, String.join_cons, String.toList_append, List.append_assoc]
        exact .blank (.filler rfl ih)
  unfold Token.separator
  rw [String.toList_append, List.append_assoc]
  apply continued
  split
  · have isLayout : ("\n" ++ String.ofList (List.replicate token.braceDepth '\t')).toList ++ rest =
        '\n' :: (List.replicate token.braceDepth '\t' ++ rest) := by simp
    rw [isLayout]
    exact .lineBreak (tabs token.braceDepth)
  · split
    · exact spells.blank
    · exact spells

/-- The layout of a token that stands apart starts with a blank or a line feed. -/
theorem resumes_separator {original written gap : List Char} {token : Token}
    (follows : token.Follows gap) (resumes : Resumes original written) :
    Resumes (gap ++ original) (token.separator.toList ++ written) := by
  cases gap with
  | nil =>
      have notSpaced : token.spaced = false := by
        rw [← Bool.not_eq_true, follows.spaced]
        exact fun notEmpty => notEmpty rfl
      have noLayout : token.separator = "" := by
        simp [Token.separator, notSpaced, follows.linesCrossed rfl, follows.continuations rfl]
      rw [noLayout]
      exact resumes
  | cons former gap =>
      have isSpaced : token.spaced = true := follows.spaced.mpr (List.cons_ne_nil _ _)
      have starts : ∃ character layout, token.separator.toList = character :: layout ∧
          isInert character := by
        unfold Token.separator
        cases token.continuations with
        | succ count => exact ⟨' ', _, by simp [List.replicate_succ]; rfl, rfl⟩
        | zero =>
            by_cases crossed : 0 < token.linesCrossed
            · exact ⟨'\n', _, by simp [crossed]; rfl, rfl⟩
            · exact ⟨' ', [], by simp [crossed, isSpaced], rfl⟩
      obtain ⟨character, layout, isLayout, inert⟩ := starts
      rw [isLayout]
      exact .inert inert former _ _

end Spelling

section Declaration

variable {lexemes : List Lexeme} {rest : List Char} {tokens : List Token} {text : List Char}

/-- Brackets keep the token between them apart, as it has text behind it. -/
theorem ArrayBrackets.spells {brackets : ArrayBrackets}
    (written : Token.Written (brackets.tokens ++ tokens) text)
    (noBackslash : ∀ token ∈ brackets.tokens, token.text ≠ "\\") (spells : Spells lexemes rest) :
    Spells (brackets.tokens.map Token.lexeme ++ lexemes)
      (brackets.tokens.flatMap (·.text.toList) ++ rest) := by
  have isOpening : brackets.opening.lexeme = ⟨.punctuation, ['[']⟩ := by
    obtain ⟨behind, cuts⟩ : ∃ behind, brackets.opening.lexeme.Cuts behind :=
      written.exists_cuts (by simp [ArrayBrackets.tokens])
    exact Token.lexeme_of_mark cuts (by rw [brackets.opens]; rfl) rfl
  have isClosing : brackets.closing.lexeme = ⟨.punctuation, [']']⟩ := by
    obtain ⟨behind, cuts⟩ : ∃ behind, brackets.closing.lexeme.Cuts behind :=
      written.exists_cuts (by simp [ArrayBrackets.tokens])
    exact Token.lexeme_of_mark cuts (by rw [brackets.closes]; rfl) rfl
  have closed := spells.mark (rfl : isMark ']')
  unfold ArrayBrackets.tokens at written noBackslash ⊢
  cases isLength : brackets.length with
  | none =>
      simpa [isOpening, isClosing, brackets.opens, brackets.closes] using
        closed.mark (rfl : isMark '[')
  | some token =>
      rw [isLength] at written noBackslash
      have written : Token.Written ([brackets.opening] ++ token :: brackets.closing :: tokens)
        text := written
      obtain ⟨former, behind, cuts⟩ := written.exists_cuts_before
      have notBackslash : token.lexeme.text ≠ ['\\'] := by
        intro isBackslash
        exact noBackslash token (by simp) (String.toList_inj.mp isBackslash)
      have resumes : Resumes (former :: behind) (']' :: rest) := .inert rfl former behind rest
      have inside := Spells.lexeme (cuts.resume notBackslash resumes) closed
      simpa [isOpening, isClosing, brackets.opens, brackets.closes] using
        inside.mark (rfl : isMark '[')

namespace DeclarationForm

variable {form : DeclarationForm}

theorem spells_brackets (written : Token.Written (form.bracketTokens ++ tokens) text)
    (noBackslash : ∀ token ∈ form.bracketTokens, token.text ≠ "\\")
    (spells : Spells lexemes rest) :
    Spells (form.bracketTokens.map Token.lexeme ++ lexemes)
        (form.bracketTokens.flatMap (·.text.toList) ++ rest) ∧
      (EndsName rest → EndsName (form.bracketTokens.flatMap (·.text.toList) ++ rest)) := by
  cases isBrackets : form.brackets with
  | none =>
      have noTokens : form.bracketTokens = [] := by simp [bracketTokens, isBrackets]
      rw [noTokens]
      exact ⟨spells, id⟩
  | some brackets =>
      have areTokens : form.bracketTokens = brackets.tokens := by
        simp [bracketTokens, isBrackets]
      rw [areTokens] at written noBackslash ⊢
      refine ⟨ArrayBrackets.spells written noBackslash spells, fun _ => ?_⟩
      simp only [ArrayBrackets.tokens, List.flatMap_cons, brackets.opens]
      exact endsName_cons rfl _

/-- The type of a declaration with the precision in front of it, and a blank. -/
theorem spells_type (hasSemantic : Bool)
    (areNames : ∀ token ∈ form.precision.toList ++ [form.type], IsName token.text.toList)
    (spells : Spells lexemes rest) :
    Spells ((form.precision.toList ++ [form.type]).map Token.lexeme ++ lexemes)
        ((form.slot hasSemantic).type.toList ++ ' ' :: rest) ∧
      StartsName ((form.slot hasSemantic).type.toList ++ ' ' :: rest) := by
  have typeLexeme : form.type.lexeme = ⟨.name, form.type.text.toList⟩ := by
    rw [Token.lexeme, form.isType.1]
  have typeIsName := areNames form.type (by simp)
  have typed := spells.word typeIsName
  cases isPrecision : form.precision with
  | none =>
      have isType : (form.slot hasSemantic).type = form.type.text := by simp [slot, isPrecision]
      rw [isType]
      exact ⟨by simpa [typeLexeme] using typed, typeIsName.startsName _⟩
  | some precision =>
      have precisionLexeme : precision.lexeme = ⟨.name, precision.text.toList⟩ := by
        rw [Token.lexeme, (form.isPrecision precision (by rw [isPrecision]; rfl)).1]
      have precisionIsName := areNames precision (by simp [isPrecision])
      have isType : (form.slot hasSemantic).type.toList ++ ' ' :: rest =
          precision.text.toList ++ ' ' :: (form.type.text.toList ++ ' ' :: rest) := by
        simp [slot, isPrecision]
      rw [isType]
      exact ⟨by simpa [typeLexeme, precisionLexeme] using typed.word precisionIsName,
        precisionIsName.startsName _⟩

/-- A declaration without its storage words. -/
theorem spells_kept (hasSemantic : Bool) (written : Token.Written (form.tokens ++ tokens) text)
    (noBackslash : ∀ token ∈ form.tokens, token.text ≠ "\\") (spells : Spells lexemes rest) :
    Spells (form.kept.map Token.lexeme ++ lexemes)
        (((form.slot hasSemantic).type ++ " " ++ (form.slot hasSemantic).name ++
          (form.slot hasSemantic).arraySuffix ++ ";").toList ++ rest) ∧
      StartsName (((form.slot hasSemantic).type ++ " " ++ (form.slot hasSemantic).name ++
          (form.slot hasSemantic).arraySuffix ++ ";").toList ++ rest) := by
  have isName : ∀ token ∈ form.tokens, token.kind = .name → IsName token.text.toList := by
    intro token member isKind
    obtain ⟨behind, cuts⟩ := written.exists_cuts (List.mem_append_left tokens member)
    exact (name_of_cuts cuts isKind).1
  have areNames : ∀ token ∈ form.precision.toList ++ [form.type],
      IsName token.text.toList := by
    intro token member
    refine isName token ?_ ?_
    · simp only [List.mem_append, List.mem_singleton] at member
      rcases member with member | rfl <;> simp [DeclarationForm.tokens, *]
    · rcases List.mem_append.mp member with member | member
      · exact (form.isPrecision token (Option.mem_toList.mp member)).1
      · rw [List.mem_singleton.mp member]
        exact form.isType.1
  have isSemicolon : form.semicolon.lexeme = ⟨.punctuation, [';']⟩ := by
    obtain ⟨behind, cuts⟩ : ∃ behind, form.semicolon.lexeme.Cuts behind :=
      written.exists_cuts (by simp [DeclarationForm.tokens])
    exact Token.lexeme_of_mark cuts (by rw [form.ends]; rfl) rfl
  have nameLexeme : form.name.lexeme = ⟨.name, form.name.text.toList⟩ := by
    rw [Token.lexeme, form.isName]
  obtain ⟨behind, writtenBrackets⟩ : ∃ behind, Token.Written
      (form.bracketTokens ++ (form.clauseTokens ++ form.semicolon :: tokens)) behind := by
    have written : Token.Written ((form.precision.toList ++ [form.type, form.name]) ++
        (form.bracketTokens ++ (form.clauseTokens ++ form.semicolon :: tokens))) text := by
      simpa [DeclarationForm.tokens] using written
    exact written.of_append
  -- The text is put together from its end: semicolon, brackets, name, type.
  obtain ⟨brackets, ends⟩ := spells_brackets writtenBrackets
    (fun token member => noBackslash token (by simp [DeclarationForm.tokens, member]))
    (spells.mark (rfl : isMark ';'))
  have named := brackets.name
    (isName form.name (by simp [DeclarationForm.tokens]) form.isName) (ends (endsName_cons rfl _))
  obtain ⟨typed, starts⟩ := spells_type hasSemantic areNames named
  have isText : ((form.slot hasSemantic).type ++ " " ++ (form.slot hasSemantic).name ++
      (form.slot hasSemantic).arraySuffix ++ ";").toList ++ rest =
      (form.slot hasSemantic).type.toList ++ ' ' :: (form.name.text.toList ++
        (form.bracketTokens.flatMap (·.text.toList) ++ ';' :: rest)) := by
    simp [slot, List.flatMap_map]
  have areKept : form.kept.map Token.lexeme ++ lexemes =
      (form.precision.toList ++ [form.type]).map Token.lexeme ++
        ⟨.name, form.name.text.toList⟩ :: (form.bracketTokens.map Token.lexeme ++
          ⟨.punctuation, [';']⟩ :: lexemes) := by
    simp [kept, nameLexeme, isSemicolon]
  rw [isText, areKept]
  exact ⟨typed, starts⟩

end DeclarationForm

end Declaration

namespace Dialect

/-- Words in front of a declaration, which may be missing. -/
structure IsStorage (text : String) : Prop where
  leads : LeadsTo (fun _ => True) text
  starts : text = "" ∨ StartsName text.toList

theorem isStorage_empty : IsStorage "" :=
  ⟨leadsTo_of_spells [] trivial fun _ _ _ spells => spells, Or.inl rfl⟩

theorem isStorage_word {word : String} (isName : IsName word.toList) :
    IsStorage (word ++ " ") := by
  refine ⟨leadsTo_of_spells [⟨.name, word.toList⟩] trivial fun more rest _ spells => ?_, ?_⟩
  · rw [String.toList_append, List.append_assoc]
    exact spells.word isName
  · rw [String.toList_append]
    exact Or.inr (isName.startsName _)

theorem isStorage_located (direction : Direction) (location : UInt32) :
    IsStorage (locatedQualifier direction (some location)) := by
  have isKeyword : IsName direction.keyword.toList := by cases direction <;> rfl
  have areDigits : ∀ digit ∈ (Nat.repr location.toNat).toList, digit.isDigit :=
    fun _ member => Text.isDigit_of_mem_repr member
  have notEmpty : (Nat.repr location.toNat).toList ≠ [] := by
    rw [Nat.repr, String.toList_ofList]
    exact Nat.toDigits_ne_nil
  change IsStorage ("layout (location = " ++ Nat.repr location.toNat ++ ") " ++
    direction.keyword ++ " ")
  generalize Nat.repr location.toNat = number at areDigits notEmpty ⊢
  refine ⟨leadsTo_of_spells
    [⟨.name, "layout".toList⟩, ⟨.punctuation, ['(']⟩, ⟨.name, "location".toList⟩,
      ⟨.punctuation, ['=']⟩, ⟨.number, number.toList⟩, ⟨.punctuation, [')']⟩,
      ⟨.name, direction.keyword.toList⟩] trivial fun more rest _ spells => ?_, ?_⟩
  · have layout := spells.layout areDigits notEmpty isKeyword
    simpa using layout
  · have starts : StartsName "layout (location = ".toList := ⟨'l', _, rfl, rfl⟩
    simp only [String.toList_append, List.append_assoc]
    exact Or.inr (starts.append _)

theorem isStorage_storageQualifier (caps : Capabilities) (stage : Stage) (direction : Direction)
    (slot : InterfaceSlot) : IsStorage (storageQualifier caps stage direction slot) := by
  have inWord : IsStorage "in " := isStorage_word (rfl : IsName "in".toList)
  have outWord : IsStorage "out " := isStorage_word (rfl : IsName "out".toList)
  have varying : IsStorage "varying " := isStorage_word (rfl : IsName "varying".toList)
  have located : ∀ direction location, IsStorage (locatedQualifier direction location) := by
    intro direction location
    cases location with
    | some location => exact isStorage_located direction location
    | none =>
        cases direction with
        | input => exact inWord
        | output => exact outWord
  unfold storageQualifier
  split
  · split
    · exact isStorage_word (rfl : IsName "attribute".toList)
    · split
      · exact inWord
      · exact located _ _
  · split
    · exact isStorage_empty
    · split
      · exact located _ _
      · exact outWord
  · split
    · exact varying
    · exact inWord
  · split
    · exact varying
    · exact outWord

theorem IsStorage.startsName {text : String} (storage : IsStorage text) {rest : List Char}
    (starts : StartsName rest) : StartsName (text.toList ++ rest) := by
  rcases storage.starts with rfl | starts'
  · exact starts
  · exact starts'.append rest

theorem leadsTo_name {word : String} (isName : IsName word.toList) : LeadsTo EndsName word := by
  have ended : EndsName [] := by
    intro character isHead
    cases isHead
  exact leadsTo_of_spells [⟨.name, word.toList⟩] ended
    fun more rest ends spells => spells.name isName ends

/-- An element of an array that is named by a word. -/
theorem leadsTo_element {word : String} (isName : IsName word.toList) {digit : Char}
    (isDigit : digit.isDigit) :
    LeadsTo EndsName (word ++ String.ofList ['[', digit, ']']) := by
  have ended : EndsName [] := by
    intro character isHead
    cases isHead
  refine leadsTo_of_spells [⟨.name, word.toList⟩, ⟨.punctuation, ['[']⟩, ⟨.number, [digit]⟩,
    ⟨.punctuation, [']']⟩] ended fun more rest _ spells => ?_
  have areDigits : ∀ other ∈ [digit], other.isDigit := by simpa using isDigit
  have element := ((spells.mark (rfl : isMark ']')).digits areDigits (by simp) fun _ => rfl).mark
    (rfl : isMark '[')
  simpa using element.name isName (endsName_cons rfl _)

theorem leadsTo_builtIn {location version : UInt32} {builtIn : String}
    (isLive : LegacyOutput.substitute? location version = some builtIn) :
    LeadsTo EndsName builtIn ∧ StartsName builtIn.toList := by
  obtain ⟨output, found, isBuiltIn⟩ := Option.bind_eq_some_iff.mp isLive
  have member : output ∈ LegacyOutput.all := List.mem_of_getElem? found
  have isName : IsName "gl_FragData".toList := rfl
  split at isBuiltIn
  · cases isBuiltIn
    simp only [LegacyOutput.all, List.mem_cons, List.not_mem_nil, or_false] at member
    rcases member with rfl | rfl | rfl | rfl | rfl | rfl
    · exact ⟨leadsTo_name rfl, _, _, rfl, rfl⟩
    · exact ⟨leadsTo_element isName (rfl : '0'.isDigit), _, _, rfl, rfl⟩
    · exact ⟨leadsTo_element isName (rfl : '1'.isDigit), _, _, rfl, rfl⟩
    · exact ⟨leadsTo_element isName (rfl : '2'.isDigit), _, _, rfl, rfl⟩
    · exact ⟨leadsTo_element isName (rfl : '3'.isDigit), _, _, rfl, rfl⟩
    · exact ⟨leadsTo_name rfl, _, _, rfl, rfl⟩
  · cases isBuiltIn

end Dialect

end ShaderPipeline
