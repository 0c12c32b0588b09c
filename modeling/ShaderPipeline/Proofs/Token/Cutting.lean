import Mathlib.Data.List.TakeWhile
import ShaderPipeline.Proofs.Token.Lexing

/-!
# Where lexemes end

A lexeme is as long as the text allows, so whether two of them stay apart
depends on what stands behind each.  This file says when one text can stand in
for another behind a lexeme, and how a text is cut that was put together from
lexemes and filler.
-/

namespace ShaderPipeline

namespace Lexeme

/-- The lexeme is cut off when it stands before `rest`. -/
def Cuts (lexeme : Lexeme) (rest : List Char) : Prop :=
  Filler.next? (lexeme.text ++ rest) = none ∧
    ∃ first tail, lexeme.text = first :: tail ∧ next first (tail ++ rest) = (lexeme, rest)

/-- Characters that no lexeme but a backslash or a string goes on with. -/
def isInert (character : Char) : Bool :=
  character == ' ' || character == '\n' || character == '[' || character == ']' ||
    character == ';'

def EndsName (text : List Char) : Prop :=
  ∀ character, text.head? = some character → isNameChar character = false

/-- Both texts are the same up to a point.  There `written` ends, or goes on with a character
that ends most lexemes, or both go on with a name. -/
inductive Resumes : List Char → List Char → Prop
  | same {original written : List Char} (character : Char) (resumes : Resumes original written) :
      Resumes (character :: original) (character :: written)
  | ended (original : List Char) : Resumes original []
  | inert {character : Char} (isInert : isInert character) (former : Char)
      (original written : List Char) : Resumes (former :: original) (character :: written)
  | named {former character : Char} (wasName : isNameStart former)
      (isName : isNameStart character) (original written : List Char) :
      Resumes (former :: original) (character :: written)

theorem isInert_iff {character : Char} : isInert character ↔
    character = ' ' ∨ character = '\n' ∨ character = '[' ∨ character = ']' ∨ character = ';' := by
  simp [isInert, or_assoc]

theorem isNameChar_eq_false_of_isInert {character : Char} (inert : isInert character) :
    isNameChar character = false := by
  rcases isInert_iff.mp inert with rfl | rfl | rfl | rfl | rfl <;> decide

theorem isNumberChar_eq_false_of_isInert {character : Char} (inert : isInert character)
    (previous : Char) : isNumberChar previous character = false := by
  rcases isInert_iff.mp inert with rfl | rfl | rfl | rfl | rfl <;> rfl

theorem isNumberChar_of_isNameChar {character : Char} (isName : isNameChar character)
    (previous : Char) : isNumberChar previous character := by
  simp [isNumberChar, isName]

theorem isNameChar_of_isDigit {character : Char} (digit : character.isDigit) :
    isNameChar character := by
  simp [isNameChar, Char.isAlphanum, digit]

theorem code_of_isNameStart {character : Char} (start : isNameStart character) :
    65 ≤ character.val.toNat := by
  have start : (character.isUpper || character.isLower || character == '_') = true := start
  rw [Bool.or_eq_true, Bool.or_eq_true] at start
  rcases start with (upper | lower) | underscore
  · have upper : character.val ≥ 'A'.val ∧ character.val ≤ 'Z'.val := of_decide_eq_true upper
    exact UInt32.le_iff_toNat_le.mp upper.1
  · have lower : (decide (97 ≤ character.val.toNat) && decide (character.val.toNat ≤ 122)) :=
      lower
    simp only [Bool.and_eq_true, decide_eq_true_eq] at lower
    omega
  · rw [beq_iff_eq] at underscore
    subst underscore
    decide

theorem not_isNameStart_of_isDigit {character : Char} (digit : character.isDigit) :
    isNameStart character = false := by
  have digit : (decide (48 ≤ character.val.toNat) && decide (character.val.toNat ≤ 57)) := digit
  simp only [Bool.and_eq_true, decide_eq_true_eq] at digit
  by_contra start
  rw [Bool.not_eq_false] at start
  have code := code_of_isNameStart start
  omega

section Resumes

variable {original written : List Char}

theorem Resumes.append (common : List Char) (resumes : Resumes original written) :
    Resumes (common ++ original) (common ++ written) := by
  induction common with
  | nil => exact resumes
  | cons character rest ih => exact .same character ih

/-- A character that can join two lexemes was there before. -/
theorem Resumes.head?_eq {character : Char} (resumes : Resumes original written)
    (isHead : written.head? = some character) (notInert : isInert character = false)
    (notName : isNameStart character = false) : original.head? = some character := by
  cases resumes with
  | same common rest => exact isHead
  | ended => cases isHead
  | inert inert =>
      cases isHead
      rw [inert] at notInert
      cases notInert
  | named wasName isName =>
      cases isHead
      rw [isName] at notName
      cases notName

theorem Resumes.eq_nil (resumes : Resumes [] written) : written = [] := by
  cases resumes
  rfl

theorem Resumes.endsName (resumes : Resumes original written) (ends : EndsName original) :
    EndsName written := by
  intro character isHead
  cases resumes with
  | same common rest => exact ends character isHead
  | ended => cases isHead
  | inert inert =>
      cases isHead
      exact isNameChar_eq_false_of_isInert inert
  | named wasName isName =>
      have goesOn := isNameChar_of_isNameStart wasName
      rw [ends _ rfl] at goesOn
      cases goesOn

/-- Operators have none of the characters at which the texts can part. -/
theorem not_inert_of_mem_operators {operator : List Char} (isOperator : operator ∈ operators)
    {character : Char} (member : character ∈ operator) :
    isInert character = false ∧ isNameStart character = false := by
  have checked : operators.all (·.all fun character =>
      !isInert character && !isNameStart character) := rfl
  have passes := List.all_eq_true.mp (List.all_eq_true.mp checked operator isOperator)
    character member
  simpa using passes

theorem Resumes.operator_of_append {operator : List Char} (isOperator : ∀ character ∈ operator,
    isInert character = false ∧ isNameStart character = false)
    (resumes : Resumes original written) (found : operator <+: written) :
    operator <+: original := by
  induction resumes generalizing operator with
  | ended original =>
      rw [List.prefix_nil.mp found]
      exact List.nil_prefix
  | same character resumes ih =>
      cases operator with
      | nil => exact List.nil_prefix
      | cons first rest =>
          rw [List.cons_prefix_cons] at found ⊢
          exact ⟨found.1, ih (fun character member => isOperator character (.tail _ member))
            found.2⟩
  | inert inert former original written =>
      cases operator with
      | nil => exact List.nil_prefix
      | cons first rest =>
          obtain ⟨rfl, -⟩ := List.cons_prefix_cons.mp found
          rw [(isOperator first List.mem_cons_self).1] at inert
          cases inert
  | named wasName isName original written =>
      cases operator with
      | nil => exact List.nil_prefix
      | cons first rest =>
          obtain ⟨rfl, -⟩ := List.cons_prefix_cons.mp found
          rw [(isOperator first List.mem_cons_self).2] at isName
          cases isName

theorem takeWhile_of_endsName {text : List Char} (ends : EndsName text) :
    text.takeWhile isNameChar = [] ∧ text.dropWhile isNameChar = text := by
  cases text with
  | nil => exact ⟨rfl, rfl⟩
  | cons character rest =>
      have stops := ends character rfl
      simp [stops]

theorem next_name {first : Char} {tail rest : List Char} (start : isNameStart first)
    (chars : ∀ character ∈ tail, isNameChar character) (ends : EndsName rest) :
    next first (tail ++ rest) = (⟨.name, first :: tail⟩, rest) := by
  obtain ⟨taken, dropped⟩ := takeWhile_of_endsName ends
  unfold next
  rw [if_pos start, List.takeWhile_append_of_pos chars, List.dropWhile_append_of_pos chars,
    taken, dropped, List.append_nil]

theorem endsName_dropWhile (text : List Char) : EndsName (text.dropWhile isNameChar) := by
  intro character isHead
  have stops := List.head?_dropWhile_not isNameChar text
  rw [isHead] at stops
  simpa using stops

/-- A name is cut off where it ends. -/
theorem of_next_name {first : Char} {tail rest : List Char} {lexeme : Lexeme}
    (start : isNameStart first) (isText : lexeme.text = first :: tail)
    (cut : next first (tail ++ rest) = (lexeme, rest)) :
    lexeme.kind = .name ∧ (∀ character ∈ tail, isNameChar character) ∧ EndsName rest := by
  unfold next at cut
  rw [if_pos start, Prod.mk.injEq] at cut
  obtain ⟨rfl, isRest⟩ := cut
  refine ⟨rfl, ?_, isRest ▸ endsName_dropWhile _⟩
  have isTail : (tail ++ rest).takeWhile isNameChar = tail := (List.cons.inj isText).2
  intro character member
  rw [← isTail] at member
  exact List.mem_takeWhile_imp member

theorem splitNumber_resume (resumes : Resumes original written) {digits : List Char}
    {previous : Char} (cut : splitNumber previous (digits ++ original) = (digits, original)) :
    splitNumber previous (digits ++ written) = (digits, written) := by
  induction digits generalizing previous with
  | nil =>
      cases resumes with
      | ended => rfl
      | same character resumes =>
          simp only [List.nil_append, splitNumber] at cut ⊢
          split at cut
          · cases cut
          · next stops => rw [if_neg stops]
      | inert inert =>
          simp only [List.nil_append, splitNumber]
          rw [isNumberChar_eq_false_of_isInert inert]
          rfl
      | named wasName =>
          simp only [List.nil_append, splitNumber] at cut
          rw [if_pos (isNumberChar_of_isNameChar (isNameChar_of_isNameStart wasName) _)] at cut
          cases cut
  | cons digit digits ih =>
      simp only [List.cons_append, splitNumber] at cut ⊢
      split at cut
      · next goesOn =>
          rw [if_pos goesOn]
          simp only [Prod.mk.injEq, List.cons.injEq, true_and] at cut
          rw [ih (Prod.ext cut.1 cut.2)]
      · cases cut

theorem splitString_cons {character : Char} (notQuote : character ≠ '"')
    (notBackslash : character ≠ '\\') (rest : List Char) :
    splitString (character :: rest) =
      (character :: (splitString rest).1, (splitString rest).2) := by
  rw [splitString]
  · exact notQuote
  · exact fun isBackslash _ => notBackslash isBackslash
  · exact fun _ _ isBackslash _ => notBackslash isBackslash

/-- An open string runs to the end, so the text behind it is empty. -/
theorem splitString_resume (ended : original = [] → written = []) (body : List Char)
    (cut : splitString (body ++ original) = (body, original)) :
    splitString (body ++ written) = (body, written) := by
  induction body using splitString.induct with
  | case1 =>
      cases original with
      | nil =>
          rw [ended rfl]
          rfl
      | cons character rest =>
          rw [List.nil_append] at cut
          unfold splitString at cut
          split at cut <;> simp at cut
  | case2 rest =>
      simp only [List.cons_append, splitString, Prod.mk.injEq, List.cons.injEq, true_and] at cut ⊢
      obtain ⟨isRest, -⟩ := cut
      rw [← isRest]
      exact ⟨rfl, rfl⟩
  | case3 =>
      cases original with
      | nil =>
          rw [ended rfl]
          rfl
      | cons escaped rest => simp [splitString] at cut
  | case4 escaped rest body after split ih =>
      simp only [List.cons_append, splitString, Prod.mk.injEq, List.cons.injEq, true_and] at cut
      have inner := ih (Prod.ext cut.1 cut.2)
      simp only [List.cons_append, splitString, inner]
  | case5 character rest notQuote notLast notEscape body after split ih =>
      have notBackslash : character ≠ '\\' := by
        intro isBackslash
        cases rest with
        | nil => exact notLast isBackslash rfl
        | cons escaped rest => exact notEscape escaped rest isBackslash rfl
      rw [List.cons_append, splitString_cons notQuote notBackslash, Prod.mk.injEq,
        List.cons.injEq] at cut
      rw [List.cons_append, splitString_cons notQuote notBackslash,
        ih (Prod.ext cut.1.2 cut.2)]

theorem splitPunctuation_resume (resumes : Resumes original written) {first : Char}
    {tail : List Char}
    (cut : splitPunctuation first (tail ++ original) = (first :: tail, original)) :
    splitPunctuation first (tail ++ written) = (first :: tail, written) := by
  have whole : Resumes (first :: (tail ++ original)) (first :: (tail ++ written)) :=
    resumes.append (first :: tail)
  -- Operators that are tried in vain on the original text are tried in vain again.
  have inVain : ∀ operator ∈ operators, ¬ operator.isPrefixOf (first :: (tail ++ original)) →
      ¬ operator.isPrefixOf (first :: (tail ++ written)) := by
    intro operator member fails found
    rw [List.isPrefixOf_iff_prefix] at fails found
    exact fails (whole.operator_of_append
      (fun _ inside => not_inert_of_mem_operators member inside) found)
  have isTail : (first :: tail).isPrefixOf (first :: (tail ++ written)) :=
    List.isPrefixOf_iff_prefix.mpr ⟨written, rfl⟩
  unfold splitPunctuation at cut ⊢
  split at cut
  · next operator found =>
      rw [Prod.mk.injEq] at cut
      obtain ⟨rfl, -⟩ := cut
      have foundAgain : operators.find? (·.isPrefixOf (first :: (tail ++ written))) =
          some (first :: tail) := by
        rw [List.find?_eq_some_iff_append] at found ⊢
        obtain ⟨-, before, behind, isSplit, before_fail⟩ := found
        refine ⟨isTail, before, behind, isSplit, ?_⟩
        intro operator member
        have known : operator ∈ operators := isSplit ▸ List.mem_append_left _ member
        have fails := before_fail operator member
        rw [Bool.not_eq_true', ← Bool.not_eq_true] at fails ⊢
        exact inVain operator known fails
      rw [foundAgain]
      simp
  · next found =>
      rw [Prod.mk.injEq, List.cons.injEq] at cut
      obtain ⟨⟨-, rfl⟩, -⟩ := cut
      have foundAgain : operators.find? (·.isPrefixOf (first :: ([] ++ written))) = none := by
        rw [List.find?_eq_none] at found ⊢
        exact fun operator member => inVain operator member (found operator member)
      rw [foundAgain]
      rfl

/-- When no filler stands at the start of a text. -/
theorem next?_eq_none_iff {first : Char} (notBackslash : first ≠ '\\') (rest : List Char) :
    Filler.next? (first :: rest) = none ↔
      first ≠ '\n' ∧ Filler.isBlank first = false ∧
        (first = '/' → rest.head? ≠ some '/' ∧ rest.head? ≠ some '*') := by
  unfold Filler.next?
  split
  · simp_all
  · simp_all
  · simp_all
  · simp_all
  · simp_all
  · next character tail notFeed _ _ notLine notBlock isText =>
      obtain ⟨rfl, rfl⟩ := List.cons.inj isText
      cases rest <;> simp_all
  · simp_all

theorem next_backslash (rest : List Char) :
    next '\\' rest = (⟨.punctuation, ['\\']⟩, rest) := by
  rfl

def startsNumber (first : Char) (rest : List Char) : Bool :=
  first.isDigit || (first == '.' && startsWithDigit rest)

theorem next_number {first : Char} {rest : List Char} (notName : isNameStart first = false)
    (isNumber : startsNumber first rest) :
    next first rest =
      (⟨.number, first :: (splitNumber first rest).1⟩, (splitNumber first rest).2) := by
  unfold startsNumber at isNumber
  unfold next
  rw [if_neg (by simp [notName]), if_pos isNumber]

theorem next_punctuation {first : Char} {rest : List Char} (notName : isNameStart first = false)
    (notNumber : startsNumber first rest = false) (notString : first ≠ '"')
    (notSign : first ≠ '#') :
    next first rest =
      (⟨.punctuation, (splitPunctuation first rest).1⟩, (splitPunctuation first rest).2) := by
  unfold next
  rw [if_neg (by simp [notName]), if_neg (by simpa [startsNumber] using notNumber),
    if_neg (by simpa using notString), if_neg (by simpa using notSign)]

theorem next_string (rest : List Char) :
    next '"' rest = (⟨.string, '"' :: (splitString rest).1⟩, (splitString rest).2) := by
  rfl

theorem next_sign_resume (resumes : Resumes original written) {kind : TokenKind}
    {tail : List Char} (cut : next '#' (tail ++ original) = (⟨kind, '#' :: tail⟩, original)) :
    next '#' (tail ++ written) = (⟨kind, '#' :: tail⟩, written) := by
  have double : ∀ rest, next '#' ('#' :: rest) = (⟨.preprocessor, ['#', '#']⟩, rest) :=
    fun _ => rfl
  have single : ∀ rest : List Char, rest.head? ≠ some '#' →
      next '#' rest = (⟨.preprocessor, ['#']⟩, rest) := by
    intro rest notHead
    have notNumber : ¬ ('#'.isDigit || '#' == '.' && startsWithDigit rest) = true :=
      Bool.false_ne_true
    have isSign : ('#' == '#') = true := rfl
    unfold next
    rw [if_neg (by decide), if_neg notNumber, if_neg (by decide), if_pos isSign]
    split
    · exact absurd rfl notHead
    · rfl
  by_cases isHead : (tail ++ original).head? = some '#'
  · obtain ⟨rest, isRest⟩ := List.head?_eq_some_iff.mp isHead
    rw [isRest, double, Prod.mk.injEq, Lexeme.mk.injEq] at cut
    obtain ⟨⟨rfl, isTail⟩, -⟩ := cut
    obtain ⟨-, rfl⟩ := List.cons.inj isTail
    exact double written
  · rw [single _ isHead, Prod.mk.injEq, Lexeme.mk.injEq] at cut
    obtain ⟨⟨rfl, isTail⟩, -⟩ := cut
    obtain ⟨-, rfl⟩ := List.cons.inj isTail
    exact single written fun isHead' => isHead (resumes.head?_eq isHead' rfl rfl)

/-- A literal that starts with a point has a digit behind it. -/
theorem startsNumber_resume {first : Char} {tail : List Char}
    (isNumber : startsNumber first (tail ++ original))
    (cut : splitNumber first (tail ++ original) = (tail, original)) :
    startsNumber first (tail ++ written) := by
  cases tail with
  | cons digit tail => exact isNumber
  | nil =>
      cases original with
      | nil =>
          have isDigit : first.isDigit := by simpa [startsNumber, startsWithDigit] using isNumber
          simp [startsNumber, isDigit]
      | cons digit rest =>
          simp only [startsNumber, List.nil_append, startsWithDigit, Bool.or_eq_true,
            Bool.and_eq_true] at isNumber ⊢
          rcases isNumber with isDigit | ⟨-, isDigit⟩
          · exact Or.inl isDigit
          · rw [List.nil_append, splitNumber, if_pos
              (isNumberChar_of_isNameChar (isNameChar_of_isDigit isDigit) _)] at cut
            cases cut

theorem not_startsNumber_resume (resumes : Resumes original written) {first : Char}
    {tail : List Char} (notNumber : startsNumber first (tail ++ original) = false) :
    startsNumber first (tail ++ written) = false := by
  have whole := resumes.append tail
  generalize tail ++ original = original at notNumber whole
  generalize tail ++ written = written at whole
  simp only [startsNumber, Bool.or_eq_false_iff, Bool.and_eq_false_iff] at notNumber ⊢
  refine ⟨notNumber.1, notNumber.2.imp_right fun noDigit => ?_⟩
  cases written with
  | nil => rfl
  | cons digit rest =>
      change digit.isDigit = false
      by_contra isDigit
      rw [Bool.not_eq_false] at isDigit
      have notInert : isInert digit = false := by
        by_contra inert
        rw [Bool.not_eq_false, isInert_iff] at inert
        rcases inert with rfl | rfl | rfl | rfl | rfl <;> exact absurd isDigit (by decide)
      have wasHead := whole.head?_eq rfl notInert (not_isNameStart_of_isDigit isDigit)
      obtain ⟨rest, rfl⟩ := List.head?_eq_some_iff.mp wasHead
      rw [startsWithDigit, isDigit] at noDigit
      cases noDigit

theorem next_resume (resumes : Resumes original written) {lexeme : Lexeme} {first : Char}
    {tail : List Char} (isText : lexeme.text = first :: tail)
    (cut : next first (tail ++ original) = (lexeme, original)) :
    next first (tail ++ written) = (lexeme, written) := by
  obtain ⟨kind, text⟩ := lexeme
  subst isText
  by_cases isName : isNameStart first
  · obtain ⟨isKind, chars, ends⟩ := of_next_name isName rfl cut
    rw [next_name isName chars (resumes.endsName ends), ← isKind]
  rw [Bool.not_eq_true] at isName
  -- The first character decides on the class, but for a point before a digit.
  by_cases isNumber : startsNumber first (tail ++ original)
  · rw [next_number isName isNumber, Prod.mk.injEq, Lexeme.mk.injEq, List.cons.injEq] at cut
    obtain ⟨⟨rfl, -, digits⟩, after⟩ := cut
    have cut : splitNumber first (tail ++ original) = (tail, original) := Prod.ext digits after
    rw [next_number isName (startsNumber_resume isNumber cut), splitNumber_resume resumes cut]
  rw [Bool.not_eq_true] at isNumber
  have notNumber := not_startsNumber_resume resumes isNumber
  by_cases isString : first = '"'
  · subst isString
    rw [next_string, Prod.mk.injEq, Lexeme.mk.injEq, List.cons.injEq] at cut
    obtain ⟨⟨rfl, -, body⟩, after⟩ := cut
    have ended : original = [] → written = [] := by
      rintro rfl
      exact resumes.eq_nil
    rw [next_string, splitString_resume ended tail (Prod.ext body after)]
  by_cases isSign : first = '#'
  · subst isSign
    exact next_sign_resume resumes cut
  rw [next_punctuation isName isNumber isString isSign, Prod.mk.injEq, Lexeme.mk.injEq] at cut
  obtain ⟨⟨rfl, text⟩, after⟩ := cut
  rw [next_punctuation isName notNumber isString isSign,
    splitPunctuation_resume resumes (Prod.ext text after)]

/-- Another text behind a lexeme that leaves it as it was. -/
theorem Cuts.resume {lexeme : Lexeme} (cuts : lexeme.Cuts original)
    (notBackslash : lexeme.text ≠ ['\\']) (resumes : Resumes original written) :
    lexeme.Cuts written := by
  obtain ⟨noFiller, first, tail, isText, cut⟩ := cuts
  refine ⟨?_, first, tail, isText, next_resume resumes isText cut⟩
  -- A backslash would become a continuation before a line feed.
  have isFirst : first ≠ '\\' := by
    rintro rfl
    rw [next_backslash] at cut
    exact notBackslash (congrArg (·.1.text) cut).symm
  rw [isText, List.cons_append, next?_eq_none_iff isFirst] at noFiller ⊢
  obtain ⟨notFeed, notBlank, noComment⟩ := noFiller
  refine ⟨notFeed, notBlank, fun isSlash => ?_⟩
  have whole := resumes.append tail
  exact ⟨fun isHead => (noComment isSlash).1 (whole.head?_eq isHead rfl rfl),
    fun isHead => (noComment isSlash).2 (whole.head?_eq isHead rfl rfl)⟩

end Resumes

end Lexeme

end ShaderPipeline
