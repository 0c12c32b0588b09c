import ShaderPipeline.Token.Classes

/-!
# Lexemes

A lexeme is the text of one token with its lexical class.  Nothing is checked
here: any text splits into lexemes, and an open string or a stray character is
a lexeme of its own.
-/

namespace ShaderPipeline

/-- The text of a token and its class. -/
structure Lexeme where
  kind : TokenKind
  text : List Char
deriving Repr, DecidableEq

namespace Lexeme

/-- Operators of more than one character, the longer ones first. -/
def operators : List (List Char) :=
  [['>', '>', '='], ['<', '<', '='], ['.', '.', '.'],
    ['&', '&'], ['|', '|'], ['^', '^'], ['=', '='], ['!', '='], ['<', '='], ['>', '='],
    ['+', '='], ['-', '='], ['*', '='], ['/', '='], ['%', '='], ['&', '='], ['|', '='],
    ['^', '='], ['+', '+'], ['-', '-'], ['<', '<'], ['>', '>']]

/-- Splits off the rest of a literal whose last character was `previous`. -/
def splitNumber (previous : Char) : List Char → List Char × List Char
  | [] => ([], [])
  | character :: rest =>
      if isNumberChar previous character then
        let (digits, after) := splitNumber character rest
        (character :: digits, after)
      else ([], character :: rest)

/-- Splits off the rest of a string behind its opening quote.  A backslash
takes the next character with it. -/
def splitString : List Char → List Char × List Char
  | [] => ([], [])
  | '"' :: rest => (['"'], rest)
  | ['\\'] => (['\\'], [])
  | '\\' :: escaped :: rest =>
      let (body, after) := splitString rest
      ('\\' :: escaped :: body, after)
  | character :: rest =>
      let (body, after) := splitString rest
      (character :: body, after)

def startsWithDigit : List Char → Bool
  | character :: _ => character.isDigit
  | [] => false

/-- Splits off an operator, or the single character that stands first. -/
def splitPunctuation (first : Char) (rest : List Char) : List Char × List Char :=
  match operators.find? (·.isPrefixOf (first :: rest)) with
  | some operator => (operator, (first :: rest).drop operator.length)
  | none => ([first], rest)

/-- The lexeme that starts with `first`, and the text behind it. -/
def next (first : Char) (rest : List Char) : Lexeme × List Char :=
  if isNameStart first then
    (⟨.name, first :: rest.takeWhile isNameChar⟩, rest.dropWhile isNameChar)
  else if first.isDigit || (first == '.' && startsWithDigit rest) then
    let (digits, after) := splitNumber first rest
    (⟨.number, first :: digits⟩, after)
  else if first == '"' then
    let (body, after) := splitString rest
    (⟨.string, first :: body⟩, after)
  else if first == '#' then
    match rest with
    | '#' :: after => (⟨.preprocessor, ['#', '#']⟩, after)
    | _ => (⟨.preprocessor, ['#']⟩, rest)
  else
    let (text, after) := splitPunctuation first rest
    (⟨.punctuation, text⟩, after)

/-- Line feeds inside a lexeme that end a line: a feed behind a backslash does
not count.  Only strings have any. -/
def lineBreaks : List Char → Nat
  | [] => 0
  | '\n' :: rest => lineBreaks rest + 1
  | ['\\'] => 0
  | '\\' :: _ :: rest => lineBreaks rest
  | _ :: rest => lineBreaks rest

theorem lineBreaks_cons {first : Char} (notBackslash : first ≠ '\\') (rest : List Char) :
    lineBreaks (first :: rest) = lineBreaks rest + if first = '\n' then 1 else 0 := by
  by_cases isFeed : first = '\n'
  · rw [if_pos isFeed, isFeed, lineBreaks]
  · rw [if_neg isFeed, lineBreaks]
    · rfl
    · exact isFeed
    · exact fun isLast => absurd isLast notBackslash
    · exact fun _ _ isEscape => absurd isEscape notBackslash

theorem lineBreaks_of_notMem {text : List Char} (oneLine : '\n' ∉ text) : lineBreaks text = 0 := by
  fun_induction lineBreaks text with
  | case1 => rfl
  | case2 rest ih => exact absurd List.mem_cons_self oneLine
  | case3 => rfl
  | case4 escaped rest ih =>
      exact ih fun inside => oneLine (List.mem_cons_of_mem _ (List.mem_cons_of_mem _ inside))
  | case5 first rest notFeed notLast notEscape ih =>
      exact ih fun inside => oneLine (List.mem_cons_of_mem _ inside)

/-- Splitting a literal loses nothing. -/
theorem splitNumber_append (previous : Char) (input : List Char) :
    (splitNumber previous input).1 ++ (splitNumber previous input).2 = input := by
  induction input generalizing previous with
  | nil => rfl
  | cons character rest ih =>
      unfold splitNumber
      split <;> simp [ih]

/-- Splitting a string loses nothing. -/
theorem splitString_append (input : List Char) :
    (splitString input).1 ++ (splitString input).2 = input := by
  fun_induction splitString input <;> simp_all

/-- Splitting punctuation loses nothing. -/
theorem splitPunctuation_append (first : Char) (rest : List Char) :
    (splitPunctuation first rest).1 ++ (splitPunctuation first rest).2 = first :: rest := by
  unfold splitPunctuation
  split
  · next operator found =>
      have matching := List.find?_some found
      obtain ⟨after, whole⟩ := List.isPrefixOf_iff_prefix.mp matching
      simp [← whole]
  · rfl

/-- Every operator has a first character. -/
theorem ne_nil_of_mem_operators {operator : List Char}
    (member : operator ∈ operators) : operator ≠ [] := by
  simp only [operators, List.mem_cons, List.not_mem_nil, or_false] at member
  grind

/-- The lexeme and the text behind it make up the whole text. -/
theorem next_append (first : Char) (rest : List Char) :
    (next first rest).1.text ++ (next first rest).2 = first :: rest := by
  unfold next
  split
  · simp
  · split
    · simp [splitNumber_append]
    · split
      · simp [splitString_append]
      · split
        · next signFirst =>
            have isSign : first = '#' := by simpa using signFirst
            split <;> simp [isSign]
        · simp [splitPunctuation_append]

/-- No lexeme is empty. -/
theorem next_text_ne_nil (first : Char) (rest : List Char) :
    (next first rest).1.text ≠ [] := by
  unfold next
  split
  · simp
  · split
    · simp
    · split
      · simp
      · split
        · split <;> simp
        · simp only [splitPunctuation]
          split
          · next operator found =>
              exact ne_nil_of_mem_operators (List.mem_of_find?_eq_some found)
          · simp

theorem notMem_splitNumber {character : Char}
    (never : ∀ previous, isNumberChar previous character = false) (previous : Char)
    (input : List Char) : character ∉ (splitNumber previous input).1 := by
  induction input generalizing previous with
  | nil => exact List.not_mem_nil
  | cons first rest ih =>
      unfold splitNumber
      split
      · next isNumber =>
          rw [List.mem_cons, not_or]
          refine ⟨?_, ih first⟩
          rintro rfl
          rw [never] at isNumber
          cases isNumber
      · exact List.not_mem_nil

/-- A character that no name, literal or operator has is only in strings, or is a lexeme of
its own. -/
theorem notMem_next {character first : Char} {rest : List Char}
    (never : ∀ previous, isNumberChar previous character = false)
    (noOperator : ∀ operator ∈ operators, character ∉ operator) (notSign : character ≠ '#')
    (notFirst : character ≠ first) (notString : (next first rest).1.kind ≠ .string) :
    character ∉ (next first rest).1.text := by
  revert notString
  unfold next
  split
  · intro _
    rw [List.mem_cons, not_or]
    refine ⟨notFirst, fun inside => ?_⟩
    have isName : isNameChar character = true := by
      have passes := List.all_takeWhile (p := isNameChar) (l := rest)
      exact List.all_eq_true.mp passes character inside
    have isNumber := never ' '
    rw [isNumberChar, isName] at isNumber
    cases isNumber
  · split
    · intro _
      rw [List.mem_cons, not_or]
      exact ⟨notFirst, notMem_splitNumber never first rest⟩
    · split
      · exact fun notString => absurd rfl notString
      · split
        · split <;> simp [notSign]
        · intro _
          simp only [splitPunctuation]
          split
          · next operator found => exact noOperator operator (List.mem_of_find?_eq_some found)
          · simpa using notFirst

/-- The text behind a lexeme is shorter than the text it was cut from. -/
theorem length_next_lt (first : Char) (rest : List Char) :
    (next first rest).2.length < (first :: rest).length := by
  have whole := congrArg List.length (next_append first rest)
  have positive := List.length_pos_iff.mpr (next_text_ne_nil first rest)
  rw [List.length_append] at whole
  omega

end Lexeme

end ShaderPipeline
