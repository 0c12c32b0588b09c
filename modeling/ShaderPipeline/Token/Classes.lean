/-!
# Lexical classes

The characters that separate the tokens of shader text, and those that the tokens start with
and go on with.  All of them are ASCII.
-/

namespace ShaderPipeline

/-- The lexical classes of shader text. -/
inductive TokenKind where
  /-- Identifiers and keywords. -/
  | name
  /-- Integer and floating-point literals, suffixes included. -/
  | number
  /-- A string with its double quotes. -/
  | string
  /-- Operators and separators. -/
  | punctuation
  /-- One or two number signs. -/
  | preprocessor
deriving Repr, DecidableEq

/-- Blanks that do not end a line. -/
def Filler.isBlank (character : Char) : Bool :=
  character == ' ' || character == '\t' || character == '\r' ||
    character == '\x0b' || character == '\x0c'

namespace Lexeme

/-- Operators of more than one character, the longer ones first. -/
def punctuation : List String :=
  [">>=", "<<=", "...", "&&", "||", "^^", "==", "!=", "<=", ">=", "+=", "-=", "*=", "/=", "%=",
    "&=", "|=", "^=", "++", "--", "<<", ">>"]

def isNameStart (character : Char) : Bool :=
  character.isAlpha || character == '_'

def isNameChar (character : Char) : Bool :=
  character.isAlphanum || character == '_'

/-- Whether a literal goes on with `character` after `previous`.  A sign counts
only behind the exponent mark. -/
def isNumberChar (previous character : Char) : Bool :=
  isNameChar character || character == '.' ||
    ((character == '+' || character == '-') && (previous == 'e' || previous == 'E'))

theorem isNameChar_eq (character : Char) :
    isNameChar character = (character.isAlpha || character.isDigit || character == '_') :=
  rfl

theorem isNameChar_of_isNameStart {character : Char} (starts : isNameStart character = true) :
    isNameChar character = true := by
  rw [isNameChar_eq]
  simp only [isNameStart, Bool.or_eq_true] at starts ⊢
  rcases starts with isAlpha | isLine
  · exact Or.inl (Or.inl isAlpha)
  · exact Or.inr isLine

end Lexeme

end ShaderPipeline
