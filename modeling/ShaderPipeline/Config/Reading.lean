import ShaderPipeline.Text.Identifier

/-!
# Reading settings text

The smallest parts of a settings document: filler with nested comments, words
and names.  A reader takes a text to what it read and the text behind it, or
fails.
-/

namespace ShaderPipeline.Config

/-- Reads a value off the start of a text. -/
abbrev Reader (α : Type) : Type := List Char → Option (α × List Char)

/-- Where a pass over filler stands. -/
inductive FillerMode where
  | plain
  | lineComment
  /-- Inside a block comment and as many more around it. -/
  | blockComment (outer : Nat)
deriving Repr, DecidableEq

/-- Blanks of a settings document: the Unicode property `Pattern_White_Space`. -/
def isBlank (character : Char) : Bool :=
  let code := character.toNat
  (0x9 ≤ code && code ≤ 0xD) || code == 0x20 || code == 0x85 || code == 0x200E ||
    code == 0x200F || code == 0x2028 || code == 0x2029

/-- The text behind blanks and comments.  Block comments nest, and one that is
not closed fails, as does a lone slash. -/
def skipFrom : FillerMode → List Char → Option (List Char)
  | .plain, [] => some []
  | .plain, '/' :: '/' :: rest => skipFrom .lineComment rest
  | .plain, '/' :: '*' :: rest => skipFrom (.blockComment 0) rest
  | .plain, '/' :: _ => none
  | .plain, character :: rest =>
      if isBlank character then skipFrom .plain rest else some (character :: rest)
  | .lineComment, [] => some []
  | .lineComment, '\n' :: rest => skipFrom .plain rest
  | .lineComment, _ :: rest => skipFrom .lineComment rest
  | .blockComment _, [] => none
  | .blockComment outer, '/' :: '*' :: rest => skipFrom (.blockComment (outer + 1)) rest
  | .blockComment 0, '*' :: '/' :: rest => skipFrom .plain rest
  | .blockComment (outer + 1), '*' :: '/' :: rest => skipFrom (.blockComment outer) rest
  | .blockComment outer, _ :: rest => skipFrom (.blockComment outer) rest

def skipFiller (text : List Char) : Option (List Char) :=
  skipFrom .plain text

/-- The text behind `expected`, if it comes first. -/
def accept? (expected : String) (text : List Char) : Option (List Char) :=
  if expected.toList.isPrefixOf text then some (text.drop expected.toList.length) else none

/-- The next character could go on with a word. -/
def wordGoesOn : List Char → Bool
  | character :: _ => Text.continuesIdentifier character
  | [] => false

/-- The text behind the word `expected`, if it comes first. -/
def acceptWord? (expected : String) (text : List Char) : Option (List Char) :=
  match accept? expected text with
  | some rest => if wordGoesOn rest then none else some rest
  | none => none

/-- The text behind the first of some words that comes first. -/
def acceptAnyWord? (words : List String) (text : List Char) : Option (List Char) :=
  words.findSome? (acceptWord? · text)

/-- The text behind filler and an optional comma, and whether there was one. -/
def skipComma (text : List Char) : Option (Bool × List Char) :=
  match skipFiller text with
  | none => none
  | some (',' :: rest) => (skipFiller rest).map fun after => (true, after)
  | some rest => some (false, rest)

def startsName (character : Char) : Bool :=
  character == '_' || Text.startsIdentifier character

/-- The character may stand in a name that is marked as raw. -/
def isRawNameChar (character : Char) : Bool :=
  character == '.' || character == '+' || character == '-' || Text.continuesIdentifier character

/-- The openings of quoted text that begin like a name. -/
def quotedOpenings : List String :=
  ["b\"", "b'", "br#", "br\"", "r\"", "r#\"", "r##"]

/-- Reads a name.  A name with other characters in it has to be marked as raw. -/
def readName : Reader String := fun text =>
  match text with
  | [] => none
  | first :: _ =>
      if !startsName first then none
      else if quotedOpenings.any fun opening => (accept? opening text).isSome then none
      else
        match accept? "r#" text with
        | some rest =>
            let name := rest.takeWhile isRawNameChar
            if name.isEmpty then none
            else some (String.ofList name, rest.dropWhile isRawNameChar)
        | none =>
            let name := text.takeWhile Text.continuesIdentifier
            if name.length < (text.takeWhile isRawNameChar).length then none
            else some (String.ofList name, text.dropWhile Text.continuesIdentifier)

/-- The text behind what looks like a name. -/
def skipName? (text : List Char) : Option (List Char) :=
  if quotedOpenings.any fun opening => (accept? opening text).isSome then none
  else
    match accept? "r#" text with
    | some rest =>
        if (rest.takeWhile isRawNameChar).isEmpty then none
        else some (rest.dropWhile isRawNameChar)
    | none =>
        match text with
        | first :: rest =>
            if startsName first then some (rest.dropWhile Text.continuesIdentifier) else none
        | [] => none

end ShaderPipeline.Config
