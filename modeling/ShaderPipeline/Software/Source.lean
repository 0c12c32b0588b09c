import ShaderPipeline.Text.Blank
import ShaderPipeline.Uniform

/-!
# Scanning stage text

The software device does not compile.  It looks for `#error` directives and for
declarations of uniforms in the text without its comments.
-/

namespace ShaderPipeline.Software

/-- Where a pass over comments stands. -/
inductive CommentMode where
  | code
  | lineComment
  /-- Inside a block comment; the last character was a star, or not. -/
  | blockComment (star : Bool)
deriving Repr, DecidableEq

/-- Drops comments but keeps every line feed.  A block comment leaves a blank. -/
def stripFrom : CommentMode → List Char → List Char
  | .code, [] => []
  | .code, '/' :: '/' :: rest => stripFrom .lineComment rest
  | .code, '/' :: '*' :: rest => stripFrom (.blockComment false) rest
  | .code, character :: rest => character :: stripFrom .code rest
  | .lineComment, [] => []
  | .lineComment, '\n' :: rest => '\n' :: stripFrom .code rest
  | .lineComment, _ :: rest => stripFrom .lineComment rest
  | .blockComment _, [] => [' ']
  | .blockComment true, '/' :: rest => ' ' :: stripFrom .code rest
  | .blockComment _, '\n' :: rest => '\n' :: stripFrom (.blockComment false) rest
  | .blockComment _, character :: rest => stripFrom (.blockComment (character == '*')) rest

/-- A text without its comments, but with all of its line feeds. -/
def stripComments (text : List Char) : List Char :=
  stripFrom .code text

/-- The text behind `word`, if a text starts with it. -/
def afterWord? (word text : List Char) : Option (List Char) :=
  if word.isPrefixOf text then some (text.drop word.length) else none

def errorMessage? (line : List Char) : Option (List Char) :=
  (afterWord? ['#'] (Text.trimStart line)).bind fun directive =>
    (afterWord? "error".toList (Text.trimStart directive)).map Text.trim

/-- The first `#error` line from line `number` on, with its number. -/
def errorFrom (number : Nat) : List (List Char) → Option (Nat × String)
  | [] => none
  | line :: rest =>
      match errorMessage? line with
      | some message => some (number, String.ofList message)
      | none => errorFrom (number + 1) rest

/-- The first `#error` directive of a text: its line and its message. -/
def errorDirective? (source : String) : Option (Nat × String) :=
  errorFrom 1 (Text.lines (stripComments source.toList))

structure DeclaredUniform where
  name : String
  type : UniformType
  /-- The number of array elements, one without an array. -/
  size : UInt32
deriving Repr, DecidableEq

/-- Sets brackets and commas apart from the words beside them. -/
def spaceOut (statement : List Char) : List Char :=
  statement.flatMap fun character =>
    if character = '[' ∨ character = ']' ∨ character = ',' then [' ', character, ' ']
    else [character]

def digitsValue? : Nat → List Char → Option Nat
  | value, [] => some value
  | value, character :: rest =>
      if character.isDigit then
        digitsValue? (10 * value + (character.toNat - '0'.toNat)) rest
      else none

/-- The number that a word writes, if it fits 32 bits.  A plus sign may stand
before its digits. -/
def wordValue? (word : String) : Option UInt32 :=
  let digits :=
    match word.toList with
    | '+' :: rest => rest
    | characters => characters
  if digits.isEmpty then none
  else
    match digitsValue? 0 digits with
    | some value => if value < UInt32.size then some value.toUInt32 else none
    | none => none

/-- The uniforms that the words behind a type declare.  A name may have an
array length behind it, and an initial value ends the list. -/
def declaredNames (type : UniformType) : List String → List DeclaredUniform
  | [] => []
  | [name] => if name = "," ∨ name = "=" then [] else [⟨name, type, 1⟩]
  | name :: mark :: rest =>
      if name = "," then declaredNames type (mark :: rest)
      else if name = "=" then []
      else if mark = "[" then
        match rest with
        | [] => [⟨name, type, 1⟩]
        | [length] => [⟨name, type, (wordValue? length).getD 1⟩]
        | length :: _ :: after =>
            ⟨name, type, (wordValue? length).getD 1⟩ :: declaredNames type after
      else ⟨name, type, 1⟩ :: declaredNames type (mark :: rest)

/-- The words that may stand before a type. -/
def isPrecision (word : String) : Bool :=
  word == "lowp" || word == "mediump" || word == "highp"

/-- The uniforms that one statement declares.  Blocks and types that have no
keyword declare none. -/
def statementUniforms (statement : List Char) : List DeclaredUniform :=
  let words := (Text.words (spaceOut statement)).map String.ofList
  match ((words.dropWhile (· != "uniform")).drop 1).dropWhile isPrecision with
  | [] => []
  | keyword :: rest =>
      match UniformType.ofKeyword? keyword with
      | some type => declaredNames type rest
      | none => []

def declaredUniforms (source : String) : List DeclaredUniform :=
  (Text.splitAt (· == ';') (stripComments source.toList)).flatMap statementUniforms

end ShaderPipeline.Software
