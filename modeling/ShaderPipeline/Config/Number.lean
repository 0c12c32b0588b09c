import ShaderPipeline.Config.Quotation

/-!
# Numbers in settings text

Integers may have a sign, a base mark, underscores and a suffix for their
width, and a quoted byte is one too.  What is no integer may still be a decimal
number.  Two points between numbers write a range.
-/

namespace ShaderPipeline.Config

/-- A suffix that gives an integer its width. -/
structure IntegerSuffix where
  word : String
  least : Int
  greatest : Int
deriving Repr, DecidableEq

namespace IntegerSuffix

def u32 : IntegerSuffix := ⟨"u32", 0, 4294967295⟩

def u8 : IntegerSuffix := ⟨"u8", 0, 255⟩

def all : List IntegerSuffix :=
  [⟨"i8", -128, 127⟩, ⟨"i16", -32768, 32767⟩, ⟨"i32", -2147483648, 2147483647⟩,
    ⟨"i64", -9223372036854775808, 9223372036854775807⟩, u8, ⟨"u16", 0, 65535⟩, u32,
    ⟨"u64", 0, 18446744073709551615⟩]

end IntegerSuffix

/-- A number as it was read. -/
inductive Number where
  | integer (value : Int) (suffix : Option IntegerSuffix)
  | decimal (digits : String)
deriving Repr, DecidableEq

/-- Characters of an integer behind its sign and base mark. -/
def isIntegerChar (character : Char) : Bool :=
  (hexValue? character).isSome || character == '_'

def isDecimalChar (character : Char) : Bool :=
  character.isDigit || character == 'e' || character == 'E' || character == '.' ||
    character == '+' || character == '-' || character == '_'

/-- The value of digits in a base; underscores are skipped. -/
def digitsValue? (base : Nat) : Nat → List Char → Option Nat
  | value, [] => some value
  | value, '_' :: rest => digitsValue? base value rest
  | value, character :: rest =>
      match hexValue? character with
      | some digit =>
          if digit < base then digitsValue? base (base * value + digit) rest else none
      | none => none

/-- The base that a number starts with, and its digits. -/
def splitBase (text : List Char) : Nat × List Char :=
  match text with
  | '0' :: 'x' :: rest => (16, rest)
  | '0' :: 'o' :: rest => (8, rest)
  | '0' :: 'b' :: rest => (2, rest)
  | _ => (10, text)

/-- Reads digits with an optional base mark. -/
def readDigits : Reader Nat := fun text =>
  let (base, digits) := splitBase text
  match digits.takeWhile isIntegerChar with
  | [] => none
  | '_' :: _ => none
  | run =>
      match digitsValue? base 0 run with
      | some value => some (value, digits.dropWhile isIntegerChar)
      | none => none

def readSuffix : Reader IntegerSuffix := fun text =>
  IntegerSuffix.all.findSome? fun suffix =>
    (acceptWord? suffix.word text).map fun rest => (suffix, rest)

def splitSign : List Char → Bool × List Char
  | '+' :: rest => (false, rest)
  | '-' :: rest => (true, rest)
  | text => (false, text)

/-- The least integer that is read without a suffix. -/
def leastInteger : Int := -9223372036854775808

/-- The greatest integer that is read without a suffix. -/
def greatestInteger : Int := 18446744073709551615

/-- Reads an integer.  It has to fit the width of its suffix, or 64 bits. -/
def readInteger : Reader Number := fun text =>
  let (negative, unsigned) := splitSign text
  match readDigits unsigned with
  | none => none
  | some (magnitude, rest) =>
      let value : Int := if negative then -magnitude else magnitude
      match readSuffix rest with
      | some (suffix, after) =>
          if suffix.least ≤ value ∧ value ≤ suffix.greatest then
            some (.integer value (some suffix), after)
          else none
      | none =>
          if leastInteger ≤ value ∧ value ≤ greatestInteger then some (.integer value none, rest)
          else none

/-- Underscores may stand only behind digits and exponent marks.  The result
has none. -/
def dropUnderscores : Bool → List Char → Option (List Char)
  | _, [] => some []
  | allowed, '_' :: rest => if allowed then dropUnderscores true rest else none
  | allowed, character :: rest =>
      let next :=
        if character.isDigit || character == 'e' || character == 'E' then true
        else if character == '.' then false
        else allowed
      (dropUnderscores next rest).map (character :: ·)

/-- Digits, at least one of them before or behind a point, and an exponent. -/
def isDecimal (text : List Char) : Bool :=
  let unsigned := (splitSign text).2
  let whole := unsigned.takeWhile Char.isDigit
  let behindWhole := unsigned.dropWhile Char.isDigit
  let (fraction, behind) :=
    match behindWhole with
    | '.' :: rest => (rest.takeWhile Char.isDigit, rest.dropWhile Char.isDigit)
    | rest => ([], rest)
  let exponentOk (text : List Char) : Bool :=
    let digits := (splitSign text).2
    !digits.isEmpty && digits.all Char.isDigit
  !(whole.isEmpty && fraction.isEmpty) &&
    (match behind with
    | [] => true
    | 'e' :: rest => exponentOk rest
    | 'E' :: rest => exponentOk rest
    | _ => false)

/-- The words for numbers that are not finite, with a sign before and a width
behind. -/
def notFiniteWords : List String :=
  ["", "+", "-"].flatMap fun sign =>
    ["inf", "NaN"].flatMap fun word =>
      ["", "f32", "f64"].map fun width => sign ++ word ++ width

/-- The characters of a decimal number at the start of a text, and the text behind
them.  The two points of a range do not belong to the number. -/
def splitDecimal : List Char → List Char × List Char
  | '.' :: '.' :: rest => ([], '.' :: '.' :: rest)
  | character :: rest =>
      if isDecimalChar character then
        let (run, behind) := splitDecimal rest
        (character :: run, behind)
      else ([], character :: rest)
  | [] => ([], [])

def readDecimal : Reader Number := fun text =>
  match acceptAnyWord? notFiniteWords text with
  | some rest => some (.decimal "", rest)
  | none =>
      let (run, behind) := splitDecimal text
      match dropUnderscores false run with
      | some digits =>
          if isDecimal digits then
            some (.decimal (String.ofList digits),
              (acceptAnyWord? ["f32", "f64"] behind).getD behind)
          else none
      | none => none

/-- The text reads further as a decimal number than as an integer. -/
def looksDecimal (text : List Char) : Bool :=
  let unsigned := (splitSign text).2
  (unsigned.takeWhile isIntegerChar).length < (splitDecimal unsigned).1.length

/-- Reads a number: a quoted byte, or else an integer if it can be one. -/
def readNumber : Reader Number := fun text =>
  match text with
  | 'b' :: '\x27' :: rest =>
      (readQuotedByte rest).map fun (value, after) => (.integer value.toNat (some .u8), after)
  | _ =>
      if looksDecimal text then readDecimal text
      else
        match readInteger text with
        | some found => some found
        | none => readDecimal text

def startsNumber (text : List Char) : Bool :=
  (acceptAnyWord? notFiniteWords text).isSome ||
    (match text with
    | '.' :: '.' :: _ => false
    | 'b' :: '\x27' :: _ => true
    | first :: _ => first.isDigit || first == '+' || first == '-' || first == '.'
    | [] => false)

/-- A range of numbers, whose ends may be left out. -/
structure Range where
  first : Option Number
  last : Option Number
  /-- The last number belongs to the range. -/
  closed : Bool
deriving Repr, DecidableEq

/-- Reads a range behind its first number and its two points.  A closed range has
to have a last number. -/
def readRange (first : Option Number) : Reader Range
  | '=' :: rest => (readNumber rest).map fun (last, after) => (⟨first, some last, true⟩, after)
  | text =>
      if startsNumber text then
        (readNumber text).map fun (last, after) => (⟨first, some last, false⟩, after)
      else some (⟨first, none, false⟩, text)

end ShaderPipeline.Config
