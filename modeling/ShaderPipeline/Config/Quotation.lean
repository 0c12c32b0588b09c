import ShaderPipeline.Config.Reading

/-!
# Quotations in settings text

Quoted text, bytes and characters.  An escape writes a character that could not
stand there itself, and a backslash at the end of a line joins the line with the
next one.
-/

namespace ShaderPipeline.Config

def hexValue? (character : Char) : Option Nat :=
  if character.isDigit then some (character.toNat - '0'.toNat)
  else if 'a' ≤ character ∧ character ≤ 'f' then some (character.toNat - 'a'.toNat + 10)
  else if 'A' ≤ character ∧ character ≤ 'F' then some (character.toNat - 'A'.toNat + 10)
  else none

def readHexByte : Reader UInt8
  | high :: low :: rest =>
      match hexValue? high, hexValue? low with
      | some first, some second => some ((16 * first + second).toUInt8, rest)
      | _, _ => none
  | _ => none

/-- The character that bytes write in UTF-8. -/
def utf8Char? (bytes : List UInt8) : Option Char :=
  match String.fromUTF8? bytes.toByteArray with
  | some text =>
      match text.toList with
      | [character] => some character
      | _ => none
  | none => none

/-- Reads up to `count` more escaped bytes, until they write a character. -/
def readEscapedBytes : Nat → List UInt8 → Reader Char
  | 0, _, _ => none
  | count + 1, bytes, text =>
      match accept? "\\x" text with
      | none => none
      | some rest =>
          match readHexByte rest with
          | none => none
          | some (byte, after) =>
              match utf8Char? (bytes ++ [byte]) with
              | some character => some (character, after)
              | none => readEscapedBytes count (bytes ++ [byte]) after

/-- Reads up to `count` hexadecimal digits behind a number, up to a closing
brace. -/
def readCodeDigits : Nat → Nat → Reader Nat
  | _, code, '\x7d' :: rest => some (code, rest)
  | 0, _, _ => none
  | count + 1, code, character :: rest =>
      match hexValue? character with
      | some digit => readCodeDigits count (16 * code + digit) rest
      | none => none
  | _, _, [] => none

/-- Where an escape stands. -/
inductive EscapeSite where
  /-- In quoted text, where several escaped bytes may write one character. -/
  | text
  /-- In a quoted character. -/
  | character
  /-- In quoted bytes, where any byte may be escaped. -/
  | bytes
deriving Repr, DecidableEq

/-- Reads what follows the backslash of an escape. -/
def readEscape (site : EscapeSite) : Reader Char
  | '\x27' :: rest => some ('\x27', rest)
  | '\x22' :: rest => some ('\x22', rest)
  | '\\' :: rest => some ('\\', rest)
  | 'n' :: rest => some ('\n', rest)
  | 'r' :: rest => some ('\r', rest)
  | 't' :: rest => some ('\t', rest)
  | '0' :: rest => some ('\x00', rest)
  | 'x' :: rest =>
      match readHexByte rest with
      | none => none
      | some (byte, after) =>
          if byte < 128 ∨ site = .bytes then some (Char.ofNat byte.toNat, after)
          else if site = .text then readEscapedBytes 3 [byte] after
          else none
  | 'u' :: '\x7b' :: first :: rest =>
      match hexValue? first with
      | none => none
      | some digit =>
          match readCodeDigits 5 digit rest with
          | none => none
          | some (code, after) =>
              if Nat.isValidChar code then some (Char.ofNat code, after) else none
  | _ => none

/-- Why a quotation could not be read. -/
inductive QuotationFault where
  /-- The text ends before the quotation does. -/
  | unclosed
  /-- There is no quotation here, or an escape in it means nothing. -/
  | malformed
deriving Repr, DecidableEq

/-- Reads a quotation off the start of a text. -/
abbrev QuotationReader : Type := List Char → Except QuotationFault (List Char × List Char)

/-- The text behind a backslash that stands at the end of a line, if it does: the
line end and the blanks behind it are dropped. -/
def skipLineEnd? (text : List Char) : Option (List Char) :=
  let blanks := fun character =>
    character == ' ' || character == '\t' || character == '\n' || character == '\r'
  match text with
  | '\n' :: rest => some (rest.dropWhile blanks)
  | '\r' :: '\n' :: rest => some (rest.dropWhile blanks)
  | _ => none

/-- Reads quoted text behind its opening quote. -/
def readQuoted (site : EscapeSite) (text : List Char) :
    Except QuotationFault (List Char × List Char) :=
  match text with
  | [] => .error .unclosed
  | '\x22' :: rest => .ok ([], rest)
  | '\\' :: rest =>
      match skipLineEnd? rest with
      | some after =>
          if after.length ≤ rest.length then readQuoted site after else .error .malformed
      | none =>
          match readEscape site rest with
          | none => .error (if '\x22' ∈ rest then .malformed else .unclosed)
          | some (character, after) =>
              if after.length ≤ rest.length then
                (readQuoted site after).map fun (body, behind) => (character :: body, behind)
              else .error .malformed
  | character :: rest =>
      (readQuoted site rest).map fun (body, behind) => (character :: body, behind)
termination_by text.length
decreasing_by
  all_goals simp only [List.length_cons]
  all_goals omega

/-- Cuts a text at the first place where `ending` stands, and drops that. -/
def splitAtText (ending : List Char) : List Char → Option (List Char × List Char)
  | [] => none
  | character :: rest =>
      if ending.isPrefixOf (character :: rest) then
        some ([], (character :: rest).drop ending.length)
      else
        match splitAtText ending rest with
        | some (before, after) => some (character :: before, after)
        | none => none

/-- Reads quoted text without escapes, behind its first letter: any number of
number signs, a quote, and the same at the end. -/
def readRaw : QuotationReader := fun text =>
  let signs := text.takeWhile (· == '#')
  match text.dropWhile (· == '#') with
  | '\x22' :: rest =>
      match splitAtText ('\x22' :: signs) rest with
      | some found => .ok found
      | none => .error .unclosed
  | _ => .error .malformed

def readText : QuotationReader
  | '\x22' :: rest => readQuoted .text rest
  | 'r' :: rest => readRaw rest
  | _ => .error .malformed

def readBytes : QuotationReader
  | 'b' :: '\x22' :: rest => readQuoted .bytes rest
  | 'b' :: 'r' :: rest => readRaw rest
  | _ => .error .malformed

def readQuotedChar : Reader Char
  | '\x27' :: '\\' :: rest =>
      match readEscape .character rest with
      | some (character, '\x27' :: after) => some (character, after)
      | _ => none
  | '\x27' :: character :: '\x27' :: after => some (character, after)
  | _ => none

/-- Reads a quoted byte behind its first letter and quote.  A byte is an ASCII
character or an escape, but not by a code point. -/
def readQuotedByte : Reader UInt8
  | '\\' :: 'u' :: _ => none
  | '\\' :: rest =>
      match readEscape .bytes rest with
      | some (character, '\x27' :: after) => some (character.toNat.toUInt8, after)
      | _ => none
  | character :: '\x27' :: after =>
      if character.toNat < 128 then some (character.toNat.toUInt8, after) else none
  | _ => none

end ShaderPipeline.Config
