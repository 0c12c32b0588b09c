import ShaderPipeline.Config.Quotation

/-!
# The content of an option

What stands between the parentheses of an option may be a value, or the content
of a group that has no parentheses of its own.  Which of them it is shows only
further on in the text: at a colon, or at a comma that no bracket encloses.
-/

namespace ShaderPipeline.Config

/-- What the parentheses of an option hold. -/
inductive ContentForm where
  /-- Nothing at all. -/
  | nothing
  /-- One value. -/
  | single
  /-- The items of a tuple. -/
  | items
  /-- The fields of a record. -/
  | fields
deriving Repr, DecidableEq

/-- The text behind a quotation, or the same text if there is none.  A quotation
that is not closed fails. -/
def skipQuotation (read : QuotationReader) (text : List Char) : Option (List Char) :=
  match read text with
  | .ok (_, rest) => some rest
  | .error .malformed => some text
  | .error .unclosed => none

/-- The text behind filler and quotations, in which brackets and commas mean
nothing.  Filler may stand before the quotations and behind them. -/
def skipOpaque (text : List Char) : Option (List Char) :=
  match skipFiller text with
  | none => none
  | some start =>
      let behind :=
        match readQuotedChar start with
        | some (_, rest) => rest
        | none => start
      ((skipQuotation readText behind).bind (skipQuotation readBytes)).bind skipFiller

def opensBracket (character : Char) : Bool :=
  character == '(' || character == '[' || character == '\x7b'

def closesBracket (character : Char) : Bool :=
  character == ')' || character == ']' || character == '\x7d'

/-- Looks for a comma with something behind it before the closing bracket, from
inside `outer` more brackets. -/
def formFrom (outer : Nat) (text : List Char) : Option ContentForm :=
  match skipOpaque text with
  | none => none
  | some [] => none
  | some (character :: rest) =>
      if rest.length < text.length then
        if opensBracket character then formFrom (outer + 1) rest
        else if closesBracket character then
          match outer with
          | 0 => some .single
          | outer + 1 => formFrom outer rest
        else if character == ',' && outer == 0 then
          (skipFiller rest).map fun after =>
            if after.head? = some ')' then .single else .items
        else formFrom outer rest
      else none
termination_by text.length

/-- The form of an option's content, from behind the opening parenthesis and
filler. -/
def contentForm (text : List Char) : Option ContentForm :=
  if text.head? = some ')' then some .nothing
  else
    match skipName? text with
    | none => formFrom 0 text
    | some rest =>
        match skipFiller rest with
        | none => none
        | some (':' :: _) => some .fields
        | some behind => formFrom 0 behind

end ShaderPipeline.Config
