import ShaderPipeline.Config.Content
import ShaderPipeline.Config.Number

/-!
# Settings documents

A settings document is one value: a word, number, range or text, or an option,
list, map, tuple or record of values.  Records and tuples may carry a name.  Above
the value, attribute lines switch on variations of the form.
-/

namespace ShaderPipeline.Config

/-- A value of a settings document. -/
inductive Value where
  | boolean (value : Bool)
  | number (value : Number)
  | text (value : String)
  | range (value : Range)
  | character (value : Char)
  | bytes (escaped : String)
  /-- A name that stands alone. -/
  | word (name : String)
  | absent
  | present (value : Value)
  | list (items : List Value)
  | map (entries : List (Value × Value))
  | tuple (name : Option String) (items : List Value)
  | record (name : Option String) (fields : List (String × Value))
deriving Repr

/-- Variations of the form that a document can switch on. -/
structure Extensions where
  /-- Options may be written without their word. -/
  implicitSome : Bool := false
  /-- The content of an option may stand without parentheses of its own. -/
  unwrapVariants : Bool := false
  /-- Records need their names. -/
  explicitNames : Bool := false
deriving Repr, DecidableEq

namespace Extensions

/-- Switches on the variation with a given name. -/
def enable? (extensions : Extensions) (name : String) : Option Extensions :=
  match name with
  | "unwrap_newtypes" => some extensions
  | "implicit_some" => some { extensions with implicitSome := true }
  | "unwrap_variant_newtypes" => some { extensions with unwrapVariants := true }
  | "explicit_struct_names" => some { extensions with explicitNames := true }
  | _ => none

end Extensions

/-- Reads items with commas between them, up to a closing character, which is
left in the text.  A comma may stand behind the last item. -/
def readItems {α : Type} (close : Char) (item : Reader α) (comma : Bool) (text : List Char) :
    Option (List α × List Char) :=
  match skipFiller text with
  | none => none
  | some start =>
      if start.head? = some close then some ([], start)
      else if !comma then none
      else
        match item start with
        | none => none
        | some (value, after) =>
            match skipComma after with
            | none => none
            | some (more, rest) =>
                if rest.length < text.length then
                  match readItems close item more rest with
                  | some (values, behind) => some (value :: values, behind)
                  | none => none
                else none
termination_by text.length

def readAfterColon (value : Reader Value) : Reader Value := fun text =>
  match skipFiller text with
  | some (':' :: rest) => (skipFiller rest).bind value
  | _ => none

def readField (value : Reader Value) : Reader (String × Value) := fun text =>
  match readName text with
  | some (name, rest) =>
      (readAfterColon value rest).map fun (found, after) => ((name, found), after)
  | none => none

def readEntry (value : Reader Value) : Reader (Value × Value) := fun text =>
  match value text with
  | some (key, rest) =>
      (readAfterColon value rest).map fun (found, after) => ((key, found), after)
  | none => none

/-- The text starts with a name and a colon. -/
def startsField (text : List Char) : Bool :=
  match skipName? text with
  | some rest =>
      match skipFiller rest with
      | some (':' :: _) => true
      | _ => false
  | none => false

/-- Reads fields of a record or items of a tuple, up to a closing parenthesis, which
is left in the text. -/
def readMembers (name : Option String) (named : Bool) (value : Reader Value) :
    Reader Value := fun text =>
  if named then
    (readItems ')' (readField value) true text).map fun (fields, rest) =>
      (.record name fields, rest)
  else (readItems ')' value true text).map fun (items, rest) => (.tuple name items, rest)

/-- Readers for values one step further in, two steps, and so on, as far as the
document may nest. -/
abbrev Nested : Type := List (Reader Value)

namespace Nested

/-- Values may stand a step further in. -/
def opens (nested : Nested) : Bool :=
  !nested.isEmpty

def inner (nested : Nested) : Reader Value :=
  nested.head?.getD fun _ => none

/-- The readers as seen from one step further in. -/
def deeper (nested : Nested) : Nested :=
  nested.tail

/-- Reads an element of a group: the group is one step in, the element another. -/
def element (nested : Nested) : Reader Value :=
  nested.deeper.inner

end Nested

/-- Reads a group behind its opening parenthesis: fields of a record, or a tuple. -/
def readGroup (name : Option String) (nested : Nested) : Reader Value := fun text =>
  if nested.opens then
    match skipFiller text with
    | none => none
    | some start =>
        match readMembers name (startsField start) nested.element start with
        | some (value, _ :: rest) => some (value, rest)
        | _ => none
  else none

/-- Reads the content of an option, behind its opening parenthesis and filler.
The content of a group without parentheses counts as a group. -/
def readContent (form : ContentForm) (nested : Nested) : Reader Value := fun text =>
  match form with
  | .nothing => some (.tuple none [], text)
  | .single => nested.inner text
  | .items =>
      if nested.deeper.opens then readMembers none false nested.deeper.element text else none
  | .fields =>
      if nested.deeper.opens then readMembers none true nested.deeper.element text else none

/-- Reads an option behind its opening parenthesis. -/
def readPresent (extensions : Extensions) (nested : Nested) : Reader Value := fun text =>
  if nested.opens then
    match skipFiller text with
    | none => none
    | some start =>
        match if extensions.unwrapVariants then contentForm start else some .single with
        | none => none
        | some form =>
            match readContent form nested start with
            | none => none
            | some (value, after) =>
                match skipComma after with
                | some (_, ')' :: rest) => some (.present value, rest)
                | _ => none
  else none

/-- Reads a list or map behind its opening bracket. -/
def readBracketed {α : Type} (close : Char) (item : Reader Value → Reader α) (nested : Nested) :
    Reader (List α) := fun text =>
  if nested.opens then
    match readItems close (item nested.element) true text with
    | some (values, _ :: rest) => some (values, rest)
    | _ => none
  else none

/-- Reads a number, or a range with the number at its start. -/
def readNumeric : Reader Value := fun text =>
  match readNumber text with
  | none => none
  | some (first, '.' :: '.' :: rest) =>
      (readRange (some first) rest).map fun (range, after) => (.range range, after)
  | some (number, rest) => some (.number number, rest)

/-- Reads quoted text, bytes or a character. -/
def readQuotation : Reader Value := fun text =>
  match readText text with
  | .ok (body, rest) => some (.text (String.ofList body), rest)
  | .error _ =>
      match readBytes text with
      | .ok (body, rest) => some (.bytes (String.ofList body), rest)
      | .error _ => (readQuotedChar text).map fun (value, rest) => (.character value, rest)

/-- Reads a value in which others are read by `nested`. -/
def readValueWith (extensions : Extensions) (nested : Nested) : Reader Value := fun text =>
  if let some rest := acceptWord? "true" text then some (.boolean true, rest)
  else if let some rest := acceptWord? "false" text then some (.boolean false, rest)
  else if let some rest := acceptWord? "Some" text then
    match skipFiller rest with
    | some ('(' :: behind) => readPresent extensions nested behind
    | some behind =>
        if extensions.implicitSome then
          (nested.inner behind).map fun (value, after) => (.present value, after)
        else none
    | none => none
  else if let some rest := acceptWord? "None" text then some (.absent, rest)
  else if let some rest := accept? "()" text then some (.tuple none [], rest)
  else if let some rest := accept? ".." text then
    (readRange none rest).map fun (range, after) => (.range range, after)
  else if startsNumber text then readNumeric text
  else if let some (name, rest) := readName text then
    match skipFiller rest with
    | some ('(' :: behind) => readGroup (some name) nested behind
    | some behind => some (.word name, behind)
    | none => none
  else
    match text with
    | '(' :: rest => readGroup none nested rest
    | '[' :: rest =>
        (readBracketed ']' id nested rest).map fun (items, after) => (.list items, after)
    | '\x7b' :: rest =>
        (readBracketed '\x7d' readEntry nested rest).map fun (entries, after) =>
          (.map entries, after)
    | _ => readQuotation text

/-- The readers for values that may nest ever less deep, from `depth` steps down. -/
def readersBelow (extensions : Extensions) : Nat → Nested
  | 0 => []
  | depth + 1 =>
      let nested := readersBelow extensions depth
      readValueWith extensions nested :: nested

/-- Reads a value in which groups and options nest no deeper than `depth`.  A
group counts twice, an option once. -/
def readValue (extensions : Extensions) (depth : Nat) : Reader Value :=
  readValueWith extensions (readersBelow extensions depth)

def depthLimit : Nat := 128

/-- The text behind several parts with filler after each. -/
def acceptAll? : List String → List Char → Option (List Char)
  | [], text => some text
  | part :: parts, text =>
      match accept? part text with
      | some rest => (skipFiller rest).bind (acceptAll? parts)
      | none => none

/-- Reads the names in an attribute line and switches them on. -/
def readEnabled (extensions : Extensions) : List String → Option Extensions
  | [] => some extensions
  | name :: names => (extensions.enable? name).bind (readEnabled · names)

/-- Reads what an attribute line asks for.  It switches on variations, or names the
type or the schema of the document, which changes nothing. -/
def readAttribute (extensions : Extensions) : Reader Extensions := fun text =>
  if let some start := acceptAll? ["enable", "("] text then
    match readItems ')' readName true start with
    | none => none
    | some ([], _) => none
    | some (names, close) =>
        match readEnabled extensions names, acceptAll? [")"] close with
        | some enabled, some rest => some (enabled, rest)
        | _, _ => none
  else
    match (acceptAll? ["type", "="] text).or (acceptAll? ["schema", "="] text) with
    | none => none
    | some start =>
        match readText start with
        | .ok (_, rest) => (skipFiller rest).map fun after => (extensions, after)
        | .error _ => none

/-- Reads the attribute lines at the start of a document. -/
def readAttributes (extensions : Extensions) (text : List Char) :
    Option (Extensions × List Char) :=
  if text.head? = some '#' then
    match (acceptAll? ["#", "!", "["] text).bind (readAttribute extensions) with
    | none => none
    | some (changed, close) =>
        match acceptAll? ["]"] close with
        | some rest => if rest.length < text.length then readAttributes changed rest else none
        | none => none
  else some (extensions, text)
termination_by text.length

/-- A document: the variations it switches on and its value. -/
structure Document where
  extensions : Extensions
  value : Value
deriving Repr

def Document.parse? (source : String) : Option Document :=
  match (skipFiller source.toList).bind (readAttributes {}) with
  | none => none
  | some (extensions, start) =>
      match readValue extensions depthLimit start with
      | none => none
      | some (value, rest) =>
          match skipFiller rest with
          | some [] => some ⟨extensions, value⟩
          | _ => none

end ShaderPipeline.Config
