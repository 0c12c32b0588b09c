import ShaderPipeline.Capabilities
import ShaderPipeline.Declaration

/-!
# The body of a stage in a target's dialect

A stage is recast token by token.  Layout follows the tokens: a token behind a
line feed starts a line with one tabulator per open brace, continuations are
kept, other filler becomes one blank.  Declarations of inputs and outputs get
the storage words of the target.  In a fragment stage, the names of outputs
that the target writes through built-in variables are replaced by these.
-/

namespace ShaderPipeline

inductive Direction where
  | input
  | output
deriving Repr, DecidableEq

namespace Direction

def ofKeyword? (word : String) : Option Direction :=
  if word = "in" then some .input
  else if word = "out" then some .output
  else none

def keyword : Direction → String
  | .input => "in"
  | .output => "out"

end Direction

/-- Vertex inputs and fragment outputs carry a semantic and are recorded. -/
def Stage.records : Stage → Direction → Bool
  | .vertex, .input => true
  | .fragment, .output => true
  | _, _ => false

/-- The layout written in front of a token. -/
def Token.separator (token : Token) : String :=
  String.join (List.replicate token.continuations " \\\n") ++
    (if 0 < token.linesCrossed then
      "\n" ++ String.ofList (List.replicate token.braceDepth '\t')
    else if token.spaced && token.continuations == 0 then " "
    else "")

/-- The direction of the declaration that a token starts.  Inside parentheses
the keywords qualify function parameters. -/
def Token.declares? (token : Token) : Option Direction :=
  if token.parenDepth = 0 then Direction.ofKeyword? token.text else none

namespace Dialect

/-- A recorded direction with its location, where the target writes one. -/
def locatedQualifier (direction : Direction) (location : Option UInt32) : String :=
  match location with
  | some location =>
      "layout (location = " ++ Nat.repr location.toNat ++ ") " ++ direction.keyword ++ " "
  | none => direction.keyword ++ " "

/-- The storage words in front of a declaration. -/
def storageQualifier (caps : Capabilities) (stage : Stage) (direction : Direction)
    (slot : InterfaceSlot) : String :=
  match stage, direction with
  | .vertex, .input =>
      if caps.usesLegacyStorage then "attribute "
      else if caps.bindsAttributes then "in "
      else locatedQualifier .input slot.location
  | .fragment, .output =>
      if caps.usesLegacyStorage then ""
      else if caps.writesLocations then locatedQualifier .output slot.location
      else "out "
  | .fragment, .input => if caps.usesLegacyStorage then "varying " else "in "
  | .vertex, .output => if caps.usesLegacyStorage then "varying " else "out "

/-- A declaration as the target writes it. -/
def declarationText (caps : Capabilities) (stage : Stage) (direction : Direction)
    (slot : InterfaceSlot) : String :=
  storageQualifier caps stage direction slot ++ slot.type ++ " " ++ slot.name ++
    slot.arraySuffix ++ ";"

/-- The built-in variable that stands for a recorded output on the target.
Arrays and outputs without a location keep their names. -/
def legacyOutput? (caps : Capabilities) (outputs : List InterfaceSlot) (name : String) :
    Option String :=
  (outputs.filter fun slot => slot.name == name && !slot.isArray).findSome? fun slot =>
    slot.location.bind fun location => LegacyOutput.substitute? location caps.version

/-- The text of a token outside declarations. -/
def tokenText (caps : Capabilities) (stage : Stage) (outputs : List InterfaceSlot)
    (token : Token) : String :=
  if stage = .fragment ∧ token.kind = .name then
    (legacyOutput? caps outputs token.text).getD token.text
  else token.text

/-- A recast stage: its pieces of text in order, and what was found on the way. -/
structure Body where
  pieces : List String := []
  /-- The recorded slots, in declaration order. -/
  slots : List InterfaceSlot := []
  diagnostics : List Diagnostic := []
deriving Repr, DecidableEq

namespace Body

def text (body : Body) : String :=
  String.join body.pieces

/-- Puts the pieces, slots and diagnostics of `first` in front of `second`. -/
def append (first second : Body) : Body where
  pieces := first.pieces ++ second.pieces
  slots := first.slots ++ second.slots
  diagnostics := first.diagnostics ++ second.diagnostics

/-- What one declaration contributes, behind the layout of its keyword. -/
def ofDeclaration (caps : Capabilities) (stage : Stage) (direction : Direction)
    (separator : String) (declaration : Declaration) : Body where
  pieces := separator ::
    (match declaration.slot with
    | some slot => [declarationText caps stage direction slot]
    | none => [])
  slots := if stage.records direction then declaration.slot.toList else []
  diagnostics := declaration.problem.toList.map fun found => ⟨stage, found.1, found.2⟩

/-- Recasts tokens behind the declarations of `recorded`. -/
def ofTokens (caps : Capabilities) (stage : Stage) (recorded : List InterfaceSlot)
    (tokens : List Token) : Body :=
  match tokens with
  | [] => {}
  | token :: rest =>
      match token.declares? with
      | some direction =>
          let declaration := Declaration.parse token.line (stage.records direction) rest
          let here := ofDeclaration caps stage direction token.separator declaration
          here.append (ofTokens caps stage (recorded ++ here.slots) declaration.rest)
      | none =>
          let here : Body := { pieces := [token.separator, tokenText caps stage recorded token] }
          here.append (ofTokens caps stage recorded rest)
termination_by tokens.length
decreasing_by
  · have shorter := Declaration.length_parse_rest_le token.line (stage.records direction) rest
    simp only [List.length_cons]
    omega
  · simp

def ofSource (caps : Capabilities) (stage : Stage) (source : String) : Body :=
  ofTokens caps stage [] (Token.scan source)

end Body

end Dialect

end ShaderPipeline
