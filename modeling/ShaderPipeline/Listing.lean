import ShaderPipeline.Text.Blank

/-!
# Numbered listings

A listing shows every line of a text behind its number, which is how a driver
refers to the lines of the text it was given.
-/

namespace ShaderPipeline.Listing

/-- A number filled up with blanks on the left to at least three characters. -/
def lineNumber (number : Nat) : String :=
  let digits := Nat.repr number
  String.ofList (List.replicate (3 - digits.length) ' ') ++ digits

def row (number : Nat) (line : List Char) : String :=
  lineNumber number ++ ": " ++ String.ofList line ++ "\n"

/-- The rows of the lines from `number` on. -/
def rowsFrom (number : Nat) : List (List Char) → List String
  | [] => []
  | line :: rest => row number line :: rowsFrom (number + 1) rest

/-- Every line of a text behind its number. -/
def numbered (text : String) : String :=
  String.join (rowsFrom 1 (Text.splitAt (· == '\n') text.toList))

end ShaderPipeline.Listing
