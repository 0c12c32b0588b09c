/-!
# Blank characters

The characters with the Unicode property `White_Space`, and the ways text is
cut at them: at its ends, into words, and into lines.
-/

namespace ShaderPipeline.Text

/-- The characters with the Unicode property `White_Space`. -/
def isBlank (character : Char) : Bool :=
  let code := character.toNat
  (0x9 ≤ code && code ≤ 0xD) || code == 0x20 || code == 0x85 || code == 0xA0 ||
    code == 0x1680 || (0x2000 ≤ code && code ≤ 0x200A) || code == 0x2028 ||
    code == 0x2029 || code == 0x202F || code == 0x205F || code == 0x3000

def trimStart (text : List Char) : List Char :=
  text.dropWhile isBlank

def trimEnd (text : List Char) : List Char :=
  (text.reverse.dropWhile isBlank).reverse

def trim (text : List Char) : List Char :=
  trimEnd (trimStart text)

/-- Cuts a text at every character for which `cuts` holds.  There is one part
more than there are cuts. -/
def splitAt (cuts : Char → Bool) : List Char → List (List Char)
  | [] => [[]]
  | character :: rest =>
      if cuts character then [] :: splitAt cuts rest
      else
        match splitAt cuts rest with
        | [] => [[character]]
        | part :: parts => (character :: part) :: parts

/-- The runs of characters between blanks. -/
def words (text : List Char) : List (List Char) :=
  (splitAt isBlank text).filter (!·.isEmpty)

/-- A line without one carriage return at its end. -/
def dropCarriageReturn (line : List Char) : List Char :=
  match line.reverse with
  | '\r' :: rest => rest.reverse
  | _ => line

/-- The lines of a text whose line ends are gone.  A text that ends with a line
feed has no empty line behind it, and a carriage return belongs to a line end
only before a line feed. -/
def lines (text : List Char) : List (List Char) :=
  let parts := splitAt (· == '\n') text
  let closed := parts.dropLast.map dropCarriageReturn
  match parts.getLast? with
  | none => closed
  | some [] => closed
  | some last => closed ++ [last]

end ShaderPipeline.Text
