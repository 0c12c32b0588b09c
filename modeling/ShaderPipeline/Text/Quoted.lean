import ShaderPipeline.Text.Picture

/-!
# Quoted text

Text between quotation marks in which marks, backslashes and characters without
a picture are escaped.
-/

namespace ShaderPipeline.Text

/-- A character as it stands between quotation marks. -/
def quotedCharacter (character : Char) : String :=
  if character = '\x22' then "\\\""
  else if character = '\\' then "\\\\"
  else if character = '\n' then "\\n"
  else if character = '\r' then "\\r"
  else if character = '\t' then "\\t"
  else if character = '\x00' then "\\0"
  else if lacksPicture character then
    "\\u\x7b" ++ String.ofList (Nat.toDigits 16 character.toNat) ++ "\x7d"
  else String.ofList [character]

def quoted (text : String) : String :=
  "\"" ++ String.join (text.toList.map quotedCharacter) ++ "\""

end ShaderPipeline.Text
