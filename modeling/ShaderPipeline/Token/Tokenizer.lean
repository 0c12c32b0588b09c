import ShaderPipeline.Token

/-!
# Tokens in machine words

A tokenizer counts lines and open brackets in words of 32 bits.  A text with more of them
stops it.
-/

namespace ShaderPipeline

open Cursor

/-- A token, the numbers of which are kept in words. -/
structure SourceToken where
  text : String
  kind : TokenKind
  spaced : Bool
  linesCrossed : UInt32
  continuations : UInt32
  line : UInt32
  parenDepth : UInt32
  braceDepth : UInt32
deriving Repr, DecidableEq

/-- Where a tokenizer stands. -/
structure Tokenizer where
  line : UInt32 := 1
  parenDepth : UInt32 := 0
  braceDepth : UInt32 := 0
deriving Repr, DecidableEq

namespace Tokenizer

def down (tokenizer : Tokenizer) (lines : Nat) : Except Abort Tokenizer :=
  return { tokenizer with line := ← Word.fit32 (tokenizer.line.toNat + lines) }

/-- A closing bracket without a partner changes nothing. -/
def beforeToken (tokenizer : Tokenizer) (text : String) : Tokenizer :=
  if text = ")" then
    { tokenizer with parenDepth := UInt32.ofNat (tokenizer.parenDepth.toNat - 1) }
  else if text = "\x7d" then
    { tokenizer with braceDepth := UInt32.ofNat (tokenizer.braceDepth.toNat - 1) }
  else tokenizer

def afterToken (tokenizer : Tokenizer) (text : String) : Except Abort Tokenizer :=
  if text = "(" then
    return { tokenizer with parenDepth := ← Word.fit32 (tokenizer.parenDepth.toNat + 1) }
  else if text = "\x7b" then
    return { tokenizer with braceDepth := ← Word.fit32 (tokenizer.braceDepth.toNat + 1) }
  else return tokenizer

/-- The next token, and where the tokenizer stands behind it. -/
def next (tokenizer : Tokenizer) (cut : Cut) : Except Abort (SourceToken × Tokenizer) := do
  let linesCrossed ← Word.fit32 cut.filler.lineBreaks
  let continuations ← Word.fit32 cut.filler.continuations
  let here ← tokenizer.down (cut.filler.lineBreaks + cut.filler.continuations)
  let behind ← here.down cut.feeds
  let inside := behind.beforeToken cut.text
  let token : SourceToken :=
    { text := cut.text
      kind := cut.kind
      spaced := cut.spaced
      linesCrossed
      continuations
      line := here.line
      parenDepth := inside.parenDepth
      braceDepth := inside.braceDepth }
  return (token, ← inside.afterToken cut.text)

def all (tokenizer : Tokenizer) : List Cut → Except Abort (List SourceToken × Tokenizer)
  | [] => return ([], tokenizer)
  | cut :: cuts => do
      let (token, behind) ← tokenizer.next cut
      let (tokens, last) ← behind.all cuts
      return (token :: tokens, last)

/-- The tokens of a text, and where the tokenizer stands at its end. -/
def run (source : String) : Except Abort (List SourceToken × Tokenizer) := do
  let (cuts, ending) := Cursor.cuts source 0
  let (tokens, last) ← ({} : Tokenizer).all cuts
  let filler ← ending
  return (tokens, ← last.down (filler.lineBreaks + filler.continuations))

end Tokenizer

end ShaderPipeline
