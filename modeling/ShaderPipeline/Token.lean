import ShaderPipeline.Token.Cursor

/-!
# Tokens

A token is a lexeme with what the layout around it says: how it is separated from its
predecessor, the line it stands on, and how deeply parentheses and braces are nested around
it.  These are numbers here, which a text of any length has.
-/

namespace ShaderPipeline

/-- A lexeme with the layout that came before it. -/
structure Token where
  text : String
  kind : TokenKind
  /-- Filler separates this token from the previous one. -/
  spaced : Bool
  /-- Line feeds between the previous token and this one, continuations apart. -/
  linesCrossed : Nat
  /-- Line continuations between the previous token and this one. -/
  continuations : Nat
  /-- The line the token starts on, counted from one. -/
  line : Nat
  /-- Open parentheses around the token; a pair shares one depth. -/
  parenDepth : Nat
  /-- Open braces around the token; a pair shares one depth. -/
  braceDepth : Nat
deriving Repr, DecidableEq

/-- Where a scan stands: the current line and the open brackets. -/
structure ScanState where
  line : Nat := 1
  parenDepth : Nat := 0
  braceDepth : Nat := 0
deriving Repr, DecidableEq

namespace ScanState

def down (state : ScanState) (lines : Nat) : ScanState :=
  { state with line := state.line + lines }

/-- A closing bracket leaves its nesting before it is recorded; one without a
partner changes nothing. -/
def beforeToken (state : ScanState) (text : String) : ScanState :=
  if text = ")" then { state with parenDepth := state.parenDepth - 1 }
  else if text = "\x7d" then { state with braceDepth := state.braceDepth - 1 }
  else state

/-- An opening bracket nests what comes after it. -/
def afterToken (state : ScanState) (text : String) : ScanState :=
  if text = "(" then { state with parenDepth := state.parenDepth + 1 }
  else if text = "\x7b" then { state with braceDepth := state.braceDepth + 1 }
  else state

end ScanState

namespace Token

open Cursor

/-- The token of a lexeme, for the state behind the filler before it. -/
def ofCut (state : ScanState) (cut : Cut) : Token where
  text := cut.text
  kind := cut.kind
  spaced := cut.spaced
  linesCrossed := cut.filler.lineBreaks
  continuations := cut.filler.continuations
  line := state.line
  parenDepth := (state.beforeToken cut.text).parenDepth
  braceDepth := (state.beforeToken cut.text).braceDepth

/-- Places lexemes on lines and in nestings.  The state behind the last of them is returned
too. -/
def ofCuts (state : ScanState) : List Cut → List Token × ScanState
  | [] => ([], state)
  | cut :: cuts =>
      let here := state.down (cut.filler.lineBreaks + cut.filler.continuations)
      let behind := ((here.beforeToken cut.text).afterToken cut.text).down cut.feeds
      let (tokens, last) := ofCuts behind cuts
      (ofCut here cut :: tokens, last)

/-- The tokens of a text, and the line that its end lies on. -/
def scanWithEnd (source : String) : List Token × Nat :=
  let (cuts, ending) := Cursor.cuts source 0
  let (tokens, last) := ofCuts {} cuts
  match ending with
  | .ok filler => (tokens, (last.down (filler.lineBreaks + filler.continuations)).line)
  | .error _ => (tokens, last.line)

def scan (source : String) : List Token :=
  (scanWithEnd source).1

def endLine (source : String) : Nat :=
  (scanWithEnd source).2

end Token

end ShaderPipeline
