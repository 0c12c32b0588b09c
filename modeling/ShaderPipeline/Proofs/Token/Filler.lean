import ShaderPipeline.Token.Classes

/-!
# Text between tokens

Shader text separates its tokens by blanks, line feeds, comments and line
continuations.  This file cuts such a stretch into its smallest pieces, so that
the number of line feeds and of continuations can be read off afterwards.
-/

namespace ShaderPipeline

/-- One piece of text that separates tokens. -/
inductive Filler where
  /-- A space, tabulator, carriage return, vertical tabulator or form feed. -/
  | blank (character : Char)
  /-- A line feed. -/
  | lineBreak
  /-- A backslash before a line end, which may have a carriage return. -/
  | continuation (carriageReturn : Bool)
  /-- The text after two slashes, without the line feed that ends it. -/
  | lineComment (body : List Char)
  /-- The text after a slash and a star; an open comment runs to the end. -/
  | blockComment (body : List Char) (closed : Bool)
deriving Repr, DecidableEq

namespace Filler

/-- The characters that a piece was read from. -/
def text : Filler → List Char
  | .blank character => [character]
  | .lineBreak => ['\n']
  | .continuation false => ['\\', '\n']
  | .continuation true => ['\\', '\r', '\n']
  | .lineComment body => '/' :: '/' :: body
  | .blockComment body true => '/' :: '*' :: (body ++ ['*', '/'])
  | .blockComment body false => '/' :: '*' :: body

/-- Line feeds that end a line of the text, continuations apart. -/
def lineBreaks : Filler → Nat
  | .lineBreak => 1
  | .blockComment body _ => body.count '\n'
  | _ => 0

def continuations : Filler → Nat
  | .continuation _ => 1
  | _ => 0

/-- Line feeds of a stretch of filler, continuations apart. -/
def lineBreaksIn : List Filler → Nat
  | [] => 0
  | piece :: rest => piece.lineBreaks + lineBreaksIn rest

def continuationsIn : List Filler → Nat
  | [] => 0
  | piece :: rest => piece.continuations + continuationsIn rest

/-- Splits the text after an opening slash and star: the comment's body,
whether it is closed, and what follows. -/
def splitBlockComment : List Char → List Char × Bool × List Char
  | [] => ([], false, [])
  | '*' :: '/' :: rest => ([], true, rest)
  | character :: rest =>
      let (body, closed, after) := splitBlockComment rest
      (character :: body, closed, after)

/-- The first piece of filler at the start of a text, and what follows it. -/
def next? : List Char → Option (Filler × List Char)
  | '\n' :: rest => some (.lineBreak, rest)
  | '\\' :: '\n' :: rest => some (.continuation false, rest)
  | '\\' :: '\r' :: '\n' :: rest => some (.continuation true, rest)
  | '/' :: '/' :: rest =>
      some (.lineComment (rest.takeWhile (· != '\n')), rest.dropWhile (· != '\n'))
  | '/' :: '*' :: rest =>
      let (body, closed, after) := splitBlockComment rest
      some (.blockComment body closed, after)
  | character :: rest =>
      if isBlank character then some (.blank character, rest) else none
  | [] => none

/-- Cutting a block comment loses nothing. -/
theorem splitBlockComment_append (input : List Char) :
    (splitBlockComment input).1 ++
      (if (splitBlockComment input).2.1 then ['*', '/'] else []) ++
      (splitBlockComment input).2.2 = input := by
  fun_induction splitBlockComment input with
  | case1 => rfl
  | case2 rest => rfl
  | case3 character rest _ body closed after split ih =>
      simp only [split] at ih
      simp [ih]

/-- The first piece and the text after it make up the whole text. -/
theorem text_append_of_next? {input rest : List Char} {piece : Filler}
    (found : next? input = some (piece, rest)) :
    piece.text ++ rest = input := by
  unfold next? at found
  split at found
  · cases found; rfl
  · cases found; rfl
  · cases found; rfl
  · cases found; simp [text]
  · next tail =>
      have whole := splitBlockComment_append tail
      cases closed : (splitBlockComment tail).2.1 <;>
        simp_all [text] <;> grind [text]
  · split at found
    · cases found; rfl
    · cases found
  · cases found

/-- No piece is empty. -/
theorem text_ne_nil (piece : Filler) : piece.text ≠ [] := by
  cases piece with
  | continuation carriageReturn => cases carriageReturn <;> simp [text]
  | blockComment body closed => cases closed <;> simp [text]
  | _ => simp [text]

/-- What follows the first piece is shorter than the text. -/
theorem length_lt_of_next? {input rest : List Char} {piece : Filler}
    (found : next? input = some (piece, rest)) :
    rest.length < input.length := by
  have whole := text_append_of_next? found
  have positive := List.length_pos_iff.mpr piece.text_ne_nil
  rw [← whole, List.length_append]
  omega

/-- All filler at the start of a text, and what follows it. -/
def scan (input : List Char) : List Filler × List Char :=
  match _found : next? input with
  | none => ([], input)
  | some (piece, rest) =>
      let (pieces, after) := scan rest
      (piece :: pieces, after)
termination_by input.length
decreasing_by exact length_lt_of_next? _found

theorem scan_of_none {text : List Char} (noFiller : next? text = none) :
    scan text = ([], text) := by
  rw [scan]
  split
  · rfl
  · next found =>
      rw [noFiller] at found
      cases found

theorem scan_of_some {text rest : List Char} {piece : Filler}
    (found : next? text = some (piece, rest)) :
    scan text = (piece :: (scan rest).1, (scan rest).2) := by
  rw [scan]
  split
  · next noFiller =>
      rw [noFiller] at found
      cases found
  · next found' =>
      rw [found] at found'
      cases found'
      rfl

theorem scan_append (text : List Char) :
    (scan text).1.flatMap Filler.text ++ (scan text).2 = text ∧ next? (scan text).2 = none := by
  fun_induction scan text with
  | case1 text noFiller => exact ⟨rfl, noFiller⟩
  | case2 text piece rest found pieces after skipped ih =>
      rw [skipped] at ih
      refine ⟨?_, ih.2⟩
      rw [List.flatMap_cons, List.append_assoc, ih.1]
      exact text_append_of_next? found

/-- Skipping filler never makes the text longer. -/
theorem length_scan_le (input : List Char) :
    (scan input).2.length ≤ input.length := by
  fun_induction scan input with
  | case1 => exact Nat.le_refl _
  | case2 input piece rest found pieces after skipped ih =>
      have shorter := length_lt_of_next? found
      simp only [skipped] at ih
      simp only
      omega

end Filler

end ShaderPipeline
