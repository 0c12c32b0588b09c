import ShaderPipeline.Proofs.Dialect.HeaderLines
import ShaderPipeline.Proofs.Software.Statements
import Mathlib.Data.List.Infix

/-!
# Headers in front of a scan

The header that every stage starts with must not change what a scan finds in the body
behind it.  It is written line by line, and no line holds a comment, the keyword of a
declaration or an `#error` directive.  Such a line can stand in front of every text: the
scan finds the same uniforms, and the same directive one line further down.
-/

namespace ShaderPipeline.Software

open Text Dialect

section Infixes

/-- A word does not reach across a character that it does not hold. -/
theorem infix_either_side {word before behind : List Char} {character : Char}
    (notMem : character ∉ word) (inside : word <:+: before ++ character :: behind) :
    word <:+: before ∨ word <:+: behind := by
  induction before with
  | nil =>
      rcases List.infix_cons_iff.mp inside with isPrefix | inBehind
      · cases word with
        | nil => exact Or.inl List.nil_infix
        | cons first word =>
            obtain ⟨rfl, -⟩ := List.cons_prefix_cons.mp isPrefix
            exact absurd List.mem_cons_self notMem
      · exact Or.inr inBehind
  | cons first before ih =>
      rcases List.infix_cons_iff.mp inside with isPrefix | inRest
      · left
        have isPrefix : word <+: (first :: before) ++ character :: behind := isPrefix
        rcases List.prefix_or_prefix_of_prefix isPrefix (List.prefix_append _ _) with short | long
        · exact short.isInfix
        · obtain ⟨rest, rfl⟩ := long
          rw [List.prefix_append_right_inj] at isPrefix
          cases rest with
          | nil => exact (List.append_nil _ ▸ List.infix_rfl)
          | cons next rest =>
              obtain ⟨rfl, -⟩ := List.cons_prefix_cons.mp isPrefix
              simp at notMem
      · exact (ih inRest).imp_left List.infix_cons

end Infixes

def uniformsIn (text : List Char) : List DeclaredUniform :=
  (splitAt (· == ';') text).flatMap statementUniforms

/-- A text that a scan passes over, whatever stands behind it. -/
structure Inert (text : String) : Prop where
  /-- No comment starts in it. -/
  stripped : ∀ rest, stripComments (text.toList ++ rest) = text.toList ++ stripComments rest
  uniforms : ∀ rest, uniformsIn (text.toList ++ rest) = uniformsIn rest
  /-- Its line feeds are counted. -/
  errors : ∀ number rest, errorFrom number (lines (text.toList ++ rest)) =
    errorFrom (number + text.toList.count '\n') (lines rest)

namespace Inert

theorem empty : Inert "" :=
  ⟨fun _ => rfl, fun _ => rfl, fun _ _ => rfl⟩

theorem append {first second : String} (inert : Inert first) (inert' : Inert second) :
    Inert (first ++ second) where
  stripped rest := by
    rw [String.toList_append, List.append_assoc, inert.stripped, inert'.stripped,
      List.append_assoc]
  uniforms rest := by
    rw [String.toList_append, List.append_assoc, inert.uniforms, inert'.uniforms]
  errors number rest := by
    rw [String.toList_append, List.append_assoc, inert.errors, inert'.errors,
      List.count_append, Nat.add_assoc]

theorem joins : Joins Inert :=
  ⟨empty, append⟩

end Inert

/-- A line in which a scan finds nothing. -/
structure IsQuiet (line : List Char) : Prop where
  noFeed : '\n' ∉ line
  noSlash : '/' ∉ line
  noUniform : ¬ uniformWord <:+: line
  noError : errorMessage? line = none

section Lines

variable {line : List Char}

theorem stripComments_append {text : List Char} (noSlash : '/' ∉ text) (rest : List Char) :
    stripComments (text ++ rest) = text ++ stripComments rest := by
  induction text with
  | nil => rfl
  | cons character text ih =>
      rw [List.mem_cons, not_or] at noSlash
      rw [List.cons_append, stripComments, stripFrom_code_cons fun isSlash =>
        absurd isSlash.symm noSlash.1]
      exact congrArg (character :: ·) (ih noSlash.2)

theorem uniformsIn_append_feed (noUniform : ¬ uniformWord <:+: line) (rest : List Char) :
    uniformsIn (line ++ '\n' :: rest) = uniformsIn rest := by
  obtain ⟨before, last, isSplit⟩ := exists_splitAt_last (· == ';') line
  obtain ⟨first, behind, isRest⟩ := exists_splitAt (· == ';') rest
  have quiet : ∀ part ∈ before ++ [last], ¬ uniformWord <:+: part := by
    intro part member inPart
    rw [← isSplit] at member
    exact noUniform (inPart.trans (infix_of_mem_splitAt.2 part member))
  have noneBefore : before.flatMap statementUniforms = [] := by
    rw [List.flatMap_eq_nil_iff]
    exact fun part member =>
      statementUniforms_eq_nil (quiet part (List.mem_append_left _ member))
  have atSeam : statementUniforms (last ++ '\n' :: first) = statementUniforms first := by
    have notInLast := uniform_notMem_statementWords (quiet last (by simp))
    rw [statementUniforms_eq, statementWords_append_blank _ rfl, wordUniforms_append notInLast]
    rfl
  have isRest' : splitAt (· == ';') ('\n' :: rest) = ('\n' :: first) :: behind :=
    splitAt_cons_of_not rfl isRest
  rw [uniformsIn, splitAt_append isSplit isRest', List.flatMap_append, noneBefore,
    List.nil_append, List.flatMap_cons, atSeam, uniformsIn, isRest, List.flatMap_cons]

theorem errorFrom_add (number shift : Nat) (lines : List (List Char)) :
    errorFrom (number + shift) lines =
      (errorFrom number lines).map fun found => (found.1 + shift, found.2) := by
  induction lines generalizing number with
  | nil => rfl
  | cons line lines ih =>
      rw [errorFrom, errorFrom]
      cases errorMessage? line with
      | some message => rfl
      | none =>
          have next : number + shift + 1 = number + 1 + shift := by omega
          simp only [next, ih]

theorem errorFrom_append_feed (noFeed : '\n' ∉ line) (noError : errorMessage? line = none)
    (number : Nat) (rest : List Char) :
    errorFrom number (lines (line ++ '\n' :: rest)) = errorFrom (number + 1) (lines rest) := by
  have stillNone : errorMessage? (dropCarriageReturn line) = none := by
    have isNone : (errorMessage? line).isSome = false := by rw [noError]; rfl
    rw [isSome_errorMessage?, ← words_dropCarriageReturn, ← isSome_errorMessage?] at isNone
    simpa using isNone
  rw [lines_append_feed noFeed, errorFrom, stillNone]

/-- A quiet line with its line feed is passed over. -/
theorem IsQuiet.inert (quiet : IsQuiet line) {text : String}
    (isLine : text.toList = line ++ ['\n']) : Inert text where
  stripped rest := by
    rw [isLine]
    exact stripComments_append (by simpa using quiet.noSlash) rest
  uniforms rest := by
    rw [isLine, List.append_assoc]
    exact uniformsIn_append_feed quiet.noUniform rest
  errors number rest := by
    have oneFeed : (line ++ ['\n']).count '\n' = 1 := by
      rw [List.count_append, List.count_eq_zero_of_not_mem quiet.noFeed]
      rfl
    rw [isLine, oneFeed, List.append_assoc]
    exact errorFrom_append_feed quiet.noFeed quiet.noError number rest

/-- The same by evaluation.  Characters are compared by their codes. -/
def isQuiet (line : List Char) : Bool :=
  let codes := line.map Char.toNat
  decide ('\n'.toNat ∉ codes) && decide ('/'.toNat ∉ codes) &&
    decide (¬ uniformWord.map Char.toNat <:+: codes) && (errorMessage? line).isNone

theorem IsQuiet.of_isQuiet (checked : isQuiet line) : IsQuiet line := by
  simp only [isQuiet, Bool.and_eq_true, decide_eq_true_eq, Option.isNone_iff_eq_none] at checked
  obtain ⟨⟨⟨noFeed, noSlash⟩, noUniform⟩, noError⟩ := checked
  exact ⟨fun inside => noFeed (List.mem_map_of_mem inside),
    fun inside => noSlash (List.mem_map_of_mem inside),
    fun inside => noUniform (inside.map _), noError⟩

end Lines

section Preamble

/-- A line that ends in a text of its own, such as a version. -/
theorem inert_directive_text (directive : String) (quiet : isQuiet directive.toList)
    {text : String} (noFeed : '\n' ∉ text.toList) (noSlash : '/' ∉ text.toList)
    (noUniform : ¬ uniformWord <:+: text.toList)
    (noError : errorMessage? (directive.toList ++ ' ' :: text.toList) = none) :
    Inert (directive ++ " " ++ text ++ "\n") := by
  have start := IsQuiet.of_isQuiet quiet
  have quiet : IsQuiet (directive.toList ++ ' ' :: text.toList) :=
    { noFeed := by simp [start.noFeed, noFeed]
      noSlash := by simp [start.noSlash, noSlash]
      noUniform := fun inside =>
        (infix_either_side (by decide) inside).elim start.noUniform noUniform
      noError := noError }
  exact quiet.inert (by simp)

theorem inert_versionLine {text : String} (noFeed : '\n' ∉ text.toList)
    (noSlash : '/' ∉ text.toList) (noUniform : ¬ uniformWord <:+: text.toList) :
    Inert ("#version " ++ text ++ "\n") :=
  inert_directive_text "#version" (by decide) noFeed noSlash noUniform rfl

theorem inert_versionDefinition (version : Nat) :
    Inert ("#define GLSL_VERSION " ++ Nat.repr version ++ "\n") := by
  refine inert_directive_text "#define GLSL_VERSION" (by decide) ?_ ?_ ?_ rfl
  · intro inside
    cases isDigit_of_mem_repr inside
  · intro inside
    cases isDigit_of_mem_repr inside
  · intro inside
    cases isDigit_of_mem_repr (inside.subset (List.mem_cons_self : 'u' ∈ uniformWord))

/-- A fixed line. -/
theorem inert_ofList {line : List Char} (quiet : isQuiet line.dropLast)
    (ended : line.getLast? = some '\n') : Inert (String.ofList line) :=
  (IsQuiet.of_isQuiet quiet).inert (toList_ofList_line ended)

/-- A fixed line with a fixed word in it. -/
theorem inert_ofList_append {start word line : List Char}
    (quiet : isQuiet (start ++ word ++ line).dropLast)
    (ended : (start ++ word ++ line).getLast? = some '\n') :
    Inert (String.ofList start ++ String.ofList word ++ String.ofList line) := by
  have whole := inert_ofList quiet ended
  rwa [String.ofList_append, String.ofList_append] at whole

theorem inert_featureLines (caps : Capabilities) : Inert (featureLines caps) := by
  unfold featureLines
  split
  · exact inert_ofList (by decide) (by decide)
  · split
    · exact (inert_ofList (by decide) (by decide)).append
        (inert_ofList_append (by decide) (by decide))
    · exact inert_ofList (by decide) (by decide)

theorem inert_lodLine (caps : Capabilities) : Inert (lodLine caps) := by
  unfold lodLine
  split
  · next extension _ =>
      cases extension <;> exact inert_ofList_append (by decide) (by decide)
  · exact .empty

theorem inert_preamble {caps : Capabilities} (noFeed : '\n' ∉ caps.versionText.toList)
    (noSlash : '/' ∉ caps.versionText.toList)
    (noUniform : ¬ uniformWord <:+: caps.versionText.toList) : Inert (preamble caps) := by
  have versions := (inert_versionLine noFeed noSlash noUniform).append
    (inert_versionDefinition caps.version.toNat)
  rw [← append_pieces] at versions
  exact (versions.append (inert_featureLines caps)).append (inert_lodLine caps)

end Preamble

theorem inert_precisionTexts : ∀ text ∈ precisionTexts, Inert text := by
  simp only [precisionTexts, List.map_cons, List.forall_mem_append, List.forall_mem_cons]
  refine ⟨⟨?_, ?_, ?_, by simp⟩, ?_, ?_, ?_, ?_, ?_, ?_, ?_, ?_, ?_, ?_, by simp⟩
  · exact inert_ofList (by decide) (by decide)
  · exact inert_ofList (by decide) (by decide)
  · exact inert_ofList (by decide) (by decide)
  all_goals exact inert_ofList_append (by decide) (by decide)

theorem inert_precision (caps : Capabilities) (stage : Stage) : Inert (precision caps stage) :=
  Inert.joins.precision inert_precisionTexts caps stage

section Intrinsics

theorem quiet_function {signature body : List Char}
    (quiet : isQuiet (signature ++ " \x7b ".toList ++ body ++ " \x7d".toList)) :
    IsQuiet (IntrinsicLine.function (String.ofList signature) (String.ofList body)).content := by
  rw [IntrinsicLine.content_function]
  exact .of_isQuiet quiet

theorem quiet_function_pieces {signature start middle last : List Char}
    (quiet : isQuiet
      (signature ++ " \x7b ".toList ++ (start ++ middle ++ last) ++ " \x7d".toList)) :
    IsQuiet (IntrinsicLine.function (String.ofList signature)
      (String.ofList start ++ String.ofList middle ++ String.ofList last)).content := by
  rw [IntrinsicLine.content_function_pieces]
  exact .of_isQuiet quiet

theorem quiet_directive {text : List Char} (quiet : isQuiet text) :
    IsQuiet (IntrinsicLine.directive (String.ofList text)).content := by
  rw [IntrinsicLine.content_directive]
  exact .of_isQuiet quiet

theorem quiet_empty : IsQuiet IntrinsicLine.empty.content :=
  .of_isQuiet rfl

theorem quiet_fixedLines : ∀ line ∈ fixedLines, IsQuiet line.content := by
  simp only [fixedLines, saturateLines, clipLines, vertexSampling, legacyVertexSampling,
    fragmentSampling, legacyFragmentSampling, List.cons_append, List.nil_append,
    List.forall_mem_cons, List.not_mem_nil, false_imp_iff, implies_true, and_true]
  repeat' apply And.intro
  -- One lemma for each kind of line.
  all_goals first
    | exact quiet_function (by decide +kernel)
    | exact quiet_directive (by decide +kernel)
    | exact quiet_empty

theorem quiet_legacyLodSampling (extension : LodExtension) :
    ∀ line ∈ legacyLodSampling extension, IsQuiet line.content := by
  simp only [legacyLodSampling, List.forall_mem_cons]
  cases extension with
  | arb =>
      exact ⟨quiet_function_pieces (by decide +kernel), quiet_function_pieces (by decide +kernel),
        by simp⟩
  | ext =>
      exact ⟨quiet_function_pieces (by decide +kernel), quiet_function_pieces (by decide +kernel),
        by simp⟩

theorem quiet_intrinsicLines (caps : Capabilities) (stage : Stage) :
    ∀ line ∈ intrinsicLines caps stage, IsQuiet line.content :=
  forall_mem_intrinsicLines quiet_empty quiet_fixedLines quiet_legacyLodSampling caps stage

theorem inert_intrinsics (caps : Capabilities) (stage : Stage) : Inert (intrinsics caps stage) := by
  refine Inert.joins.join (List.forall_mem_map.mpr fun line member => ?_)
  exact (quiet_intrinsicLines caps stage line member).inert line.toList_text

end Intrinsics

/-- The header of a target whose version text is a plain one is not seen by a scan.  The body
declares the same uniforms behind it, and its `#error` directive is found as many lines further
down as the header has. -/
theorem scans_behind_header (caps : Capabilities) (stage : Stage) (body : String)
    (noFeed : '\n' ∉ caps.versionText.toList) (noSlash : '/' ∉ caps.versionText.toList)
    (noUniform : ¬ "uniform".toList <:+: caps.versionText.toList) :
    declaredUniforms (header caps stage ++ body) = declaredUniforms body ∧
      errorDirective? (header caps stage ++ body) =
        (errorDirective? body).map fun found =>
          (found.1 + (header caps stage).toList.count '\n', found.2) := by
  have inert : Inert (header caps stage) :=
    ((inert_preamble noFeed noSlash noUniform).append (inert_precision caps stage)).append
      (inert_intrinsics caps stage)
  constructor
  · change uniformsIn (stripComments (header caps stage ++ body).toList) = _
    rw [String.toList_append, inert.stripped, inert.uniforms]
    rfl
  · rw [errorDirective?, String.toList_append, inert.stripped, inert.errors,
      errorFrom_add]
    rfl

/-- A target whose version text has the keyword in two pieces. -/
def brokenKeyword : Capabilities :=
  { Capabilities.gles2 with versionText := "100 uni[form;uni", textureLodExt := true }

/-- A body that starts inside a word and hides its directive behind a comment. -/
def lateBody : String :=
  "form vec4 a; uniform float b/*\n*/[2]\n # /**/ error late\n"

theorem scans_behind_header_brokenKeyword :
    ('\n' ∉ brokenKeyword.versionText.toList ∧ '/' ∉ brokenKeyword.versionText.toList ∧
        ¬ "uniform".toList <:+: brokenKeyword.versionText.toList) ∧
      declaredUniforms (header brokenKeyword .fragment ++ lateBody) = declaredUniforms lateBody ∧
      errorDirective? (header brokenKeyword .fragment ++ lateBody) =
        (errorDirective? lateBody).map fun found =>
          (found.1 + (header brokenKeyword .fragment).toList.count '\n', found.2) := by
  have noFeed : '\n' ∉ brokenKeyword.versionText.toList := by decide
  have noSlash : '/' ∉ brokenKeyword.versionText.toList := by decide
  have noUniform : ¬ "uniform".toList <:+: brokenKeyword.versionText.toList := by decide
  exact ⟨⟨noFeed, noSlash, noUniform⟩,
    scans_behind_header brokenKeyword .fragment lateBody noFeed noSlash noUniform⟩

end ShaderPipeline.Software
