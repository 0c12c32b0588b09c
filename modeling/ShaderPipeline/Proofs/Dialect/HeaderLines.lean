import ShaderPipeline.Dialect
import ShaderPipeline.Proofs.Text.Words

/-!
# The lines of a header

A header is written line by line, and some of its lines enable an extension.  `Asks` says
which extensions the lines of a text enable.  Texts that are written one behind the other
ask for the extensions of all of them, so that a header asks for those of its preamble and
for no others.
-/

namespace ShaderPipeline.Dialect

open Text

section Pieces

theorem append_pieces (text start middle last : String) :
    text ++ start ++ middle ++ last = text ++ (start ++ middle ++ last) := by
  simp only [String.append_assoc]

theorem toList_ofList_line {line : List Char} (ended : line.getLast? = some '\n') :
    (String.ofList line).toList = line.dropLast ++ ['\n'] := by
  rw [String.toList_ofList]
  exact (List.dropLast_append_getLast? '\n' ended).symm

/-- What holds of texts that are written one behind the other if it holds of each. -/
structure Joins (holds : String → Prop) : Prop where
  empty : holds ""
  append : ∀ {first second}, holds first → holds second → holds (first ++ second)

def precisionTexts : List String :=
  ["#ifdef GL_ES\n", "#ifdef TEXTURE_RECT\n", "#endif\n"] ++
    ["float", "int", "sampler2D", "sampler2DRect", "sampler3D", "samplerCube", "sampler2DArray",
      "sampler2DShadow", "samplerCubeShadow", "sampler2DArrayShadow"].map precisionLine

namespace Joins

variable {holds : String → Prop}

theorem join (joins : Joins holds) {texts : List String} (each : ∀ text ∈ texts, holds text) :
    holds (String.join texts) := by
  induction texts with
  | nil => exact joins.empty
  | cons text texts ih =>
      rw [List.forall_mem_cons] at each
      rw [String.join_cons]
      exact joins.append each.1 (ih each.2)

theorem precision (joins : Joins holds) (each : ∀ text ∈ precisionTexts, holds text)
    (caps : Capabilities) (stage : Stage) : holds (precision caps stage) := by
  simp only [precisionTexts, List.map_cons, List.forall_mem_append, List.forall_mem_cons] at each
  obtain ⟨⟨opening, condition, closing, -⟩, float, int, plain, rectangle, volume, cube, array,
    shadow, cubeShadow, arrayShadow, -⟩ := each
  have numbers := joins.append (joins.append opening float) int
  cases stage with
  | vertex => exact joins.append (joins.append numbers joins.empty) closing
  | fragment =>
      have samplers : ∀ text ∈ (preciseSamplers caps).map precisionLine, holds text := by
        unfold preciseSamplers
        split <;> simp only [List.map_cons, List.forall_mem_cons]
        · exact ⟨cube, by simp⟩
        · exact ⟨volume, cube, array, shadow, cubeShadow, arrayShadow, by simp⟩
      have rectangles := joins.append (joins.append (joins.append plain condition) rectangle) closing
      exact joins.append (joins.append numbers (joins.append rectangles (joins.join samplers)))
        closing

end Joins

end Pieces

/-- The text is the lines, each with a line feed behind it. -/
structure MadeOf (text : String) (lines : List (List Char)) : Prop where
  isText : text.toList = lines.flatMap (· ++ ['\n'])
  onLine : ∀ line ∈ lines, '\n' ∉ line

namespace MadeOf

variable {text text' : String} {lines lines' : List (List Char)}

theorem empty : MadeOf "" [] :=
  ⟨rfl, by simp⟩

theorem ofLine {line : List Char} (isLine : text.toList = line ++ ['\n']) (onLine : '\n' ∉ line) :
    MadeOf text [line] :=
  ⟨by simp [isLine], by simpa using onLine⟩

theorem append (madeOf : MadeOf text lines) (madeOf' : MadeOf text' lines') :
    MadeOf (text ++ text') (lines ++ lines') where
  isText := by rw [String.toList_append, madeOf.isText, madeOf'.isText, List.flatMap_append]
  onLine := List.forall_mem_append.mpr ⟨madeOf.onLine, madeOf'.onLine⟩

theorem splitAt_eq (madeOf : MadeOf text lines) :
    splitAt (· == '\n') text.toList = lines ++ [[]] := by
  rw [madeOf.isText, splitAt_flatMap_feed madeOf.onLine]

end MadeOf

/-- The line that enables an extension, without its line feed. -/
def enableText (extension : String) : List Char :=
  ("#extension " ++ extension ++ " : enable").toList

/-- The text has a line that enables the extension. -/
def Enables (text extension : String) : Prop :=
  enableText extension ∈ splitAt (· == '\n') text.toList

/-- The line starts and ends as one that enables an extension. -/
def isEnabling (line : List Char) : Bool :=
  ['#', 'e', 'x', 't', 'e', 'n', 's', 'i', 'o', 'n', ' '].isPrefixOf line &&
    [' ', ':', ' ', 'e', 'n', 'a', 'b', 'l', 'e'].isSuffixOf line

theorem isEnabling_enableText (extension : String) : isEnabling (enableText extension) = true := by
  have isText : enableText extension =
      "#extension ".toList ++ (extension.toList ++ " : enable".toList) := by
    simp [enableText]
  have starts := List.prefix_append "#extension ".toList (extension.toList ++ " : enable".toList)
  have ends := List.suffix_append ("#extension ".toList ++ extension.toList) " : enable".toList
  rw [List.append_assoc] at ends
  rw [isEnabling, Bool.and_eq_true, List.isPrefixOf_iff_prefix, List.isSuffixOf_iff_suffix, isText]
  exact ⟨starts, ends⟩

/-- The last character of a line can tell that it enables nothing. -/
theorem isEnabling_concat {last : Char} (notEnd : last ≠ 'e') (line : List Char) :
    isEnabling (line ++ [last]) = false := by
  rw [isEnabling, Bool.and_eq_false_iff, ← Bool.not_eq_true, ← Bool.not_eq_true,
    List.isSuffixOf_iff_suffix]
  right
  rintro ⟨front, isLine⟩
  have isWhole : (front ++ [' ', ':', ' ', 'e', 'n', 'a', 'b', 'l']) ++ ['e'] = line ++ [last] := by
    rw [List.append_assoc]
    exact isLine
  exact notEnd (List.append_singleton_inj.mp isWhole).2.symm

theorem enableText_injective {extension extension' : String}
    (same : enableText extension = enableText extension') : extension = extension' := by
  rw [← String.toList_inj]
  simpa [enableText] using same

/-- The text is made of lines, and those that enable an extension enable these, in order. -/
def Asks (text : String) (extensions : List String) : Prop :=
  ∃ lines, MadeOf text lines ∧ lines.filter isEnabling = extensions.map enableText

namespace Asks

variable {text text' : String} {extensions extensions' : List String}

theorem empty : Asks "" [] :=
  ⟨[], .empty, rfl⟩

theorem append (asks : Asks text extensions) (asks' : Asks text' extensions') :
    Asks (text ++ text') (extensions ++ extensions') := by
  obtain ⟨lines, madeOf, isFilter⟩ := asks
  obtain ⟨lines', madeOf', isFilter'⟩ := asks'
  refine ⟨lines ++ lines', madeOf.append madeOf', ?_⟩
  rw [List.filter_append, isFilter, isFilter', List.map_append]

/-- The same for a text that was added in three pieces. -/
theorem append_pieces {start middle last : String} (asks : Asks text extensions)
    (asks' : Asks (start ++ middle ++ last) extensions') :
    Asks (text ++ start ++ middle ++ last) (extensions ++ extensions') := by
  rw [Dialect.append_pieces]
  exact asks.append asks'

/-- Texts that ask for nothing ask for nothing together. -/
theorem joins : Joins fun text => Asks text [] :=
  ⟨empty, append⟩

theorem ofLine {line : List Char} (isLine : text.toList = line ++ ['\n']) (onLine : '\n' ∉ line)
    (plain : isEnabling line = false) : Asks text [] :=
  ⟨[line], .ofLine isLine onLine, by simp [plain]⟩

theorem enableLine {extension : String} (onLine : '\n' ∉ extension.toList) :
    Asks (enableLine extension) [extension] := by
  refine ⟨[enableText extension], .ofLine ?_ ?_, ?_⟩
  · simp [Dialect.enableLine, enableText]
  · simp [enableText, onLine]
  · simp [isEnabling_enableText]

theorem enables_iff (asks : Asks text extensions) (extension : String) :
    Enables text extension ↔ extension ∈ extensions := by
  obtain ⟨lines, madeOf, isFilter⟩ := asks
  have enabling := isEnabling_enableText extension
  have inLines : Enables text extension ↔ enableText extension ∈ lines.filter isEnabling := by
    have notEmpty : enableText extension ≠ [] := by
      intro isEmpty
      rw [isEmpty] at enabling
      cases enabling
    rw [Enables, madeOf.splitAt_eq, List.mem_append, List.mem_singleton, or_iff_left notEmpty,
      List.mem_filter, and_iff_left enabling]
  rw [inLines, isFilter, List.mem_map]
  constructor
  · rintro ⟨other, member, same⟩
    exact enableText_injective same ▸ member
  · exact fun member => ⟨extension, member, rfl⟩

end Asks

section Intrinsics

def IntrinsicLine.content : IntrinsicLine → List Char
  | .function signature body =>
      signature.toList ++ " \x7b ".toList ++ body.toList ++ " \x7d".toList
  | .directive text => text.toList
  | .empty => []

theorem IntrinsicLine.content_function (signature body : List Char) :
    (function (String.ofList signature) (String.ofList body)).content =
      signature ++ " \x7b ".toList ++ body ++ " \x7d".toList := by
  simp [content]

/-- The same for a body that was put together from three pieces. -/
theorem IntrinsicLine.content_function_pieces (signature start middle last : List Char) :
    (function (String.ofList signature)
      (String.ofList start ++ String.ofList middle ++ String.ofList last)).content =
      signature ++ " \x7b ".toList ++ (start ++ middle ++ last) ++ " \x7d".toList := by
  rw [← String.ofList_append, ← String.ofList_append, content_function]

theorem IntrinsicLine.content_directive (text : List Char) :
    (directive (String.ofList text)).content = text := by
  rw [content, String.toList_ofList]

theorem IntrinsicLine.toList_text (line : IntrinsicLine) :
    line.text.toList = line.content ++ ['\n'] := by
  cases line <;> simp [text, content]

/-- The intrinsic lines that no capability changes. -/
def fixedLines : List IntrinsicLine :=
  saturateLines ++ clipLines ++ (vertexSampling ++ legacyVertexSampling) ++
    (fragmentSampling ++ legacyFragmentSampling)

/-- What holds of fixed lines and of the lines for an explicit level of detail holds of all
intrinsic lines. -/
theorem forall_mem_intrinsicLines {holds : IntrinsicLine → Prop} (empty : holds .empty)
    (fixed : ∀ line ∈ fixedLines, holds line)
    (lod : ∀ extension, ∀ line ∈ legacyLodSampling extension, holds line) (caps : Capabilities)
    (stage : Stage) : ∀ line ∈ intrinsicLines caps stage, holds line := by
  have space : ∀ line ∈ [IntrinsicLine.empty], holds line := List.forall_mem_singleton.mpr empty
  simp only [fixedLines, List.forall_mem_append] at fixed
  obtain ⟨⟨⟨saturate, clip⟩, vertex, legacyVertex⟩, fragment, legacyFragment⟩ := fixed
  cases stage with
  | vertex =>
      simp only [intrinsicLines, List.forall_mem_append]
      refine ⟨⟨saturate, ?_⟩, space⟩
      split
      · exact legacyVertex
      · exact vertex
  | fragment =>
      simp only [intrinsicLines, List.forall_mem_append]
      refine ⟨⟨⟨⟨⟨⟨space, clip⟩, space⟩, saturate⟩, space⟩, ?_⟩, space⟩
      split
      · refine List.forall_mem_append.mpr ⟨legacyFragment, ?_⟩
        split
        · exact List.forall_mem_cons.mpr ⟨empty, lod _⟩
        · simp
      · exact fragment

theorem MadeOf.intrinsics {caps : Capabilities} {stage : Stage}
    (onLine : ∀ line ∈ intrinsicLines caps stage, '\n' ∉ line.content) :
    MadeOf (intrinsics caps stage) ((intrinsicLines caps stage).map IntrinsicLine.content) where
  isText := by
    rw [Dialect.intrinsics, String.toList_join, List.flatMap_map, List.flatMap_map]
    simp only [IntrinsicLine.toList_text]
  onLine := List.forall_mem_map.mpr onLine

end Intrinsics

end ShaderPipeline.Dialect
