import ShaderPipeline.OpenGL.Version
import ShaderPipeline.Proofs.Software.Headers

/-!
# Extensions that headers ask for

What a context accepts is found out once.  The preamble, the intrinsic functions and the
test for embedded targets each decide on their own what that means for a header, and they
have to agree: a header enables only extensions that the context has, and the functions
that sample at an explicit level of detail call what the enabled extension offers.
-/

namespace ShaderPipeline

namespace Dialect

open Text

section Preamble

/-- A line that enables nothing, by evaluation.  Characters are compared by their codes. -/
def isPlain (line : List Char) : Bool :=
  !isEnabling line && decide ('\n'.toNat ∉ line.map Char.toNat)

/-- A fixed line. -/
theorem asks_ofList {line : List Char} (plain : isPlain line.dropLast)
    (ended : line.getLast? = some '\n') : Asks (String.ofList line) [] := by
  simp only [isPlain, Bool.and_eq_true, Bool.not_eq_true', decide_eq_true_eq] at plain
  exact .ofLine (toList_ofList_line ended) (fun inside => plain.2 (List.mem_map_of_mem inside))
    plain.1

/-- A fixed line with a fixed word in it. -/
theorem asks_ofList_append {start word line : List Char}
    (plain : isPlain (start ++ word ++ line).dropLast)
    (ended : (start ++ word ++ line).getLast? = some '\n') :
    Asks (String.ofList start ++ String.ofList word ++ String.ofList line) [] := by
  have whole := asks_ofList plain ended
  rwa [String.ofList_append, String.ofList_append] at whole

/-- A fixed line that ends in a text of its own, such as a version. -/
theorem asks_ofList_text {directive : List Char} (plain : isPlain directive)
    (shut : ∀ rest, isEnabling (directive ++ rest) = false) {text : String}
    (onLine : '\n' ∉ text.toList) : Asks (String.ofList directive ++ text ++ "\n") [] := by
  simp only [isPlain, Bool.and_eq_true, decide_eq_true_eq] at plain
  refine Asks.ofLine ?_ ?_ (shut text.toList)
  · simp
  · rw [List.mem_append, not_or]
    exact ⟨fun inside => plain.2 (List.mem_map_of_mem inside), onLine⟩

/-- The extensions that the feature level of a target needs. -/
def featureExtensions (caps : Capabilities) : List String :=
  if caps.gpuShader5 then []
  else if caps.gpuShader4 then ["GL_EXT_gpu_shader4"]
  else []

/-- The extensions that a target needs for an explicit level of detail. -/
def lodExtensions (caps : Capabilities) : List String :=
  caps.lodExtension?.toList.map LodExtension.pragmaName

theorem asks_featureLines (caps : Capabilities) :
    Asks (featureLines caps) (featureExtensions caps) := by
  unfold featureLines featureExtensions
  split
  · exact asks_ofList (by decide) (by decide)
  · split
    · exact (asks_ofList (by decide) (by decide)).append (.enableLine (by decide))
    · exact asks_ofList (by decide) (by decide)

theorem asks_lodLine (caps : Capabilities) : Asks (lodLine caps) (lodExtensions caps) := by
  unfold lodLine lodExtensions
  cases caps.lodExtension? with
  | none => exact .empty
  | some extension => cases extension <;> exact .enableLine (by decide)

theorem asks_preamble {caps : Capabilities} (onLine : '\n' ∉ caps.versionText.toList) :
    Asks (preamble caps) (featureExtensions caps ++ lodExtensions caps) := by
  have version : Asks ("#version " ++ caps.versionText ++ "\n") [] :=
    asks_ofList_text (by decide) (fun _ => rfl) onLine
  have noFeed : '\n' ∉ (Nat.repr caps.version.toNat).toList := by
    intro inside
    cases isDigit_of_mem_repr inside
  have definition : Asks ("#define GLSL_VERSION " ++ Nat.repr caps.version.toNat ++ "\n") [] :=
    asks_ofList_text (by decide) (fun _ => rfl) noFeed
  have versions := version.append_pieces definition
  exact (versions.append (asks_featureLines caps)).append (asks_lodLine caps)

end Preamble

theorem asks_precisionTexts : ∀ text ∈ precisionTexts, Asks text [] := by
  simp only [precisionTexts, List.map_cons, List.forall_mem_append, List.forall_mem_cons]
  refine ⟨⟨?_, ?_, ?_, by simp⟩, ?_, ?_, ?_, ?_, ?_, ?_, ?_, ?_, ?_, ?_, by simp⟩
  · exact asks_ofList (by decide) (by decide)
  · exact asks_ofList (by decide) (by decide)
  · exact asks_ofList (by decide) (by decide)
  all_goals exact asks_ofList_append (by decide) (by decide)

theorem asks_precision (caps : Capabilities) (stage : Stage) : Asks (precision caps stage) [] :=
  Asks.joins.precision asks_precisionTexts caps stage

section Intrinsics

theorem plain_function (signature body : String) :
    isEnabling (IntrinsicLine.function signature body).content = false := by
  have isContent : (IntrinsicLine.function signature body).content =
      (signature.toList ++ " \x7b ".toList ++ body.toList ++ [' ']) ++ ['\x7d'] := by
    simp [IntrinsicLine.content]
  rw [isContent]
  exact isEnabling_concat (by decide) _

theorem plain_directive {text : List Char} (plain : isEnabling text = false) :
    isEnabling (IntrinsicLine.directive (String.ofList text)).content = false := by
  rwa [IntrinsicLine.content_directive]

theorem plain_empty : isEnabling IntrinsicLine.empty.content = false :=
  rfl

theorem plain_fixedLines : ∀ line ∈ fixedLines, isEnabling line.content = false := by
  simp only [fixedLines, saturateLines, clipLines, vertexSampling, legacyVertexSampling,
    fragmentSampling, legacyFragmentSampling, List.cons_append, List.nil_append,
    List.forall_mem_cons, List.not_mem_nil, false_imp_iff, implies_true, and_true]
  repeat' apply And.intro
  all_goals first
    | with_reducible exact plain_function _ _
    | exact plain_directive rfl
    | exact plain_empty

theorem plain_legacyLodSampling (extension : LodExtension) :
    ∀ line ∈ legacyLodSampling extension, isEnabling line.content = false := by
  simp only [legacyLodSampling, List.forall_mem_cons]
  exact ⟨plain_function _ _, plain_function _ _, by simp⟩

theorem madeOf_intrinsics (caps : Capabilities) (stage : Stage) :
    MadeOf (intrinsics caps stage) ((intrinsicLines caps stage).map IntrinsicLine.content) :=
  .intrinsics fun line member => (Software.quiet_intrinsicLines caps stage line member).noFeed

theorem plain_intrinsicLines (caps : Capabilities) (stage : Stage) :
    ∀ line ∈ intrinsicLines caps stage, isEnabling line.content = false :=
  forall_mem_intrinsicLines plain_empty plain_fixedLines plain_legacyLodSampling caps stage

theorem asks_intrinsics (caps : Capabilities) (stage : Stage) :
    Asks (intrinsics caps stage) [] := by
  refine ⟨_, madeOf_intrinsics caps stage, ?_⟩
  rw [List.map_nil, List.filter_eq_nil_iff, List.forall_mem_map]
  intro line member
  rw [plain_intrinsicLines caps stage line member]
  exact Bool.false_ne_true

end Intrinsics

/-- A header asks for what its target needs, and for nothing else. -/
theorem asks_header {caps : Capabilities} (onLine : '\n' ∉ caps.versionText.toList)
    (stage : Stage) :
    Asks (header caps stage) (featureExtensions caps ++ lodExtensions caps) := by
  have whole := ((asks_preamble onLine).append (asks_precision caps stage)).append
    (asks_intrinsics caps stage)
  rwa [List.append_nil, List.append_nil] at whole

section LevelOfDetail

/-- The functions that sample at an explicit level of detail, each with its definition for
the ending that an extension puts behind the names of its own functions. -/
def lodFunctions : List (String × (String → IntrinsicLine)) :=
  [("tex2Dlod", fun ending => .function "vec4 tex2Dlod(sampler2D s, vec4 uv)"
      ("return texture2DLod" ++ ending ++ "(s, uv.xy, uv.w);")),
    ("texCUBElod", fun ending => .function "vec4 texCUBElod(samplerCube s, vec4 uv)"
      ("return textureCubeLod" ++ ending ++ "(s, uv.xyz, uv.w);"))]

/-- The lines of a text in which a name stands. -/
def mentioning (name text : String) : List (List Char) :=
  (splitAt (· == '\n') text.toList).filter fun line => name.toList <:+: line

/-- What the names of these functions have in common. -/
def lodWord : List Char :=
  ['l', 'o', 'd']

/-- A line without a word, by evaluation.  Characters are compared by their codes. -/
def lacks (word line : List Char) : Bool :=
  decide (¬ word.map Char.toNat <:+: line.map Char.toNat)

theorem not_infix_of_lacks {word line : List Char} (checked : lacks word line) :
    ¬ word <:+: line := by
  rw [lacks, decide_eq_true_eq] at checked
  exact fun inside => checked (inside.map _)

theorem lacks_function {word signature body : List Char}
    (checked : lacks word (signature ++ " \x7b ".toList ++ body ++ " \x7d".toList)) :
    ¬ word <:+:
      (IntrinsicLine.function (String.ofList signature) (String.ofList body)).content := by
  rw [IntrinsicLine.content_function]
  exact not_infix_of_lacks checked

theorem lacks_function_pieces {word signature start middle last : List Char}
    (checked : lacks word
      (signature ++ " \x7b ".toList ++ (start ++ middle ++ last) ++ " \x7d".toList)) :
    ¬ word <:+: (IntrinsicLine.function (String.ofList signature)
      (String.ofList start ++ String.ofList middle ++ String.ofList last)).content := by
  rw [IntrinsicLine.content_function_pieces]
  exact not_infix_of_lacks checked

theorem lacks_directive {word text : List Char} (checked : lacks word text) :
    ¬ word <:+: (IntrinsicLine.directive (String.ofList text)).content := by
  rw [IntrinsicLine.content_directive]
  exact not_infix_of_lacks checked

theorem lodWord_notIn_fixed :
    ∀ line ∈ clipLines ++ saturateLines ++ legacyFragmentSampling,
      ¬ lodWord <:+: line.content := by
  simp only [saturateLines, clipLines, legacyFragmentSampling, List.cons_append, List.nil_append,
    List.forall_mem_cons, List.not_mem_nil, false_imp_iff, implies_true, and_true]
  repeat' apply And.intro
  all_goals first
    | exact lacks_function (by decide +kernel)
    | exact lacks_directive (by decide +kernel)
    | exact not_infix_of_lacks (by decide)

theorem infix_content {word : List Char} {signature : String} (inside : word <:+: signature.toList)
    (body : String) : word <:+: (IntrinsicLine.function signature body).content := by
  simp only [IntrinsicLine.content, List.append_assoc]
  exact inside.trans (List.prefix_append _ _).isInfix

section Filter

variable {word first second : List Char}

theorem filter_first (inFirst : word <:+: first) (notInSecond : ¬ word <:+: second) :
    [first, second].filter (fun line => word <:+: line) = [first] := by
  simp [inFirst, notInSecond]

theorem filter_second (notInFirst : ¬ word <:+: first) (inSecond : word <:+: second) :
    [first, second].filter (fun line => word <:+: line) = [second] := by
  simp [notInFirst, inSecond]

end Filter

/-- Among the lines for an extension, each function stands in its definition only. -/
theorem filter_legacyLodSampling (extension : LodExtension) :
    ∀ function ∈ lodFunctions,
      ((legacyLodSampling extension).map IntrinsicLine.content).filter
          (fun line => function.1.toList <:+: line) =
        [(function.2 extension.functionSuffix).content] := by
  have flat : ¬ "texCUBElod".toList <:+: (IntrinsicLine.function
      "vec4 tex2Dlod(sampler2D s, vec4 uv)"
      ("return texture2DLod" ++ extension.functionSuffix ++ "(s, uv.xy, uv.w);")).content := by
    cases extension <;> exact lacks_function_pieces (by decide +kernel)
  have cube : ¬ "tex2Dlod".toList <:+: (IntrinsicLine.function
      "vec4 texCUBElod(samplerCube s, vec4 uv)"
      ("return textureCubeLod" ++ extension.functionSuffix ++ "(s, uv.xyz, uv.w);")).content := by
    cases extension <;> exact lacks_function_pieces (by decide +kernel)
  simp only [lodFunctions, List.forall_mem_cons, legacyLodSampling, List.map_cons, List.map_nil]
  refine ⟨?_, ?_, by simp⟩
  · exact filter_first (infix_content (by decide) _) cube
  · exact filter_second flat (infix_content (by decide) _)

theorem lodWord_inside : ∀ function ∈ lodFunctions, lodWord <:+: function.1.toList := by
  simp only [lodFunctions, List.forall_mem_cons]
  exact ⟨by decide, by decide, by simp⟩

/-- The fragment stage of a legacy target defines the functions for the extension that its
header enables, and mentions them nowhere else. -/
theorem mentioning_intrinsics {caps : Capabilities} (legacy : caps.usesLegacyStorage = true)
    {function : String × (String → IntrinsicLine)} (member : function ∈ lodFunctions) :
    mentioning function.1 (intrinsics caps .fragment) =
      caps.lodExtension?.toList.map fun extension =>
        (function.2 extension.functionSuffix).content := by
  -- Every line but the definitions lacks the word that the names have in common.
  have silent : ∀ lines : List IntrinsicLine, (∀ line ∈ lines, ¬ lodWord <:+: line.content) →
      (lines.map IntrinsicLine.content).filter (fun line => function.1.toList <:+: line) = [] := by
    intro lines unmentioned
    rw [List.filter_eq_nil_iff, List.forall_mem_map]
    intro line inLines mentioned
    exact unmentioned line inLines
      ((lodWord_inside function member).trans (decide_eq_true_iff.mp mentioned))
  have fixed := lodWord_notIn_fixed
  simp only [List.forall_mem_append] at fixed
  have space := silent [.empty] (List.forall_mem_singleton.mpr (not_infix_of_lacks (by decide)))
  have rest : ([[]] : List (List Char)).filter (fun line => function.1.toList <:+: line) = [] :=
    space
  rw [mentioning, (madeOf_intrinsics caps .fragment).splitAt_eq, List.filter_append, rest,
    List.append_nil, intrinsicLines, if_pos legacy]
  simp only [List.map_append, List.filter_append, space, silent _ fixed.1.1, silent _ fixed.1.2,
    silent _ fixed.2, List.nil_append, List.append_nil]
  cases caps.lodExtension? with
  | none => rfl
  | some extension =>
      have isAppend : IntrinsicLine.empty :: legacyLodSampling extension =
          [.empty] ++ legacyLodSampling extension := rfl
      simp only [isAppend, List.map_append, List.filter_append, space,
        filter_legacyLodSampling extension function member]
      rfl

end LevelOfDetail

theorem pragmaName_notMem_featureExtensions (caps : Capabilities) (extension : LodExtension) :
    extension.pragmaName ∉ featureExtensions caps := by
  unfold featureExtensions
  split
  · simp
  · split
    · cases extension <;> decide
    · simp

/-- The header of a target enables the extension for an explicit level of detail that the
target has. -/
theorem enables_pragmaName_iff {caps : Capabilities} (onLine : '\n' ∉ caps.versionText.toList)
    (stage : Stage) (extension : LodExtension) :
    Enables (header caps stage) extension.pragmaName ↔ caps.lodExtension? = some extension := by
  have injective : ∀ other : LodExtension, other.pragmaName = extension.pragmaName →
      other = extension := by
    cases extension <;> rintro (_ | _) <;> decide
  rw [(asks_header onLine stage).enables_iff, List.mem_append,
    or_iff_right (pragmaName_notMem_featureExtensions caps extension), lodExtensions, List.mem_map]
  constructor
  · rintro ⟨other, isOther, same⟩
    rw [injective other same] at isOther
    simpa using isOther
  · exact fun isExtension => ⟨extension, by simp [isExtension], rfl⟩

end Dialect

namespace OpenGL

open Text Dialect

/-- The number of the language is not computed, or it fits a machine word. -/
def Version.Representable (version : Version) : Prop :=
  version.embedded = true ∨ version.major = 2 ∨ version.major = 3 ∧ version.minor ≤ 2 ∨
    version.major.toNat * 100 + version.minor.toNat * 10 < UInt32.size

/-- The contexts that an extension for an explicit level of detail is made for.  An embedded
context of version 3 can do without. -/
def Version.Wants (version : Version) : LodExtension → Prop
  | .arb => version.embedded = false
  | .ext => version.embedded = true ∧ version.major < 3

section Capabilities

variable {version : Version} {has : String → Bool}

theorem feed_notMem_languageText (version : Version) : '\n' ∉ version.languageText.toList := by
  unfold Version.languageText
  split
  · split <;> decide
  · intro inside
    cases isDigit_of_mem_repr inside

theorem versionText_capabilitiesFor :
    (capabilitiesFor version has).versionText = version.languageText := by
  unfold capabilitiesFor
  split <;> rfl

theorem onLine_versionText : '\n' ∉ (capabilitiesFor version has).versionText.toList := by
  rw [versionText_capabilitiesFor]
  exact feed_notMem_languageText version

theorem version_capabilitiesFor : (capabilitiesFor version has).version = version.language := by
  unfold capabilitiesFor
  split <;> rfl

/-- Each flag for an explicit level of detail belongs to one kind of context. -/
theorem embedded_of_lod :
    ((capabilitiesFor version has).textureLod = true →
      version.embedded = false ∧ has "GL_ARB_shader_texture_lod" = true) ∧
    ((capabilitiesFor version has).textureLodExt = true →
      version.embedded = true ∧ has "GL_EXT_shader_texture_lod" = true) := by
  unfold capabilitiesFor
  cases version.embedded <;> simp

theorem has_of_mem_featureExtensions {extension : String}
    (member : extension ∈ featureExtensions (capabilitiesFor version has)) :
    has extension = true := by
  unfold featureExtensions at member
  split at member
  · cases member
  · split at member
    · next hasFeature =>
        rw [List.mem_singleton.mp member]
        revert hasFeature
        unfold capabilitiesFor
        cases version.embedded <;> simp
    · cases member

theorem has_of_lodExtension? {extension : LodExtension}
    (isExtension : (capabilitiesFor version has).lodExtension? = some extension) :
    has extension.pragmaName = true := by
  unfold Capabilities.lodExtension? at isExtension
  split at isExtension
  · split at isExtension
    · next flag =>
        cases isExtension
        exact (embedded_of_lod.2 flag).2
    · cases isExtension
  · split at isExtension
    · next flag =>
        cases isExtension
        exact (embedded_of_lod.1 flag).2
    · cases isExtension

/-- A header enables only what the context has. -/
theorem has_of_enables {stage : Stage} {extension : String}
    (enables : Enables (header (capabilitiesFor version has) stage) extension) :
    has extension = true := by
  rw [(asks_header onLine_versionText stage).enables_iff, List.mem_append] at enables
  rcases enables with isFeature | isLod
  · exact has_of_mem_featureExtensions isFeature
  · rw [lodExtensions, List.mem_map] at isLod
    obtain ⟨lod, isLod, rfl⟩ := isLod
    exact has_of_lodExtension? (by simpa using isLod)

end Capabilities

section Embedded

variable {version : Version}

theorem mem_of_mem_trimEnd {text : List Char} {character : Char}
    (member : character ∈ trimEnd text) : character ∈ text := by
  rw [trimEnd, List.mem_reverse] at member
  exact List.mem_reverse.mp ((List.dropWhile_sublist _).subset member)

/-- A number is no version text of an embedded target. -/
theorem not_suffix_repr (number : Nat) :
    " es".toList.isSuffixOf (trimEnd (Nat.repr number).toList) = false := by
  rw [← Bool.not_eq_true, List.isSuffixOf_iff_suffix]
  intro ends
  have member : 's' ∈ trimEnd (Nat.repr number).toList := ends.subset (by decide)
  cases isDigit_of_mem_repr (mem_of_mem_trimEnd member)

theorem eq_of_le_two {number : UInt32} (small : number ≤ 2) :
    number = 0 ∨ number = 1 ∨ number = 2 := by
  simp only [UInt32.le_iff_toNat_le, ← UInt32.toNat_inj, UInt32.reduceToNat] at small ⊢
  omega

theorem toNat_computed {major minor : UInt32}
    (fits : major.toNat * 100 + minor.toNat * 10 < UInt32.size) :
    (major * 100 + minor * 10).toNat = major.toNat * 100 + minor.toNat * 10 := by
  simp only [UInt32.toNat_add, UInt32.toNat_mul, UInt32.reduceToNat, UInt32.size] at fits ⊢
  omega

theorem desktopLanguage_ne (desktop : version.embedded = false) (known : 2 ≤ version.major)
    (representable : version.Representable) : version.desktopLanguage ≠ 100 := by
  unfold Version.desktopLanguage
  split
  · split <;> decide
  · split
    · decide
    · split
      · decide
      · split
        · decide
        · next notTwo notZero notOne notSecond =>
          -- What is left has no number of its own, so the number is computed and fits.
          have fits : version.major.toNat * 100 + version.minor.toNat * 10 < UInt32.size := by
            rcases representable with embedded | isTwo | ⟨isThree, small⟩ | fits
            · rw [desktop] at embedded
              cases embedded
            · exact absurd isTwo notTwo
            · rcases eq_of_le_two small with isZero | isOne | isSecond
              · exact absurd ⟨isThree, isZero⟩ notZero
              · exact absurd ⟨isThree, isOne⟩ notOne
              · exact absurd ⟨isThree, isSecond⟩ notSecond
            · exact fits
          intro same
          have number := congrArg UInt32.toNat same
          have large := UInt32.le_iff_toNat_le.mp known
          rw [toNat_computed fits] at number
          simp only [UInt32.reduceToNat] at number large
          omega

theorem isEmbedded_capabilitiesFor (known : version.embedded = true ∨ 2 ≤ version.major)
    (representable : version.Representable) (has : String → Bool) :
    (capabilitiesFor version has).isEmbedded = version.embedded := by
  rw [Capabilities.isEmbedded, version_capabilitiesFor, versionText_capabilitiesFor]
  unfold Version.language Version.languageText
  cases isEmbedded : version.embedded with
  | true =>
      by_cases modern : 3 ≤ version.major
      · simp only [if_pos, modern]
        decide
      · simp only [if_pos, if_neg modern]
        decide
  | false =>
      have other := desktopLanguage_ne isEmbedded (known.resolve_left (by simp [isEmbedded]))
        representable
      simp only [Bool.false_eq_true, if_false, not_suffix_repr, Bool.or_false]
      exact beq_eq_false_iff_ne.mpr other

theorem language_lt_iff (isEmbedded : version.embedded = true) :
    version.language < 300 ↔ version.major < 3 := by
  rw [Version.language, if_pos isEmbedded, ← UInt32.not_le (a := 3)]
  split
  · next modern => simp [modern]
  · next early => simp [early]

/-- A context gets the extension that is made for it, if it is there. -/
theorem lodExtension?_capabilitiesFor (known : version.embedded = true ∨ 2 ≤ version.major)
    (representable : version.Representable) (has : String → Bool) (extension : LodExtension) :
    (capabilitiesFor version has).lodExtension? = some extension ↔
      version.Wants extension ∧ has extension.pragmaName = true := by
  rw [Capabilities.lodExtension?, isEmbedded_capabilitiesFor known representable]
  unfold capabilitiesFor
  cases isEmbedded : version.embedded with
  | true =>
      cases extension <;>
        simp [Version.Wants, LodExtension.pragmaName, isEmbedded, language_lt_iff isEmbedded]
  | false =>
      cases extension <;> simp [Version.Wants, LodExtension.pragmaName, isEmbedded]

end Embedded

/-- A header asks only for what the context has.  Every extension that it enables is there;
on a legacy target the fragment stage defines the functions for an explicit level of detail
exactly if the header enables their extension, and then with its ending; at most one of the
two flags is set; and a context is taken for an embedded one if it is, so that its header
enables the extension that is made for such a context as soon as it is there. -/
theorem headers_fit_context (version : Version) (has : String → Bool) :
    (∀ stage extension, Enables (header (capabilitiesFor version has) stage) extension →
      has extension = true) ∧
    ((capabilitiesFor version has).usesLegacyStorage = true →
      ∀ function ∈ lodFunctions,
        ((∀ extension : LodExtension,
            ¬ Enables (header (capabilitiesFor version has) .fragment) extension.pragmaName) →
          mentioning function.1 (intrinsics (capabilitiesFor version has) .fragment) = []) ∧
        ∀ extension : LodExtension,
          Enables (header (capabilitiesFor version has) .fragment) extension.pragmaName →
          mentioning function.1 (intrinsics (capabilitiesFor version has) .fragment) =
            [(function.2 extension.functionSuffix).content]) ∧
    ¬ ((capabilitiesFor version has).textureLod = true ∧
      (capabilitiesFor version has).textureLodExt = true) ∧
    (version.embedded = true ∨ 2 ≤ version.major → version.Representable →
      (capabilitiesFor version has).isEmbedded = version.embedded ∧
      ∀ stage, ∀ extension : LodExtension,
        Enables (header (capabilitiesFor version has) stage) extension.pragmaName ↔
          version.Wants extension ∧ has extension.pragmaName = true) := by
  refine ⟨fun _ _ enables => has_of_enables enables, ?_, ?_, ?_⟩
  · intro legacy function member
    simp only [enables_pragmaName_iff onLine_versionText, mentioning_intrinsics legacy member]
    constructor
    · intro noExtension
      rw [Option.eq_none_iff_forall_ne_some.mpr noExtension]
      rfl
    · intro extension isExtension
      rw [isExtension]
      rfl
  · rintro ⟨lod, lodExt⟩
    have desktop := (embedded_of_lod.1 lod).1
    rw [(embedded_of_lod.2 lodExt).1] at desktop
    cases desktop
  · intro known representable
    refine ⟨isEmbedded_capabilitiesFor known representable has, fun stage extension => ?_⟩
    rw [enables_pragmaName_iff onLine_versionText,
      lodExtension?_capabilitiesFor known representable]

end OpenGL

end ShaderPipeline
