import ShaderPipeline.Proofs.Dialect.Passages
import ShaderPipeline.Proofs.Dialect.Reading

/-!
# What a recast stage shows of its target

Reading a stage does not depend on the target.  Writing it depends on the language
version alone, and of the version it shows no more than a band: there are four of
them, and one short source tells them all apart.
-/

namespace ShaderPipeline.Dialect

/-- Versions for which every stage has the same body. -/
inductive Band where
  /-- Legacy storage words and built-in outputs. -/
  | legacy
  /-- Locations are bound by the driver. -/
  | bound
  /-- Locations are written. -/
  | located
  /-- No built-in output is left. -/
  | plain
deriving Repr, DecidableEq

namespace Band

def of (version : UInt32) : Band :=
  if version < 130 then .legacy
  else if version ≤ 150 then .bound
  else if version < 999 then .located
  else .plain

/-- Versions are of one band exactly if no threshold lies between them. -/
theorem of_eq_of_iff (first second : UInt32) :
    of first = of second ↔
      (first < 130 ↔ second < 130) ∧ (first ≤ 150 ↔ second ≤ 150) ∧
        (first < 999 ↔ second < 999) := by
  unfold of
  simp only [UInt32.lt_iff_toNat_lt, UInt32.le_iff_toNat_le, UInt32.reduceToNat]
  -- Different bands have a threshold between them, which decides the right side.
  split_ifs <;> simp only [true_iff, false_iff] <;> omega

end Band

/-- A built-in output ends at one of two versions. -/
theorem removedIn_of_at? {location : UInt32} {output : LegacyOutput}
    (found : LegacyOutput.at? location = some output) :
    output.removedIn = 130 ∨ output.removedIn = 999 := by
  have known : ∀ output ∈ LegacyOutput.all, output.removedIn = 130 ∨ output.removedIn = 999 := by
    decide
  exact known output (List.mem_of_getElem? found)

section SameBand

variable {first second : Capabilities} (sameBand : Band.of first.version = Band.of second.version)

include sameBand

theorem substitute?_of_band (location : UInt32) :
    LegacyOutput.substitute? location first.version =
      LegacyOutput.substitute? location second.version := by
  obtain ⟨storage, -, plain⟩ := (Band.of_eq_of_iff _ _).mp sameBand
  unfold LegacyOutput.substitute?
  cases found : LegacyOutput.at? location with
  | none => rfl
  | some output =>
      rcases removedIn_of_at? found with removed | removed
      · simp only [Option.bind_some, removed, storage]
      · simp only [Option.bind_some, removed, plain]

theorem tokenText_of_band (stage : Stage) (recorded : List InterfaceSlot) (token : Token) :
    tokenText first stage recorded token = tokenText second stage recorded token := by
  simp only [tokenText, legacyOutput?, substitute?_of_band sameBand]

theorem declarationText_of_band (stage : Stage) (direction : Direction) (slot : InterfaceSlot) :
    declarationText first stage direction slot = declarationText second stage direction slot := by
  obtain ⟨storage, bound, -⟩ := (Band.of_eq_of_iff _ _).mp sameBand
  have qualifier : storageQualifier first stage direction slot =
      storageQualifier second stage direction slot := by
    rw [storageQualifier_eq, storageQualifier_eq]
    cases stage <;> cases direction <;> simp only [recordedWords, forwardedWords, storage, bound]
  rw [declarationText, declarationText, qualifier]

theorem pieces_of_band (stage : Stage) (recorded : List InterfaceSlot) (span : Span) :
    span.pieces first stage recorded = span.pieces second stage recorded := by
  cases span with
  | word token => simp only [Span.pieces, tokenText_of_band sameBand]
  | declaration read =>
      have sameText : declarationText first stage read.direction =
          declarationText second stage read.direction :=
        funext (declarationText_of_band sameBand stage read.direction)
      simp only [Span.pieces, sameText]

theorem writeSpans_of_band (stage : Stage) (recorded : List InterfaceSlot) (read : List Span) :
    writeSpans first stage recorded read = writeSpans second stage recorded read := by
  induction read generalizing recorded with
  | nil => rfl
  | cons span later ih => rw [writeSpans, writeSpans, pieces_of_band sameBand, ih]

end SameBand

/-- A source that every band writes in its own way. -/
def depthSource : String := "out float d : FRAG_DEPTH; d"

def Band.depthBody : Band → String
  | .legacy => "float d; gl_FragDepth"
  | .bound => "out float d; gl_FragDepth"
  | .located => "layout (location = 5) out float d; gl_FragDepth"
  | .plain => "layout (location = 5) out float d; d"

theorem Band.depthBody_injective {first second : Band}
    (same : first.depthBody = second.depthBody) : first = second := by
  cases first <;> cases second <;> simp_all [depthBody]

/-- The body of the source, put together from its storage words and its last word. -/
theorem depthBody_of (version : UInt32) :
    recordedWords version (some 5) .fragment ++ "float d;" ++ " " ++
        (if version < 999 then "gl_FragDepth" else "d") =
      (Band.of version).depthBody := by
  dsimp only [recordedWords, Band.of]
  by_cases legacy : version < 130
  · have early : version < 999 := UInt32.lt_trans legacy (by decide)
    simp only [if_pos legacy, if_pos early]
    rfl
  · by_cases bound : version ≤ 150
    · have early : version < 999 := UInt32.lt_of_le_of_lt bound (by decide)
      simp only [if_neg legacy, if_pos bound, if_pos early]
      rfl
    · by_cases early : version < 999
      · simp only [if_neg legacy, if_neg bound, if_pos early]
        rfl
      · simp only [if_neg legacy, if_neg bound, if_neg early]
        rfl

theorem writeSpans_depthSource (caps : Capabilities) :
    String.join (writeSpans caps .fragment [] (spansOf .fragment depthSource)) =
      (Band.of caps.version).depthBody := by
  let slot : InterfaceSlot := ⟨"float", "d", some 5, ""⟩
  let word : Token := ⟨"d", .name, true, 0, 0, 1, 0, 0⟩
  have isRead : spansOf .fragment depthSource =
      [.declaration ⟨⟨"out", .name, false, 0, 0, 1, 0, 0⟩, .output,
        (Token.scan depthSource).tail.take 5, some slot, none⟩, .word word] := by
    decide +kernel
  have isDeclared : declarationText caps .fragment .output slot =
      recordedWords caps.version (some 5) .fragment ++ "float d;" := by
    rw [declarationText, storageQualifier_eq]
    simp only [slot, Stage.records, if_true, String.append_assoc]
    rfl
  have isWord : tokenText caps .fragment [slot] word =
      if caps.version < 999 then "gl_FragDepth" else "d" := by
    have isOutput : legacyOutput? caps [slot] "d" =
        if caps.version < 999 then some "gl_FragDepth" else none := by
      simp [legacyOutput?, slot, InterfaceSlot.isArray, LegacyOutput.substitute?,
        LegacyOutput.at?, LegacyOutput.all]
    rw [tokenText, if_pos ⟨rfl, rfl⟩, isOutput]
    split <;> rfl
  rw [← depthBody_of, ← isDeclared, ← isWord, isRead]
  simp [writeSpans, Span.pieces, Span.recorded?, Token.separator, Stage.records, slot, word,
    String.append_assoc]

/-- Slots and diagnostics are the same for every target.  Targets have the same body for every
source exactly if their versions are of one band. -/
theorem recast_shows_band (first second : Capabilities) :
    (∀ stage source,
      (recastStage first stage source).slots = (recastStage second stage source).slots ∧
      (recastStage first stage source).diagnostics =
        (recastStage second stage source).diagnostics) ∧
    (Band.of first.version = Band.of second.version ↔
      ∀ stage source, ∃ body,
        (recastStage first stage source).text = header first stage ++ body ∧
        (recastStage second stage source).text = header second stage ++ body) := by
  constructor
  · intro stage source
    simp only [recastStage_eq_writeSpans, and_self]
  · constructor
    · intro sameBand stage source
      refine ⟨String.join (writeSpans first stage [] (spansOf stage source)), ?_, ?_⟩
      · rw [recastStage_eq_writeSpans]
      · rw [recastStage_eq_writeSpans, writeSpans_of_band sameBand]
    · intro sameBodies
      obtain ⟨body, isFirst, isSecond⟩ := sameBodies .fragment depthSource
      rw [recastStage_eq_writeSpans] at isFirst isSecond
      dsimp only at isFirst isSecond
      rw [writeSpans_depthSource, String.append_right_inj] at isFirst isSecond
      exact Band.depthBody_injective (isFirst.trans isSecond.symm)

end ShaderPipeline.Dialect
