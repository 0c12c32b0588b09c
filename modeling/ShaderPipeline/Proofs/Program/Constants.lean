import ShaderPipeline.Proofs.Program.Making
import ShaderPipeline.Proofs.Program.UniformTable

/-!
# Setting constants

A constant is uploaded to the bound program, or nothing happens at all.  The type of
the uniform alone decides how the buffer is read, and its scalars go to the device bit
for bit.  How many of them are needed is computed in 64 bits: a count that is too large for
that is not refused, as a buffer is that is too short, but stops the program.
-/

namespace ShaderPipeline

open Action Software Software.Device Dialect Reflection

namespace Binary32

@[simp]
theorem bits_ofInt32 (word : Int32) : (ofInt32 word).bits = word.toUInt32 :=
  rfl

@[simp]
theorem toUInt32_toInt32 (number : Binary32) : number.toInt32.toUInt32 = number.bits :=
  UInt32.toUInt32_toInt32 number.bits

end Binary32

def ConstantData.bits : ConstantData → List UInt32
  | .floats data => data.map (·.bits)
  | .ints data => data.map (·.toUInt32)

namespace UniformValue

def bits : UniformValue → List UInt32
  | .float _ data => data.map (·.bits)
  | .int _ data => data.map (·.toUInt32)
  | .matrix _ _ data => data.map (·.bits)

def shape : UniformValue → UploadShape
  | .float components _ => .float components
  | .int components _ => .int components
  | .matrix dimension _ _ => .matrix dimension

/-- The device is told whether to transpose a matrix, and only that. -/
def transpose? : UniformValue → Option Bool
  | .matrix _ transpose _ => some transpose
  | _ => none

end UniformValue

namespace ConstantData

theorem map_bits_toFloats (data : ConstantData) :
    data.toFloats.map (·.bits) = data.bits := by
  cases data <;> simp [toFloats, bits]

theorem map_toUInt32_toInts (data : ConstantData) :
    data.toInts.map (·.toUInt32) = data.bits := by
  cases data <;> simp [toInts, bits]

end ConstantData

namespace UploadShape

def isMatrix : UploadShape → Bool
  | .matrix _ => true
  | _ => false

/-- The value has this shape and these bits, and the flag reaches it if it is a matrix. -/
structure Carries (shape : UploadShape) (bits : List UInt32) (rowMajor : Bool)
    (value : UniformValue) : Prop where
  sameShape : value.shape = shape
  sameBits : value.bits = bits
  transpose : value.transpose? = if shape.isMatrix then some rowMajor else none

theorem carries_value (shape : UploadShape) (data : ConstantData) (length : Nat)
    (rowMajor : Bool) :
    shape.Carries (data.bits.take length) rowMajor (shape.value data length rowMajor) := by
  cases shape with
  | float components =>
      refine ⟨rfl, ?_, rfl⟩
      rw [← data.map_bits_toFloats, ← List.map_take]
      rfl
  | int components =>
      refine ⟨rfl, ?_, rfl⟩
      rw [← data.map_toUInt32_toInts, ← List.map_take]
      rfl
  | matrix dimension =>
      refine ⟨rfl, ?_, rfl⟩
      rw [← data.map_bits_toFloats, ← List.map_take]
      rfl

/-- Every element has between one and sixteen scalars. -/
theorem width_of_ofType? {type : UniformType} {shape : UploadShape}
    (isShape : ofType? type = some shape) : 0 < shape.width ∧ shape.width ≤ 16 := by
  cases type <;> cases isShape <;> decide

/-- The number of scalars of `count` elements, at least one. -/
def scalars (shape : UploadShape) (count : Nat) : Nat :=
  shape.width * max count 1

end UploadShape

namespace ConstantSlot

theorem isValid_iff {slot : ConstantSlot} : slot.isValid = true ↔ 0 ≤ slot.number.toInt := by
  rw [isValid, decide_eq_true_iff, Int32.le_iff_toInt_le]
  rfl

theorem index?_eq_some_iff {slot : ConstantSlot} {index : Nat} :
    slot.index? = some index ↔ 0 ≤ slot.number.toInt ∧ slot.number.toInt.toNat = index := by
  rw [index?, ← isValid_iff]
  split
  · next valid => simp [valid]
  · next negative => simp [negative]

/-- A slot that is not negative is the place that it was made from, as far as 32 bits count. -/
theorem toNat_ofNat {position : Nat} (counted : position < UInt32.size)
    (notNegative : 0 ≤ (Int32.ofNat position).toInt) :
    (Int32.ofNat position).toInt.toNat = position := by
  have isSize : Int32.size = 4294967296 := rfl
  change position < 4294967296 at counted
  rw [Int32.toInt_ofNat', Int.bmod_def, isSize] at notNegative ⊢
  split at notNegative <;> omega

end ConstantSlot

theorem Reflection.uniform?_eq_some_iff {table : Reflection} {slot : ConstantSlot}
    {uniform : UniformEntry} :
    table.uniform? slot = some uniform ↔
      0 ≤ slot.number.toInt ∧ table.uniforms[slot.number.toInt.toNat]? = some uniform := by
  simp only [uniform?, Option.bind_eq_some_iff, ConstantSlot.index?_eq_some_iff]
  constructor
  · rintro ⟨index, ⟨notNegative, rfl⟩, inRange⟩
    exact ⟨notNegative, inRange⟩
  · rintro ⟨notNegative, inRange⟩
    exact ⟨_, ⟨notNegative, rfl⟩, inRange⟩

theorem Software.Device.uniforms_reflectionOf (held : List (Stage × String)) :
    (reflectionOf held).uniforms =
      SortedNames.sort UniformEntry.name (uniformEntries ⟨0⟩ (bare held)) := by
  rw [reflectionOf, (run_build ⟨0⟩ _).1]
  rfl

namespace Session

/-- The session once its device has recorded an upload and holds the value. -/
def recording (session : Session Device) (upload : Upload) : Session Device :=
  { session with
    device :=
      { session.device with
        programs := session.device.programs.adjust upload.program fun object =>
          { object with values := object.values.insert upload.location upload.value }
        uploads := session.device.uploads ++ [upload] } }

/-- The slot is that of a uniform of the bound program, which is uploaded in this shape. -/
structure Targets (session : Session Device) (slot : ConstantSlot) (program : LinkedProgram)
    (uniform : UniformEntry) (shape : UploadShape) : Prop where
  bound : session.boundProgram? = some program
  notNegative : 0 ≤ slot.number.toInt
  inRange : program.reflection.uniforms[slot.number.toInt.toNat]? = some uniform
  uploadable : UploadShape.ofType? uniform.type = some shape

variable {session : Session Device} {slot : ConstantSlot} {program : LinkedProgram}
  {uniform : UniformEntry} {shape : UploadShape}

theorem Targets.unique {other : LinkedProgram} {otherUniform : UniformEntry}
    {otherShape : UploadShape} (targets : Targets session slot program uniform shape)
    (others : Targets session slot other otherUniform otherShape) :
    program = other ∧ uniform = otherUniform ∧ shape = otherShape := by
  obtain rfl := Option.some.inj (targets.bound.symm.trans others.bound)
  obtain rfl := Option.some.inj (targets.inRange.symm.trans others.inRange)
  exact ⟨rfl, rfl, Option.some.inj (targets.uploadable.symm.trans others.uploadable)⟩

theorem recording_eq (coherent : session.Coherent)
    (isBound : session.boundProgram? = some program) (location : UniformLocation)
    (value : UniformValue) :
    ((onDevice (ShaderDevice.setUniform location value)).run session).state =
      session.recording ⟨program.object, location, value⟩ := by
  -- The device knows only its current program, which is the bound one.
  have isCurrent : session.device.current = some program.object := by
    rw [coherent.current, isBound]
    rfl
  change { session with device := ((setUniform location value).run session.device).state } = _
  rw [setUniform_state isCurrent]
  rfl

theorem run_setConstant (targets : Targets session slot program uniform shape)
    (data : ConstantData) (count : UInt64) (rowMajor : Bool) :
    (setConstant slot data count rowMajor).run session =
      (onDevice (match Word.fit64 (shape.scalars count.toNat) with
        | .error reason => return .error reason
        | .ok needed => do
            uniform.uploadFront shape data needed.toNat rowMajor
            return .ok ())).run session := by
  obtain ⟨isBound, notNegative, inRange, uploadable⟩ := targets
  have isUniform := uniform?_eq_some_iff.mpr ⟨notNegative, inRange⟩
  unfold setConstant
  rw [if_pos (ConstantSlot.isValid_iff.mpr notNegative), run_get_bind, isBound]
  simp only [isUniform, UniformEntry.upload, uploadable]
  rfl

theorem setConstant_of_fits (targets : Targets session slot program uniform shape)
    (coherent : session.Coherent) (data : ConstantData) {count : UInt64} (rowMajor : Bool)
    (fits : shape.scalars count.toNat < UInt64.size) :
    let done := (setConstant slot data count rowMajor).run session
    done.value = .ok () ∧
      done.state = if data.length < shape.scalars count.toNat then session
        else session.recording ⟨program.object, uniform.location,
          shape.value data (shape.scalars count.toNat) rowMajor⟩ := by
  rw [run_setConstant targets, Word.fit64_of_lt fits]
  simp only [UInt64.toNat_ofNat_of_lt' fits]
  refine ⟨rfl, ?_⟩
  unfold UniformEntry.uploadFront
  split
  · rfl
  · exact recording_eq coherent targets.bound _ _

theorem setConstant_of_overflow (targets : Targets session slot program uniform shape)
    (data : ConstantData) {count : UInt64} (rowMajor : Bool)
    (tooMany : UInt64.size ≤ shape.scalars count.toNat) :
    (setConstant slot data count rowMajor).run session = ⟨.error .overflow, session, []⟩ := by
  rw [run_setConstant targets, Word.fit64_of_le tooMany]
  rfl

theorem setConstant_of_not_targets
    (noTarget : ∀ program uniform shape, ¬ Targets session slot program uniform shape)
    (data : ConstantData) (count : UInt64) (rowMajor : Bool) :
    let done := (setConstant slot data count rowMajor).run session
    done.value = .ok () ∧ done.state = session := by
  unfold setConstant
  split
  · rw [run_get_bind]
    cases isBound : session.boundProgram? with
    | none => exact ⟨rfl, rfl⟩
    | some program =>
        simp only
        cases isUniform : program.reflection.uniform? slot with
        | none => exact ⟨rfl, rfl⟩
        | some uniform =>
            simp only [UniformEntry.upload]
            cases uploadable : UploadShape.ofType? uniform.type with
            | none => exact ⟨rfl, rfl⟩
            | some shape =>
                obtain ⟨notNegative, inRange⟩ := uniform?_eq_some_iff.mp isUniform
                exact absurd ⟨isBound, notNegative, inRange, uploadable⟩
                  (noTarget program uniform shape)
  · exact ⟨rfl, rfl⟩

theorem Coherent.find?_recording (coherent : session.Coherent)
    (isBound : session.boundProgram? = some program) (location : UniformLocation)
    (value : UniformValue) :
    ((session.recording ⟨program.object, location, value⟩).device.programs.find?
      program.object).bind (·.values.find? location) = some value := by
  obtain ⟨handle, -, live⟩ := Option.bind_eq_some_iff.mp isBound
  obtain ⟨object, isObject⟩ := coherent.exists_object live
  simp [recording, Registry.find?_adjust, isObject, Registry.find?_insert]

/-- A constant is uploaded to the bound program exactly if the slot is that of a uniform that
takes uploads and the buffer has the scalars of all elements.  Then these are what is uploaded,
bit for bit, and nothing else changes.  A count that lets the number of these scalars overflow
stops the program; otherwise nothing happens. -/
theorem setConstant_uploads_front (reachable : session.Reachable) (slot : ConstantSlot)
    (data : ConstantData) (count : UInt64) (rowMajor : Bool) :
    let done := (setConstant slot data count rowMajor).run session
    (∃ program uniform shape value, Targets session slot program uniform shape ∧
        shape.scalars count.toNat ≤ data.length ∧ shape.scalars count.toNat < UInt64.size ∧
        shape.Carries (data.bits.take (shape.scalars count.toNat)) rowMajor value ∧
        done.value = .ok () ∧
        done.state = session.recording ⟨program.object, uniform.location, value⟩ ∧
        (done.state.device.programs.find? program.object).bind
          (·.values.find? uniform.location) = some value) ∨
      (∃ program uniform shape, Targets session slot program uniform shape ∧
        UInt64.size ≤ shape.scalars count.toNat ∧
        done.value = .error .overflow ∧ done.state = session) ∨
      (∀ program uniform shape, Targets session slot program uniform shape →
        data.length < shape.scalars count.toNat ∧ shape.scalars count.toNat < UInt64.size) ∧
        done.value = .ok () ∧ done.state = session := by
  intro done
  have coherent := reachable.coherent
  by_cases hasTarget : ∃ program uniform shape, Targets session slot program uniform shape
  · obtain ⟨program, uniform, shape, targets⟩ := hasTarget
    by_cases fits : shape.scalars count.toNat < UInt64.size
    · obtain ⟨isValue, isState⟩ := setConstant_of_fits targets coherent data rowMajor fits
      by_cases short : data.length < shape.scalars count.toNat
      · rw [if_pos short] at isState
        refine Or.inr (Or.inr ⟨fun other otherUniform otherShape others => ?_, isValue, isState⟩)
        obtain ⟨rfl, rfl, rfl⟩ := targets.unique others
        exact ⟨short, fits⟩
      · rw [if_neg short] at isState
        refine Or.inl ⟨program, uniform, shape, _, targets, Nat.le_of_not_lt short, fits,
          shape.carries_value data _ rowMajor, isValue, isState, ?_⟩
        change (((setConstant slot data count rowMajor).run session).state.device.programs.find?
          _).bind _ = _
        rw [isState]
        exact coherent.find?_recording targets.bound _ _
    · have tooMany := Nat.le_of_not_lt fits
      have stops := setConstant_of_overflow targets data rowMajor tooMany
      exact Or.inr (Or.inl ⟨program, uniform, shape, targets, tooMany,
        congrArg Outcome.value stops, congrArg Outcome.state stops⟩)
  · have noTarget : ∀ program uniform shape, ¬ Targets session slot program uniform shape :=
      fun program uniform shape targets => hasTarget ⟨program, uniform, shape, targets⟩
    exact Or.inr (Or.inr ⟨fun program uniform shape targets =>
      absurd targets (noTarget program uniform shape),
      setConstant_of_not_targets noTarget data count rowMajor⟩)

section Glow

theorem boundProgram?_bind {handle : ProgramHandle}
    (live : session.program? handle = some program) :
    ((bind (some handle)).run session).state.boundProgram? = some program := by
  refine bind_elim (some handle) session fun value final ends => ?_
  generalize isHandle : some handle = asked at ends
  cases ends with
  | same =>
      rw [boundProgram?, ← isHandle]
      exact live
  | unbound wasBound => cases isHandle
  | bound other found =>
      cases isHandle
      exact live
  | stale other notLive =>
      cases isHandle
      cases notLive.symm.trans live

/-- A session without a cache. -/
def glowStart : Session Device :=
  start (fresh .gl33 1 false) {} { enabled := false }

def glowSource : Option String :=
  some "uniform vec4 tint;"

def glowText : String :=
  (recastStage .gl33 .vertex "uniform vec4 tint;").text

/-- The session in which a program with one vector is bound. -/
def glowSession : Session Device :=
  glowStart.after [.request (.create "glow" glowSource none), .request (.bind (some ⟨0, 0⟩))]

def glowProgram : LinkedProgram :=
  recordOf "glow" (glowStart.recast glowSource none) ⟨1⟩ false [(.vertex, glowText)]

theorem reads_glowText : errorDirective? glowText = none ∧
    declaredUniforms glowText = [⟨"tint", .floatVec4, 1⟩] := by
  rw [glowText, errorDirective?, declaredUniforms, toList_recastStage]
  decide +kernel

theorem madeFrom_glow :
    MadeFrom "glow" glowSource none glowStart ⟨1⟩ false [(.vertex, glowText)] := by
  have stage : HasStage glowSource none := by decide +kernel
  have makes : glowStart.objectAnswer = .ok ⟨1⟩ := rfl
  have isStages : (glowStart.recast glowSource none).stages = [(.vertex, glowText)] := rfl
  have sound : fault? "glow" (glowStart.recast glowSource none).stages = none := by
    rw [isStages]
    exact fault?_of_noDirective reads_glowText.1 _ _
  obtain ⟨-, -, -, -, fills, -, content⟩ := fill_of_unserved rfl sound (stages_ne_nil stage _) rfl
    (attachedTo_object makes)
  rw [isStages] at content
  exact ⟨stage, makes, fills, content⟩

theorem uniforms_glowProgram :
    glowProgram.reflection.uniforms = [⟨"tint", ⟨0⟩, .floatVec4, 1⟩] := by
  have isLayout : UniformLayout.ofStages [(.vertex, glowText)] =
      ⟨[⟨"tint", 1, .floatVec4⟩], [("tint", ⟨0⟩)], 1⟩ := by
    rw [UniformLayout.ofStages, List.flatMap_singleton, reads_glowText.2]
    rfl
  have entries : uniformEntries ⟨0⟩ (bare [(.vertex, glowText)]) =
      [⟨"tint", ⟨0⟩, .floatVec4, 1⟩] := by
    rw [bare, ProgramObject.relink, isLayout]
    generalize [(Stage.vertex, glowText)] = stages
    rfl
  rw [glowProgram, reflection_recordOf, uniforms_reflectionOf, entries]
  exact List.mergeSort_singleton _

theorem reachable_glowSession : glowSession.Reachable :=
  (Reachable.start .gl33 1 false {} { enabled := false }).after _ (by decide)

theorem boundProgram?_glowSession : glowSession.boundProgram? = some glowProgram := by
  have creates : ∀ session : Session Device, SessionEvent.apply session
      (.request (.create "glow" glowSource none)) =
      ((create "glow" glowSource none).run session).state := fun _ => rfl
  have binds : ∀ session : Session Device, SessionEvent.apply session
      (.request (.bind (some ⟨0, 0⟩))) = ((bind (some ⟨0, 0⟩)).run session).state := fun _ => rfl
  obtain ⟨-, live⟩ := madeFrom_glow.made (sound_start _ _ _) (by decide)
  rw [glowSession, after, List.foldl_cons, creates, List.foldl_cons, binds, List.foldl_nil]
  exact boundProgram?_bind live

theorem targets_glow :
    Targets glowSession ⟨0⟩ glowProgram ⟨"tint", ⟨0⟩, .floatVec4, 1⟩ (.float 4) := by
  refine ⟨boundProgram?_glowSession, by decide, ?_, rfl⟩
  rw [uniforms_glowProgram]
  rfl

/-- Of five integers the first four are uploaded as they are. -/
theorem setConstant_uploads_front_glow :
    let done := (setConstant ⟨0⟩ (.ints [7, -1, 3, 5, 9]) 1 true).run glowSession
    done.value = .ok () ∧
      ∃ value, (UploadShape.float 4).Carries [7, 4294967295, 3, 5] true value ∧
        done.state = glowSession.recording ⟨⟨1⟩, ⟨0⟩, value⟩ := by
  rcases setConstant_uploads_front reachable_glowSession ⟨0⟩ (.ints [7, -1, 3, 5, 9]) 1 true with
    ⟨program, uniform, shape, value, targets, -, -, carries, isValue, isFinal, -⟩ |
    ⟨program, uniform, shape, targets, tooMany, -⟩ | ⟨short, -⟩
  · obtain ⟨rfl, rfl, rfl⟩ := targets_glow.unique targets
    exact ⟨isValue, value, carries, isFinal⟩
  · obtain ⟨rfl, rfl, rfl⟩ := targets_glow.unique targets
    exact absurd tooMany (by decide)
  · exact absurd (short _ _ _ targets_glow).1 (by decide)

/-- Four numbers are too few for so many vectors.  They are not refused: the program stops. -/
theorem count_overflows :
    let data := ConstantData.floats [⟨1⟩, ⟨2⟩, ⟨3⟩, ⟨4⟩]
    data.length < (UploadShape.float 4).scalars (4611686018427387905 : UInt64).toNat ∧
      Targets glowSession ⟨0⟩ glowProgram ⟨"tint", ⟨0⟩, .floatVec4, 1⟩ (.float 4) ∧
      (setConstant ⟨0⟩ data 4611686018427387905 false).run glowSession =
        ⟨.error .overflow, glowSession, []⟩ := by
  have tooMany : UInt64.size ≤
      (UploadShape.float 4).scalars (4611686018427387905 : UInt64).toNat := by decide +kernel
  exact ⟨by decide +kernel, targets_glow, setConstant_of_overflow targets_glow _ false tooMany⟩

end Glow

end Session

end ShaderPipeline
