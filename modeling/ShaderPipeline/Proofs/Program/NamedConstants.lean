import ShaderPipeline.Proofs.Program.Constants

/-!
# Setting constants by name

Every uniform in the table of a linked program takes uploads, since its type is one
that shader text has a keyword for.  So a name is all that is asked for: whether it is
in the table decides the answer.  The buffer decides how many elements are uploaded, and
a buffer without a whole element uploads nothing, though the name was found.
-/

namespace ShaderPipeline

open Action Software Software.Device Reflection

namespace Software

/-- The type of a declared uniform is named by a keyword. -/
def NamedType (type : UniformType) : Prop :=
  ∃ keyword, UniformType.ofKeyword? keyword = some type

theorem type_of_mem_declaredNames (type : UniformType) (words : List String) :
    ∀ declared ∈ declaredNames type words, declared.type = type := by
  fun_induction declaredNames type words <;> simp_all

theorem namedType_of_mem_declaredUniforms {source : String} {declared : DeclaredUniform}
    (member : declared ∈ declaredUniforms source) : NamedType declared.type := by
  obtain ⟨statement, -, inStatement⟩ := List.mem_flatMap.mp member
  unfold statementUniforms at inStatement
  dsimp only at inStatement
  split at inStatement
  · cases inStatement
  · split at inStatement
    · next type isType =>
        rw [type_of_mem_declaredNames type _ declared inStatement]
        exact ⟨_, isType⟩
    · cases inStatement

theorem UniformLayout.type_of_mem_add {layout : UniformLayout} {declared : DeclaredUniform}
    {uniform : ActiveUniform} (member : uniform ∈ (layout.add declared).uniforms) :
    uniform ∈ layout.uniforms ∨ uniform.type = declared.type := by
  unfold add at member
  split at member
  · exact Or.inl member
  · rcases List.mem_append.mp member with old | new
    · exact Or.inl old
    · rw [List.mem_singleton.mp new]
      exact Or.inr rfl

theorem UniformLayout.namedType_of_mem_foldl {declared : List DeclaredUniform}
    (named : ∀ one ∈ declared, NamedType one.type) {layout : UniformLayout}
    (before : ∀ uniform ∈ layout.uniforms, NamedType uniform.type) :
    ∀ uniform ∈ (declared.foldl add layout).uniforms, NamedType uniform.type := by
  induction declared generalizing layout with
  | nil => exact before
  | cons first rest ih =>
      refine ih (fun one member => named one (List.mem_cons_of_mem _ member)) ?_
      intro uniform member
      rcases type_of_mem_add member with old | sameType
      · exact before uniform old
      · rw [sameType]
        exact named first List.mem_cons_self

theorem UniformLayout.namedType_of_mem_ofStages {stages : List (Stage × String)}
    {uniform : ActiveUniform} (member : uniform ∈ (ofStages stages).uniforms) :
    NamedType uniform.type := by
  refine namedType_of_mem_foldl (fun one isDeclared => ?_) (by simp) uniform member
  obtain ⟨stage, -, inStage⟩ := List.mem_flatMap.mp isDeclared
  exact namedType_of_mem_declaredUniforms inStage

end Software

/-- A type that text can name takes uploads, unless it is that of a sampler. -/
theorem UploadShape.isSome_ofType? {type : UniformType} (named : NamedType type)
    (notSampler : type.isSampler = false) : (ofType? type).isSome := by
  have takes : ∀ entry ∈ UniformType.keywords, entry.2.isSampler = false →
      (ofType? entry.2).isSome := by decide
  obtain ⟨keyword, isNamed⟩ := named
  obtain ⟨before, behind, isList, -⟩ := List.lookup_eq_some_iff.mp isNamed
  refine takes (keyword, type) ?_ notSampler
  rw [isList]
  simp

namespace Reflection

theorem exists_of_mem_gather {α β : Type} {see : List α → α → Option β} {items : List α}
    {seen : β} (member : seen ∈ gather see items) :
    ∃ front item, item ∈ items ∧ see front item = some seen := by
  obtain ⟨⟨item, index⟩, inItems, isSeen⟩ := List.mem_filterMap.mp member
  exact ⟨_, item, List.mem_of_getElem? (List.mem_zipIdx_iff_getElem?.mp inItems), isSeen⟩

end Reflection

namespace Software.Device

theorem sorted_reflectionOf (held : List (Stage × String)) :
    SortedNames.Sorted UniformEntry.name (reflectionOf held).uniforms := by
  rw [uniforms_reflectionOf]
  exact SortedNames.sorted_sort _ _

/-- Every uniform in the table of a linked program takes uploads. -/
theorem isSome_ofType?_of_reflectionOf {held : List (Stage × String)} {uniform : UniformEntry}
    (member : uniform ∈ (reflectionOf held).uniforms) :
    (UploadShape.ofType? uniform.type).isSome := by
  rw [uniforms_reflectionOf, (SortedNames.sort_perm _ _).mem_iff] at member
  obtain ⟨front, reported, isReported, isEntry⟩ := exists_of_mem_gather member
  obtain ⟨notSampler, -, -, -, sameType, -⟩ := entryOf?_eq_some_iff.mp isEntry
  have inLayout : reported ∈ (UniformLayout.ofStages held).uniforms := by
    change reported ∈ (selected ⟨0⟩ (bare held)).activeUniforms ⟨0⟩ at isReported
    have isContent : contentOf ⟨0⟩ (selected ⟨0⟩ (bare held)) = some (linkedContent held) :=
      (contentOf_useProgram ⟨0⟩ (some ⟨0⟩) (bare held)).trans (contentOf_bare held)
    rwa [activeUniforms_eq, isContent] at isReported
  rw [sameType]
  exact UploadShape.isSome_ofType? (UniformLayout.namedType_of_mem_ofStages inLayout) notSampler

end Software.Device

namespace UniformEntry

variable {uniform : UniformEntry} {shape : UploadShape}

/-- The number of elements of a uniform, at least one. -/
def elements (uniform : UniformEntry) : Nat :=
  max uniform.count.toInt.toNat 1

theorem elements_lt (uniform : UniformEntry) : uniform.elements < UInt32.size := by
  have small := uniform.count.toInt_lt
  change max _ _ < 4294967296
  omega

/-- The number of elements that a buffer of some length is asked to cover. -/
def covered (uniform : UniformEntry) (shape : UploadShape) (length : Nat) : Nat :=
  min (max (length / shape.width) 1) uniform.elements

theorem one_le_covered (uniform : UniformEntry) (shape : UploadShape) (length : Nat) :
    1 ≤ uniform.covered shape length :=
  Nat.le_min.mpr ⟨Nat.le_max_right _ _, Nat.le_max_right _ _⟩

theorem elementsIn?_eq (isShape : UploadShape.ofType? uniform.type = some shape) (length : Nat) :
    uniform.elementsIn? length = some (uniform.covered shape length) := by
  have isDeclared : (if 0 ≤ uniform.count then max uniform.count.toInt.toNat 1 else 1) =
      uniform.elements := by
    split
    · rfl
    · next negative =>
        rw [Int32.le_iff_toInt_le] at negative
        change ¬ 0 ≤ uniform.count.toInt at negative
        rw [elements]
        omega
  rw [elementsIn?, isShape, Option.map_some]
  simp only [isDeclared, covered]

/-- The scalars of the covered elements are counted within 64 bits. -/
theorem scalars_covered (isShape : UploadShape.ofType? uniform.type = some shape)
    (length : Nat) :
    shape.scalars (uniform.covered shape length).toUInt64.toNat =
        shape.width * uniform.covered shape length ∧
      shape.width * uniform.covered shape length < UInt64.size := by
  obtain ⟨-, narrow⟩ := UploadShape.width_of_ofType? isShape
  have few : uniform.covered shape length < UInt32.size :=
    Nat.lt_of_le_of_lt (Nat.min_le_right _ _) uniform.elements_lt
  have isCount : (uniform.covered shape length).toUInt64.toNat = uniform.covered shape length :=
    UInt64.toNat_ofNat_of_lt' (Nat.lt_trans few (by decide))
  constructor
  · rw [isCount, UploadShape.scalars, Nat.max_eq_left (uniform.one_le_covered shape length)]
  · calc shape.width * uniform.covered shape length
        ≤ 16 * uniform.covered shape length := Nat.mul_le_mul_right _ narrow
      _ < 16 * UInt32.size := Nat.mul_lt_mul_of_pos_left few (by decide)
      _ ≤ UInt64.size := by decide

/-- The buffer has the covered elements exactly if it has one. -/
theorem covered_le_iff (uniform : UniformEntry) (positive : 0 < shape.width) (length : Nat) :
    shape.width * uniform.covered shape length ≤ length ↔ shape.width ≤ length := by
  constructor
  · exact Nat.le_trans (Nat.le_mul_of_pos_right _ (uniform.one_le_covered shape length))
  · intro hasOne
    have some : 1 ≤ length / shape.width := (Nat.one_le_div_iff positive).mpr hasOne
    calc shape.width * uniform.covered shape length
        ≤ shape.width * (length / shape.width) := by
          refine Nat.mul_le_mul_left _ (Nat.le_trans (Nat.min_le_left _ _) ?_)
          rw [Nat.max_eq_left some]
      _ ≤ length := Nat.mul_div_le _ _

theorem covered_of_le (positive : 0 < shape.width) {length : Nat} (hasOne : shape.width ≤ length) :
    uniform.covered shape length = min (length / shape.width) uniform.elements := by
  rw [covered, Nat.max_eq_left ((Nat.one_le_div_iff positive).mpr hasOne)]

end UniformEntry

namespace Session

variable {session : Session Device} {slot : ConstantSlot} {program : LinkedProgram}
  {uniform : UniformEntry} {shape : UploadShape} {name : String}

/-- The name is that of a uniform of the bound program, which is uploaded in this shape.  In a
table with more places than 32 bits count, another uniform may be taken for it. -/
structure Names (session : Session Device) (name : String) (program : LinkedProgram)
    (uniform : UniformEntry) (shape : UploadShape) : Prop where
  bound : session.boundProgram? = some program
  listed : uniform ∈ program.reflection.uniforms
  named : program.reflection.uniforms.length ≤ UInt32.size → uniform.name = name
  uploadable : UploadShape.ofType? uniform.type = some shape

theorem exists_target (reachable : session.Reachable)
    (isBound : session.boundProgram? = some program)
    (found : program.reflection.findUniform? name = some slot)
    (isUniform : program.reflection.uniform? slot = some uniform) :
    ∃ shape, Targets session slot program uniform shape ∧
      Names session name program uniform shape := by
  obtain ⟨held, isTable⟩ := reachable.exists_reflectionOf isBound
  obtain ⟨notNegative, inRange⟩ := uniform?_eq_some_iff.mp isUniform
  have listed := List.mem_of_getElem? inRange
  obtain ⟨shape, uploadable⟩ := Option.isSome_iff_exists.mp
    (isSome_ofType?_of_reflectionOf (isTable ▸ listed))
  refine ⟨shape, ⟨isBound, notNegative, inRange, uploadable⟩,
    ⟨isBound, listed, fun counted => ?_, uploadable⟩⟩
  obtain ⟨position, isPosition, rfl⟩ := Option.map_eq_some_iff.mp found
  obtain ⟨-, entry, isEntry, isName⟩ := SortedNames.position?_eq_some_iff.mp isPosition
  have inside := (List.getElem?_eq_some_iff.mp isEntry).1
  rw [ConstantSlot.toNat_ofNat (Nat.lt_of_lt_of_le inside counted) notNegative] at inRange
  rw [← Option.some.inj (isEntry.symm.trans inRange)]
  exact isName

theorem name_ne_of_findUniform?_eq_none (reachable : session.Reachable)
    (isBound : session.boundProgram? = some program)
    (missing : program.reflection.findUniform? name = none) :
    ∀ uniform ∈ program.reflection.uniforms, uniform.name ≠ name := by
  obtain ⟨held, isTable⟩ := reachable.exists_reflectionOf isBound
  rw [isTable] at missing ⊢
  exact (sorted_reflectionOf held).position?_eq_none_iff.mp (Option.map_eq_none_iff.mp missing)

theorem setConstantByName_of_targets
    (found : program.reflection.findUniform? name = some slot)
    (targets : Targets session slot program uniform shape) (coherent : session.Coherent)
    (data : ConstantData) :
    let done := (setConstantByName name data).run session
    let length := shape.width * uniform.covered shape data.length
    done.value = .ok true ∧
      done.state = if data.length < length then session
        else session.recording ⟨program.object, uniform.location,
          shape.value data length false⟩ := by
  have isUniform := uniform?_eq_some_iff.mpr ⟨targets.notNegative, targets.inRange⟩
  obtain ⟨isLength, fits⟩ := UniformEntry.scalars_covered targets.uploadable data.length
  rw [← isLength] at fits ⊢
  obtain ⟨isValue, isState⟩ := setConstant_of_fits targets coherent data false fits
  unfold setConstantByName
  rw [run_get_bind, targets.bound]
  simp only [Option.bind_some, found, isUniform, UniformEntry.elementsIn?_eq targets.uploadable,
    Option.map_some, run_bind, isValue]
  exact ⟨rfl, isState⟩

theorem setConstantByName_of_missing (data : ConstantData)
    (missing : ∀ program slot uniform, session.boundProgram? = some program →
      program.reflection.findUniform? name = some slot →
      program.reflection.uniform? slot ≠ some uniform) :
    ((setConstantByName name data).run session).value = .ok false ∧
      ((setConstantByName name data).run session).state = session := by
  unfold setConstantByName
  rw [run_get_bind]
  cases isBound : session.boundProgram? with
  | none => exact ⟨rfl, rfl⟩
  | some program =>
      rw [Option.bind_some]
      cases found : program.reflection.findUniform? name with
      | none => exact ⟨rfl, rfl⟩
      | some slot =>
          have noUniform : program.reflection.uniform? slot = none :=
            Option.eq_none_iff_forall_ne_some.mpr fun uniform =>
              missing program slot uniform isBound found
          simp only [Option.bind_some, noUniform, Option.bind_none, Option.map_none]
          exact ⟨rfl, rfl⟩

/-- A constant that is set by its name is reported as set exactly if the bound program has
it.  The whole elements of the buffer are uploaded then, but no more than the uniform has, and
nothing if the buffer does not have one. -/
theorem setConstantByName_reports (reachable : session.Reachable) (name : String)
    (data : ConstantData) :
    let done := (setConstantByName name data).run session
    (done.value = .ok true ∧ ∃ program uniform shape, Names session name program uniform shape ∧
        (data.length < shape.width → done.state = session) ∧
        (shape.width ≤ data.length → ∃ value,
          shape.Carries (data.bits.take
            (shape.width * min (data.length / shape.width) uniform.elements)) false value ∧
          done.state = session.recording ⟨program.object, uniform.location, value⟩)) ∨
      (done.value = .ok false ∧ done.state = session ∧
        ∀ program, session.boundProgram? = some program →
          program.reflection.uniforms.length < 2147483648 →
          ∀ uniform ∈ program.reflection.uniforms, uniform.name ≠ name) := by
  intro done
  by_cases hasTarget : ∃ program slot uniform, session.boundProgram? = some program ∧
      program.reflection.findUniform? name = some slot ∧
      program.reflection.uniform? slot = some uniform
  · obtain ⟨program, slot, uniform, isBound, found, isUniform⟩ := hasTarget
    obtain ⟨shape, targets, names⟩ := exists_target reachable isBound found isUniform
    have positive := (UploadShape.width_of_ofType? targets.uploadable).1
    have hasAll := uniform.covered_le_iff positive data.length
    obtain ⟨isValue, isState⟩ :=
      setConstantByName_of_targets found targets reachable.coherent data
    refine Or.inl ⟨isValue, program, uniform, shape, names, fun short => ?_, fun hasOne => ?_⟩
    · rw [if_pos (Nat.lt_of_not_le (mt hasAll.mp (Nat.not_le_of_lt short)))] at isState
      exact isState
    · rw [if_neg (Nat.not_lt_of_le (hasAll.mpr hasOne)),
        UniformEntry.covered_of_le positive hasOne] at isState
      exact ⟨_, shape.carries_value data _ false, isState⟩
  · have missing : ∀ program slot uniform, session.boundProgram? = some program →
        program.reflection.findUniform? name = some slot →
        program.reflection.uniform? slot ≠ some uniform :=
      fun program slot uniform isBound found isUniform =>
        hasTarget ⟨program, slot, uniform, isBound, found, isUniform⟩
    obtain ⟨isValue, isState⟩ := setConstantByName_of_missing data missing
    refine Or.inr ⟨isValue, isState, fun program isBound few => ?_⟩
    cases found : program.reflection.findUniform? name with
    | none => exact name_ne_of_findUniform?_eq_none reachable isBound found
    | some slot =>
        obtain ⟨uniform, -, isUniform, -⟩ := exists_of_findUniform?_eq_some few found
        exact absurd isUniform (missing program slot uniform isBound found)

/-- Five numbers have one whole vector. -/
theorem setConstantByName_reports_tint :
    let done := (setConstantByName "tint" (.floats [⟨1⟩, ⟨2⟩, ⟨3⟩, ⟨4⟩, ⟨5⟩])).run glowSession
    done.value = .ok true ∧ ∃ value, (UploadShape.float 4).Carries [1, 2, 3, 4] false value ∧
      done.state = glowSession.recording ⟨⟨1⟩, ⟨0⟩, value⟩ := by
  rcases setConstantByName_reports reachable_glowSession "tint"
      (.floats [⟨1⟩, ⟨2⟩, ⟨3⟩, ⟨4⟩, ⟨5⟩]) with
    ⟨isValue, program, uniform, shape, ⟨isBound, listed, -, uploadable⟩, -, uploads⟩ |
    ⟨-, -, missing⟩
  · obtain rfl := Option.some.inj (boundProgram?_glowSession.symm.trans isBound)
    rw [uniforms_glowProgram, List.mem_singleton] at listed
    subst listed
    cases uploadable
    exact ⟨isValue, uploads (by decide)⟩
  · have others := missing glowProgram boundProgram?_glowSession
    rw [uniforms_glowProgram] at others
    exact absurd rfl (others (by decide) _ List.mem_cons_self)

/-- A buffer with no whole vector is reported as set, and nothing is uploaded. -/
theorem short_buffer_reported :
    let done := (setConstantByName "tint" (.floats [⟨1⟩, ⟨2⟩, ⟨3⟩])).run glowSession
    done.value = .ok true ∧ done.state = glowSession := by
  have found : glowProgram.reflection.findUniform? "tint" = some ⟨0⟩ := by
    rw [findUniform?, uniforms_glowProgram]
    decide +kernel
  exact setConstantByName_of_targets found targets_glow reachable_glowSession.coherent
    (.floats [⟨1⟩, ⟨2⟩, ⟨3⟩])

end Session

end ShaderPipeline
