import Mathlib.Data.List.Basic
import Mathlib.Data.List.Induction
import ShaderPipeline.Program.Reflection
import ShaderPipeline.Proofs.Action.Frame

/-!
# Going through the uniforms of a program

The uniforms that a driver reports are gone through once.  A sampler is set to its
unit as soon as it is met, so the driver that is asked about a uniform has been given
the units of all samplers in front of it.  What is asked and what is set is said here
for any driver, whose answers may change with every upload.
-/

namespace ShaderPipeline

namespace Action

variable {σ α β : Type}

theorem run_foldl_concat (act : β → α → Action σ β) (value : β) (items : List α) (last : α)
    (state : σ) :
    let before := (foldl act value items).run state
    ((foldl act value (items ++ [last])).run state).value =
        ((act before.value last).run before.state).value ∧
      ((foldl act value (items ++ [last])).run state).state =
        ((act before.value last).run before.state).state := by
  induction items generalizing value state with
  | nil => exact ⟨rfl, rfl⟩
  | cons first rest ih => exact ih _ _

end Action

namespace Reflection

open Action

section Gather

variable {α β : Type}

/-- What is seen of each item, given the items in front of it. -/
def gather (see : List α → α → Option β) (items : List α) : List β :=
  items.zipIdx.filterMap fun item => see (items.take item.2) item.1

theorem gather_concat (see : List α → α → Option β) (items : List α) (last : α) :
    gather see (items ++ [last]) = gather see items ++ (see items last).toList := by
  have earlier : ∀ item ∈ items.zipIdx,
      see ((items ++ [last]).take item.2) item.1 = see (items.take item.2) item.1 := by
    rintro ⟨item, index⟩ member
    have inside := (List.mem_zipIdx member).2.1
    rw [List.take_append_of_le_length (by omega)]
  rw [gather, List.zipIdx_append, List.filterMap_append, List.filterMap_congr earlier]
  cases seen : see items last <;> simp [gather, seen]

theorem length_gather_le (see : List α → α → Option β) (items : List α) :
    (gather see items).length ≤ items.length := by
  rw [gather]
  simpa using List.length_filterMap_le
    (fun item : α × Nat => see (items.take item.2) item.1) items.zipIdx

end Gather

theorem isReserved_iff {name : String} : isReserved name = true ↔ ∃ rest, name = "gl_" ++ rest := by
  rw [isReserved, List.isPrefixOf_iff_prefix]
  constructor
  · rintro ⟨rest, isName⟩
    refine ⟨String.ofList rest, String.toList_inj.mp ?_⟩
    rw [String.toList_append, ← isName]
    exact congrArg _ String.toList_ofList.symm
  · rintro ⟨rest, rfl⟩
    rw [String.toList_append]
    exact List.prefix_append _ _

def samplersOf (uniform : ActiveUniform) : List String :=
  if isReserved uniform.name then []
  else if uniform.type.isSampler then samplerNames uniform
  else []

/-- Samplers with the units from `first` on. -/
def numbered (first : Nat) (names : List String) : List SamplerEntry :=
  (names.zipIdx first).map fun item => ⟨item.1, item.2.toUInt32⟩

theorem numbered_cons (first : Nat) (name : String) (names : List String) :
    numbered first (name :: names) = ⟨name, first.toUInt32⟩ :: numbered (first + 1) names :=
  rfl

theorem numbered_append (first : Nat) (names later : List String) :
    numbered first (names ++ later) =
      numbered first names ++ numbered (first + names.length) later := by
  rw [numbered, List.zipIdx_append, List.map_append]
  rfl

@[simp]
theorem length_numbered (first : Nat) (names : List String) :
    (numbered first names).length = names.length := by
  simp [numbered]

variable {δ : Type} [ShaderDevice δ]

/-- The device once a sampler has been set to its unit, if it has a location. -/
def afterSampler (program : ProgramId) (device : δ) (entry : SamplerEntry) : δ :=
  match ShaderDevice.uniformLocation device program entry.name with
  | some location =>
      ((ShaderDevice.setUniform location (.int 1 [entry.unit.toInt32])).run device).state
  | none => device

/-- The device once samplers have been set, one after another. -/
def afterSamplers (program : ProgramId) (device : δ) (entries : List SamplerEntry) : δ :=
  entries.foldl (afterSampler program) device

/-- What the table says about a uniform that is not a sampler. -/
def entryOf? (program : ProgramId) (device : δ) (uniform : ActiveUniform) :
    Option UniformEntry :=
  if isReserved uniform.name || uniform.type.isSampler then none
  else
    (baseName? uniform.name).bind fun name =>
      (ShaderDevice.uniformLocation device program name).map fun location =>
        ⟨name, location, uniform.type, uniform.size⟩

theorem run_addSampler (program : ProgramId) (table : Reflection) (name : String) (device : δ) :
    let entry : SamplerEntry := ⟨name, table.samplers.length.toUInt32⟩
    ((addSampler program table name).run device).value =
        ⟨table.samplers ++ [entry], table.uniforms⟩ ∧
      ((addSampler program table name).run device).state =
        afterSampler program device entry := by
  unfold addSampler afterSampler
  rw [run_get_bind]
  dsimp only
  cases ShaderDevice.uniformLocation device program name <;> exact ⟨rfl, rfl⟩

/-- Samplers get the units that come next, in their order. -/
theorem run_foldl_addSampler (program : ProgramId) (table : Reflection) (names : List String)
    (device : δ) :
    let entries := numbered table.samplers.length names
    ((foldl (addSampler program) table names).run device).value =
        ⟨table.samplers ++ entries, table.uniforms⟩ ∧
      ((foldl (addSampler program) table names).run device).state =
        afterSamplers program device entries := by
  induction names generalizing table device with
  | nil => exact ⟨by simp [foldl, numbered], rfl⟩
  | cons name names ih =>
      obtain ⟨isValue, isState⟩ := run_addSampler program table name device
      have later := ih ((addSampler program table name).run device).value
        ((addSampler program table name).run device).state
      rw [isValue, isState] at later
      simp only [List.length_append, List.length_singleton, List.append_assoc,
        List.singleton_append] at later
      rw [numbered_cons, foldl, run_bind, isValue, isState]
      exact later

theorem run_addUniform (program : ProgramId) (table : Reflection) {uniform : ActiveUniform}
    (notReserved : isReserved uniform.name = false) (notSampler : uniform.type.isSampler = false)
    (device : δ) :
    ((addUniform program table uniform).run device).value =
        ⟨table.samplers, table.uniforms ++ (entryOf? program device uniform).toList⟩ ∧
      ((addUniform program table uniform).run device).state = device := by
  unfold addUniform entryOf?
  rw [notReserved, notSampler]
  cases baseName? uniform.name with
  | none => exact ⟨by simp, rfl⟩
  | some name =>
      simp only [Bool.or_self, Bool.false_eq_true, if_false, Option.bind_some]
      rw [run_get_bind]
      cases ShaderDevice.uniformLocation device program name with
      | none =>
          rw [Option.map_none, Option.toList_none, List.append_nil]
          exact ⟨rfl, rfl⟩
      | some location => exact ⟨rfl, rfl⟩

theorem run_addActive (program : ProgramId) (table : Reflection) (uniform : ActiveUniform)
    (device : δ) :
    let entries := numbered table.samplers.length (samplersOf uniform)
    ((addActive program table uniform).run device).value =
        ⟨table.samplers ++ entries,
          table.uniforms ++ (entryOf? program device uniform).toList⟩ ∧
      ((addActive program table uniform).run device).state =
        afterSamplers program device entries := by
  unfold addActive samplersOf
  cases reserved : isReserved uniform.name with
  | true => exact ⟨by simp [entryOf?, reserved, numbered], rfl⟩
  | false =>
      cases sampler : uniform.type.isSampler with
      | true =>
          have isEntry : entryOf? program device uniform = none := by simp [entryOf?, sampler]
          rw [isEntry]
          simpa using run_foldl_addSampler program table (samplerNames uniform) device
      | false =>
          obtain ⟨isValue, isState⟩ := run_addUniform program table reserved sampler device
          exact ⟨by simpa [numbered] using isValue, isState⟩

/-- The device that is asked about a uniform: the samplers of all uniforms in front of it
have been set. -/
def deviceBehind (program : ProgramId) (device : δ) (front : List ActiveUniform) : δ :=
  afterSamplers program device (numbered 0 (front.flatMap samplersOf))

/-- All samplers are numbered in the order of the reported uniforms, and every other uniform
is looked up when it is met. -/
theorem run_foldl_addActive (program : ProgramId) (device : δ) (uniforms : List ActiveUniform) :
    ((foldl (addActive program) {} uniforms).run device).value =
        ⟨numbered 0 (uniforms.flatMap samplersOf),
          gather (fun front => entryOf? program (deviceBehind program device front)) uniforms⟩ ∧
      ((foldl (addActive program) {} uniforms).run device).state =
        deviceBehind program device uniforms := by
  induction uniforms using List.reverseRecOn with
  | nil => exact ⟨rfl, rfl⟩
  | append_singleton uniforms last ih =>
      obtain ⟨isValue, isState⟩ := ih
      obtain ⟨lastValue, lastState⟩ :=
        run_foldl_concat (addActive program) {} uniforms last device
      obtain ⟨stepValue, stepState⟩ := run_addActive program
        ((foldl (addActive program) {} uniforms).run device).value last
        ((foldl (addActive program) {} uniforms).run device).state
      have units : numbered 0 ((uniforms ++ [last]).flatMap samplersOf) =
          numbered 0 (uniforms.flatMap samplersOf) ++
            numbered (uniforms.flatMap samplersOf).length (samplersOf last) := by
        rw [List.flatMap_append, numbered_append, Nat.zero_add, List.flatMap_singleton]
      rw [isValue, isState] at stepValue stepState lastValue lastState
      rw [length_numbered] at stepValue stepState
      constructor
      · rw [lastValue, stepValue, units, gather_concat]
      · rw [lastState, stepState, deviceBehind, deviceBehind, units]
        exact (List.foldl_append ..).symm

def selected (program : ProgramId) (device : δ) : δ :=
  ((ShaderDevice.useProgram (some program)).run device).state

/-- The uniforms that a driver reports for a program that is current. -/
def enumerated (program : ProgramId) (device : δ) : List ActiveUniform :=
  ShaderDevice.activeUniforms (selected program device) program

/-- The samplers of a program with their units, in the order in which they are reported. -/
def samplerEntries (program : ProgramId) (device : δ) : List SamplerEntry :=
  numbered 0 ((enumerated program device).flatMap samplersOf)

/-- The uniforms of a program that take uploads, in the order in which they are reported. -/
def uniformEntries (program : ProgramId) (device : δ) : List UniformEntry :=
  gather (fun front => entryOf? program (deviceBehind program (selected program device) front))
    (enumerated program device)

/-- The table of a program and the device that is left. -/
theorem run_build (program : ProgramId) (device : δ) :
    ((build program).run device).value =
        sorted ⟨samplerEntries program device, uniformEntries program device⟩ ∧
      ((build program).run device).state =
        afterSamplers program (selected program device) (samplerEntries program device) := by
  obtain ⟨isValue, isState⟩ :=
    run_foldl_addActive program (selected program device) (enumerated program device)
  rw [samplerEntries, uniformEntries, ← isValue]
  exact ⟨rfl, isState⟩

/-- Uploads leave the locations of a program as they are. -/
def Steady (δ : Type) [ShaderDevice δ] (program : ProgramId) : Prop :=
  ∀ (device : δ) (location : UniformLocation) (value : UniformValue) (name : String),
    ShaderDevice.uniformLocation ((ShaderDevice.setUniform location value).run device).state
      program name = ShaderDevice.uniformLocation device program name

theorem Steady.uniformLocation_afterSamplers {program : ProgramId} (steady : Steady δ program)
    (device : δ) (entries : List SamplerEntry) (name : String) :
    ShaderDevice.uniformLocation (afterSamplers program device entries) program name =
      ShaderDevice.uniformLocation device program name := by
  induction entries generalizing device with
  | nil => rfl
  | cons entry entries ih =>
      refine (ih (afterSampler program device entry)).trans ?_
      unfold afterSampler
      split
      · exact steady _ _ _ _
      · rfl

end Reflection

end ShaderPipeline
