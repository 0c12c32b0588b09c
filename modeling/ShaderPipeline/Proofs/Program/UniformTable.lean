import Mathlib.Data.List.TakeWhile
import ShaderPipeline.Device.Scripted
import ShaderPipeline.Proofs.Program.Enumeration
import ShaderPipeline.Proofs.SortedNames
import ShaderPipeline.Software.Device

/-!
# The table of uniforms

Of the uniforms that a driver reports, the table has those that take uploads: all
but samplers, names of the driver, names with a bracket other than that of a first
element, and names without a location.  A slot is the place of a uniform in the
table, and every name of the table has one.
-/

namespace ShaderPipeline

/-- A slot that counts from zero is the place that it counts to. -/
theorem ConstantSlot.index?_ofNat {position : Nat} (small : position < 2147483648) :
    (ConstantSlot.mk (Int32.ofNat position)).index? = some position := by
  have isNumber : (Int32.ofNat position).toInt = position := Int32.toInt_ofNat_of_lt small
  have valid : (ConstantSlot.mk (Int32.ofNat position)).isValid = true := by
    refine decide_eq_true (Int32.le_iff_toInt_le.mpr ?_)
    rw [isNumber]
    exact Int.natCast_nonneg position
  rw [index?, if_pos valid, isNumber, Int.toNat_natCast]

namespace Reflection

/-- The name is `base`, or `base` with the suffix of a first element.  No bracket is in
`base` itself. -/
def IsBaseName (name base : String) : Prop :=
  '[' ∉ base.toList ∧ (name = base ∨ name = base ++ "[0]")

theorem noBracket_iff {text : List Char} :
    '[' ∉ text ↔ ∀ character ∈ text, (character != '[') = true := by
  simp only [bne_iff_ne]
  exact ⟨fun noBracket character member isBracket => noBracket (isBracket ▸ member),
    fun others member => others '[' member rfl⟩

theorem baseName?_eq_some_iff {name base : String} :
    baseName? name = some base ↔ IsBaseName name base := by
  unfold baseName?
  dsimp only
  constructor
  · intro found
    split at found
    · next noSuffix =>
        cases found
        exact ⟨noBracket_iff.mpr (List.dropWhile_eq_nil_iff.mp noSuffix), Or.inl rfl⟩
    · split at found
      · next isFirst =>
          cases found
          have whole := List.takeWhile_append_dropWhile (p := (· != '[')) (l := name.toList)
          rw [isFirst] at whole
          constructor
          · rw [String.toList_ofList]
            exact noBracket_iff.mpr fun character => List.mem_takeWhile_imp
          · refine Or.inr (String.toList_inj.mp ?_)
            rw [String.toList_append, String.toList_ofList]
            exact whole.symm
      · cases found
  · rintro ⟨noBracket, rfl | rfl⟩
    · rw [if_pos (List.dropWhile_eq_nil_iff.mpr (noBracket_iff.mp noBracket))]
    · have plain := noBracket_iff.mp noBracket
      have isSuffix : (base ++ "[0]").toList.dropWhile (· != '[') = firstElement := by
        rw [String.toList_append, List.dropWhile_append_of_pos plain]
        rfl
      have isFront : (base ++ "[0]").toList.takeWhile (· != '[') = base.toList := by
        rw [String.toList_append, List.takeWhile_append_of_pos plain]
        exact List.append_nil _
      rw [isSuffix, isFront, if_neg (by decide), if_pos rfl, String.ofList_toList]

variable {δ : Type} [ShaderDevice δ]

/-- The entry is that of a reported uniform, with the location that the device answers. -/
structure IsEntry (program : ProgramId) (device : δ) (uniform : ActiveUniform)
    (entry : UniformEntry) : Prop where
  notSampler : uniform.type.isSampler = false
  notReserved : ∀ rest, uniform.name ≠ "gl_" ++ rest
  isBaseName : IsBaseName uniform.name entry.name
  location : ShaderDevice.uniformLocation device program entry.name = some entry.location
  type : entry.type = uniform.type
  count : entry.count = uniform.size

theorem entryOf?_eq_some_iff {program : ProgramId} {device : δ} {uniform : ActiveUniform}
    {entry : UniformEntry} :
    entryOf? program device uniform = some entry ↔ IsEntry program device uniform entry := by
  unfold entryOf?
  constructor
  · intro found
    split at found
    · cases found
    · next takes =>
        simp only [Bool.or_eq_true, not_or, Bool.not_eq_true] at takes
        obtain ⟨name, isName, located⟩ := Option.bind_eq_some_iff.mp found
        obtain ⟨location, isLocation, rfl⟩ := Option.map_eq_some_iff.mp located
        refine ⟨takes.2, fun rest isReserved => ?_, baseName?_eq_some_iff.mp isName, isLocation,
          rfl, rfl⟩
        rw [isReserved_iff.mpr ⟨rest, isReserved⟩] at takes
        cases takes.1
  · rintro ⟨notSampler, notReserved, isBaseName, isLocation, isType, isCount⟩
    have notReserved : isReserved uniform.name = false :=
      Bool.eq_false_iff.mpr fun reserved =>
        (isReserved_iff.mp reserved).elim notReserved
    rw [notReserved, notSampler, baseName?_eq_some_iff.mpr isBaseName]
    simp only [Bool.or_self, Bool.false_eq_true, if_false, Option.bind_some, isLocation,
      Option.map_some, ← isType, ← isCount]

/-- The uniforms of a table are those that the driver reported and located, in the order of
their names, and are found by their names. -/
structure IsUniformTable (program : ProgramId) (device : δ) (table : Reflection) : Prop where
  /-- The table has one entry for each uniform that is to have one. -/
  entries : ∃ entryBehind? : List ActiveUniform → ActiveUniform → Option UniformEntry,
    (∀ front uniform entry, entryBehind? front uniform = some entry ↔
      IsEntry program (deviceBehind program (selected program device) front) uniform entry) ∧
    table.uniforms.Perm (gather entryBehind? (enumerated program device))
  /-- A driver whose locations stay is asked as at the beginning. -/
  steady : Steady δ program → ∀ front name,
    ShaderDevice.uniformLocation (deviceBehind program (selected program device) front)
      program name = ShaderDevice.uniformLocation (selected program device) program name
  sorted : table.uniforms.Pairwise fun first second =>
    Text.bytes first.name ≤ Text.bytes second.name
  missing : ∀ name, table.findUniform? name = none ↔
    ∀ entry ∈ table.uniforms, entry.name ≠ name
  found : ∀ name slot, table.findUniform? name = some slot →
    ∃ entry ∈ table.uniforms, table.uniform? slot = some entry ∧ entry.name = name

theorem exists_of_findUniform?_eq_some {table : Reflection}
    (few : table.uniforms.length < 2147483648) {name : String} {slot : ConstantSlot}
    (found : table.findUniform? name = some slot) :
    ∃ entry ∈ table.uniforms, table.uniform? slot = some entry ∧ entry.name = name := by
  obtain ⟨position, isPosition, rfl⟩ := Option.map_eq_some_iff.mp found
  obtain ⟨-, entry, isEntry, isName⟩ := SortedNames.position?_eq_some_iff.mp isPosition
  have inside := (List.getElem?_eq_some_iff.mp isEntry).1
  refine ⟨entry, List.mem_of_getElem? isEntry, ?_, isName⟩
  rw [uniform?, ConstantSlot.index?_ofNat (by omega), Option.bind_some, isEntry]

/-- The table of a program's uniforms is complete, in order, and can be searched, whatever the
driver answers. -/
theorem isUniformTable_build (program : ProgramId) (device : δ)
    (few : (enumerated program device).length < 2147483648) :
    IsUniformTable program device ((build program).run device).value := by
  have isTable : ((build program).run device).value.uniforms =
      SortedNames.sort UniformEntry.name (uniformEntries program device) := by
    rw [(run_build program device).1]
    rfl
  have sameEntries := SortedNames.sort_perm UniformEntry.name (uniformEntries program device)
  have inOrder := SortedNames.sorted_sort UniformEntry.name (uniformEntries program device)
  rw [← isTable] at sameEntries inOrder
  constructor
  · exact ⟨_, fun front uniform entry => entryOf?_eq_some_iff, sameEntries⟩
  · exact fun steady front name => steady.uniformLocation_afterSamplers _ _ name
  · exact inOrder.bytes
  · intro name
    rw [findUniform?, Option.map_eq_none_iff]
    exact inOrder.position?_eq_none_iff
  · intro name slot found
    refine exists_of_findUniform?_eq_some ?_ found
    exact Nat.lt_of_le_of_lt (sameEntries.length_eq ▸ length_gather_le _ _) few

/-- A driver that reports an array, one name twice, a name of its own, a member of an array
element, a sampler and a uniform without a location. -/
def crowdedDevice : Scripted Software.Device where
  device := { capabilities := .gl33, binaryFormat := 1 }
  script :=
    { uniforms := some
        [⟨"lights[0]", 4, .floatVec4⟩, ⟨"fog", 1, .float⟩, ⟨"gl_Depth", 1, .float⟩,
          ⟨"parts[1].size", 1, .float⟩, ⟨"skin", 1, .sampler2D⟩, ⟨"fog", 1, .floatVec2⟩,
          ⟨"lost", 1, .int⟩]
      locations := some
        [("lights", ⟨3⟩), ("fog", ⟨7⟩), ("gl_Depth", ⟨8⟩), ("parts[1].size", ⟨9⟩),
          ("skin", ⟨10⟩)] }

theorem isUniformTable_build_crowded :
    (enumerated ⟨1⟩ crowdedDevice).length < 2147483648 ∧
    (gather (fun front => entryOf? ⟨1⟩ (deviceBehind ⟨1⟩ (selected ⟨1⟩ crowdedDevice) front))
      (enumerated ⟨1⟩ crowdedDevice)).map (·.name) = ["lights", "fog", "fog"] ∧
    IsUniformTable ⟨1⟩ crowdedDevice ((build ⟨1⟩).run crowdedDevice).value :=
  ⟨by decide, by decide +kernel, isUniformTable_build ⟨1⟩ crowdedDevice (by decide)⟩

end Reflection

end ShaderPipeline
