import Mathlib.Data.List.Nodup
import ShaderPipeline.Device.Recorded
import ShaderPipeline.Device.Scripted
import ShaderPipeline.Proofs.Program.Enumeration
import ShaderPipeline.Proofs.SortedNames
import ShaderPipeline.Software.Device

/-!
# The units of samplers

Samplers get the units from zero on, in the order in which the driver reports them.
Each one that has a location is set to its unit, once and in that order, while its
program is current.  The table is in the order of names, and a name still leads to
the unit that the driver was told.
-/

namespace ShaderPipeline.Reflection

open Action

theorem arrayName?_eq_some_iff {name base : String} :
    arrayName? name = some base ↔ name = base ++ "[0]" := by
  unfold arrayName?
  dsimp only
  constructor
  · intro found
    split at found
    · next isSuffix =>
        cases found
        obtain ⟨front, isName⟩ := List.isSuffixOf_iff_suffix.mp isSuffix
        refine String.toList_inj.mp ?_
        rw [← isName, List.length_append, Nat.add_sub_cancel, List.take_left,
          String.toList_append, String.toList_ofList]
        rfl
    · cases found
  · rintro rfl
    have isName : (base ++ "[0]").toList = base.toList ++ firstElement := String.toList_append
    rw [isName, if_pos (List.isSuffixOf_iff_suffix.mpr (List.suffix_append _ _)),
      List.length_append, Nat.add_sub_cancel, List.take_left, String.ofList_toList]

/-- The samplers that a reported uniform stands for: itself, or the elements of an array
that is reported by its first one. -/
inductive StandsFor (uniform : ActiveUniform) : List String → Prop
  | nothing (other : uniform.type.isSampler = false ∨ ∃ rest, uniform.name = "gl_" ++ rest) :
      StandsFor uniform []
  | elements {base : String} (isSampler : uniform.type.isSampler = true)
      (notReserved : ∀ rest, uniform.name ≠ "gl_" ++ rest)
      (isArray : uniform.name = base ++ "[0]") (several : 1 < uniform.size) :
      StandsFor uniform ((List.range uniform.size.toInt.toNat).map fun element =>
        base ++ "[" ++ Nat.repr element ++ "]")
  | itself (isSampler : uniform.type.isSampler = true)
      (notReserved : ∀ rest, uniform.name ≠ "gl_" ++ rest)
      (notArray : uniform.size ≤ 1 ∨ ∀ base, uniform.name ≠ base ++ "[0]") :
      StandsFor uniform [uniform.name]

theorem standsFor_samplersOf (uniform : ActiveUniform) :
    StandsFor uniform (samplersOf uniform) := by
  unfold samplersOf
  split
  · next reserved => exact .nothing (Or.inr (isReserved_iff.mp reserved))
  · next unreserved =>
      have notReserved : ∀ rest, uniform.name ≠ "gl_" ++ rest :=
        fun rest isReserved => unreserved (isReserved_iff.mpr ⟨rest, isReserved⟩)
      split
      · next isSampler =>
          unfold samplerNames
          cases isArray : arrayName? uniform.name with
          | none =>
              refine .itself isSampler notReserved (Or.inr fun base isName => ?_)
              rw [arrayName?_eq_some_iff.mpr isName] at isArray
              cases isArray
          | some base =>
              dsimp only
              split
              · next several =>
                  exact .elements isSampler notReserved (arrayName?_eq_some_iff.mp isArray) several
              · next single =>
                  exact .itself isSampler notReserved (Or.inl (Int32.not_lt.mp single))
      · next notSampler => exact .nothing (Or.inl (Bool.eq_false_iff.mpr notSampler))

theorem map_name_numbered (first : Nat) (names : List String) :
    (numbered first names).map (·.name) = names := by
  rw [numbered, List.map_map]
  exact List.zipIdx_map_fst first names

theorem map_unit_numbered (names : List String) :
    (numbered 0 names).map (·.unit) = (List.range names.length).map Nat.toUInt32 := by
  rw [numbered, List.map_map, List.range_eq_range', ← List.zipIdx_map_snd 0 names, List.map_map]
  rfl

theorem nodup_units {count : Nat} (enough : count ≤ UInt32.size) :
    ((List.range count).map Nat.toUInt32).Nodup := by
  refine List.Nodup.map_on (fun first isFirst second isSecond same => ?_) List.nodup_range
  have sameNumber := congrArg UInt32.toNat same
  rwa [UInt32.toNat_ofNat_of_lt' (Nat.lt_of_lt_of_le (List.mem_range.mp isFirst) enough),
    UInt32.toNat_ofNat_of_lt' (Nat.lt_of_lt_of_le (List.mem_range.mp isSecond) enough)] at sameNumber

theorem mem_units_iff {count : Nat} (enough : count ≤ UInt32.size) {unit : UInt32} :
    unit ∈ (List.range count).map Nat.toUInt32 ↔ unit.toNat < count := by
  rw [List.mem_map]
  constructor
  · rintro ⟨number, isNumber, rfl⟩
    have small := List.mem_range.mp isNumber
    rwa [UInt32.toNat_ofNat_of_lt' (Nat.lt_of_lt_of_le small enough)]
  · intro small
    exact ⟨unit.toNat, List.mem_range.mpr small, UInt32.ofNat_toNat⟩

variable {δ : Type} [ShaderDevice δ]

/-- The call that sets a sampler to its unit, if it has a location. -/
def upload? (program : ProgramId) (device : δ) (entry : SamplerEntry) : Option DeviceCall :=
  (ShaderDevice.uniformLocation device program entry.name).map fun location =>
    .setUniform location (.int 1 [entry.unit.toInt32])

def uploads (program : ProgramId) (device : δ) (entries : List SamplerEntry) :
    List DeviceCall :=
  gather (fun front => upload? program (afterSamplers program device front)) entries

theorem uploads_concat (program : ProgramId) (device : δ) (entries : List SamplerEntry)
    (last : SamplerEntry) :
    uploads program device (entries ++ [last]) =
      uploads program device entries ++
        (upload? program (afterSamplers program device entries) last).toList :=
  gather_concat _ entries last

theorem afterSampler_recorded (program : ProgramId) (recorded : Recorded δ)
    (entry : SamplerEntry) :
    afterSampler program recorded entry =
      ⟨afterSampler program recorded.device entry,
        recorded.calls ++ (upload? program recorded.device entry).toList⟩ := by
  have asked : ShaderDevice.uniformLocation recorded program entry.name =
      ShaderDevice.uniformLocation recorded.device program entry.name := rfl
  unfold afterSampler upload?
  rw [asked]
  cases ShaderDevice.uniformLocation recorded.device program entry.name with
  | none => rw [Option.map_none, Option.toList_none, List.append_nil]
  | some location => rfl

theorem afterSamplers_recorded (program : ProgramId) (recorded : Recorded δ)
    (entries : List SamplerEntry) :
    afterSamplers program recorded entries =
      ⟨afterSamplers program recorded.device entries,
        recorded.calls ++ uploads program recorded.device entries⟩ := by
  induction entries using List.reverseRecOn with
  | nil => simp [afterSamplers, uploads, gather]
  | append_singleton entries last ih =>
      have concat : ∀ {ε : Type} [ShaderDevice ε] (device : ε),
          afterSamplers program device (entries ++ [last]) =
            afterSampler program (afterSamplers program device entries) last :=
        fun device => List.foldl_append ..
      rw [concat, concat, ih, afterSampler_recorded, uploads_concat, List.append_assoc]

/-- Samplers have their units in the order in which they are reported, the driver was told
so while the program was current, and the table gives the units by name. -/
structure AssignsUnits (program : ProgramId) (before after : Recorded δ) (table : Reflection)
    (entries : List SamplerEntry) : Prop where
  names : ∃ namesOf : ActiveUniform → List String,
    (∀ uniform, StandsFor uniform (namesOf uniform)) ∧
    entries.map (·.name) = (enumerated program before.device).flatMap namesOf
  units : entries.map (·.unit) = (List.range entries.length).map Nat.toUInt32
  /-- A unit is a 32-bit word.  As long as these suffice, none is given twice and none is left
  out. -/
  distinct : entries.length ≤ UInt32.size → (entries.map (·.unit)).Nodup ∧
    ∀ unit : UInt32, unit ∈ entries.map (·.unit) ↔ unit.toNat < entries.length
  calls : after.calls = before.calls ++ .useProgram (some program) ::
    uploads program (selected program before.device) entries
  /-- A driver whose locations stay is asked as at the beginning. -/
  steady : Steady δ program → ∀ front name,
    ShaderDevice.uniformLocation (afterSamplers program (selected program before.device) front)
      program name = ShaderDevice.uniformLocation (selected program before.device) program name
  listed : table.samplers.Perm entries
  sorted : table.samplers.Pairwise fun first second =>
    Text.bytes first.name ≤ Text.bytes second.name
  missing : ∀ name, table.samplerUnit? name = none ↔ ∀ entry ∈ entries, entry.name ≠ name
  found : ∀ name unit, table.samplerUnit? name = some unit →
    ∃ entry ∈ entries, entry.name = name ∧ entry.unit = unit

theorem samplerUnit?_eq_none_iff {table : Reflection}
    (sorted : SortedNames.Sorted SamplerEntry.name table.samplers) {name : String} :
    table.samplerUnit? name = none ↔ ∀ entry ∈ table.samplers, entry.name ≠ name := by
  rw [← sorted.position?_eq_none_iff, samplerUnit?]
  cases found : SortedNames.position? SamplerEntry.name table.samplers name with
  | none => simp
  | some position =>
      obtain ⟨-, entry, isEntry, -⟩ := SortedNames.position?_eq_some_iff.mp found
      simp [isEntry]

theorem exists_of_samplerUnit?_eq_some {table : Reflection} {name : String} {unit : UInt32}
    (found : table.samplerUnit? name = some unit) :
    ∃ entry ∈ table.samplers, entry.name = name ∧ entry.unit = unit := by
  obtain ⟨position, isPosition, isUnit⟩ := Option.bind_eq_some_iff.mp found
  obtain ⟨-, entry, isEntry, isName⟩ := SortedNames.position?_eq_some_iff.mp isPosition
  rw [isEntry] at isUnit
  exact ⟨entry, List.mem_of_getElem? isEntry, isName, Option.some.inj isUnit⟩

/-- Looking at the uniforms of a program selects it and sets its samplers.  No other call is
made. -/
theorem calls_build (program : ProgramId) (recorded : Recorded δ) :
    ((build program).run recorded).state.calls =
      recorded.calls ++ .useProgram (some program) ::
        uploads program (selected program recorded.device)
          (samplerEntries program recorded.device) := by
  have isSelected : selected program recorded = ⟨selected program recorded.device,
      recorded.calls ++ [.useProgram (some program)]⟩ := rfl
  have reported : samplerEntries program recorded = samplerEntries program recorded.device := rfl
  rw [(run_build program recorded).2, isSelected, reported, afterSamplers_recorded]
  exact List.append_assoc ..

/-- Looking at the uniforms of a program gives its samplers the units from zero on, whatever
the driver answers. -/
theorem build_assigns_units (program : ProgramId) (recorded : Recorded δ) :
    ∃ entries, AssignsUnits program recorded ((build program).run recorded).state
      ((build program).run recorded).value entries := by
  have isTable : ((build program).run recorded).value.samplers =
      SortedNames.sort SamplerEntry.name (samplerEntries program recorded.device) := by
    rw [(run_build program recorded).1]
    rfl
  have sameEntries := SortedNames.sort_perm SamplerEntry.name
    (samplerEntries program recorded.device)
  have inOrder := SortedNames.sorted_sort SamplerEntry.name
    (samplerEntries program recorded.device)
  rw [← isTable] at sameEntries inOrder
  have isUnits : (samplerEntries program recorded.device).map (·.unit) =
      (List.range (samplerEntries program recorded.device).length).map Nat.toUInt32 := by
    rw [samplerEntries, map_unit_numbered, length_numbered]
  refine ⟨samplerEntries program recorded.device, ?_⟩
  constructor
  · exact ⟨samplersOf, standsFor_samplersOf, map_name_numbered 0 _⟩
  · exact isUnits
  · intro enough
    rw [isUnits]
    exact ⟨nodup_units enough, fun unit => mem_units_iff enough⟩
  · exact calls_build program recorded
  · exact fun steady front name => steady.uniformLocation_afterSamplers _ front name
  · exact sameEntries
  · exact inOrder.bytes
  · intro name
    rw [samplerUnit?_eq_none_iff inOrder]
    exact forall_congr' fun entry => imp_congr_left sameEntries.mem_iff
  · intro name unit found
    obtain ⟨entry, member, isEntry⟩ := exists_of_samplerUnit?_eq_some found
    exact ⟨entry, sameEntries.mem_iff.mp member, isEntry⟩

section Overfull

/-- An array of samplers that is as long as it can be. -/
def longArray (base : String) : ActiveUniform :=
  ⟨base ++ "[0]", Int32.maxValue, .sampler2D⟩

/-- A driver that reports more samplers than there are units. -/
def overfullDevice : Scripted Software.Device :=
  { device := {}, script := { uniforms := some [longArray "a", longArray "b", longArray "c"] } }

theorem samplersOf_longArray {base : String} (free : isReserved (base ++ "[0]") = false) :
    samplersOf (longArray base) = (List.range 2147483647).map fun element =>
      base ++ "[" ++ Nat.repr element ++ "]" := by
  have isArray : arrayName? (longArray base).name = some base := arrayName?_eq_some_iff.mpr rfl
  have size : (longArray base).size.toInt.toNat = 2147483647 := rfl
  have free : isReserved (longArray base).name = false := free
  have isSampler : (longArray base).type.isSampler = true := rfl
  have several : 1 < (longArray base).size := by
    change 1 < Int32.maxValue
    decide
  rw [samplersOf, free, if_neg Bool.false_ne_true, if_pos isSampler, samplerNames, isArray]
  dsimp only
  rw [if_pos several, size]

theorem length_longArray (base : String) (free : isReserved (base ++ "[0]") = false) :
    (samplersOf (longArray base)).length = 2147483647 := by
  rw [samplersOf_longArray free, List.length_map, List.length_range]

theorem getElem?_longArray {base : String} (free : isReserved (base ++ "[0]") = false)
    {index : Nat} (inside : index < 2147483647) :
    (samplersOf (longArray base))[index]? = some (base ++ "[" ++ Nat.repr index ++ "]") := by
  rw [samplersOf_longArray free, List.getElem?_map, List.getElem?_range inside, Option.map_some]

theorem mem_numbered {names : List String} {name : String} {index : Nat}
    (found : names[index]? = some name) : ⟨name, index.toUInt32⟩ ∈ numbered 0 names := by
  refine List.mem_map.mpr ⟨(name, index), ?_, rfl⟩
  rw [List.mem_zipIdx_iff_getElem?]
  exact found

theorem mem_samplers_build {program : ProgramId} {device : δ} {name : String} {index : Nat}
    (found : ((enumerated program device).flatMap samplersOf)[index]? = some name) :
    ⟨name, index.toUInt32⟩ ∈ ((build program).run device).value.samplers := by
  rw [(run_build program device).1]
  exact (SortedNames.sort_perm SamplerEntry.name _).mem_iff.mpr (mem_numbered found)

/-- The driver's samplers are those of its three arrays. -/
theorem samplers_overfullDevice :
    (enumerated ⟨1⟩ overfullDevice).flatMap samplersOf =
      samplersOf (longArray "a") ++ (samplersOf (longArray "b") ++ samplersOf (longArray "c")) := by
  have reported : enumerated ⟨1⟩ overfullDevice =
      [longArray "a", longArray "b", longArray "c"] := rfl
  rw [reported, List.flatMap_cons, List.flatMap_cons, List.flatMap_cons, List.flatMap_nil,
    List.append_nil]

/-- Behind 2³² samplers the units start from zero again. -/
theorem overfull_units_repeat :
    ⟨"a[0]", 0⟩ ∈ ((build ⟨1⟩).run overfullDevice).value.samplers ∧
      ⟨"c[2]", 0⟩ ∈ ((build ⟨1⟩).run overfullDevice).value.samplers ∧
      ¬(((build ⟨1⟩).run overfullDevice).value.samplers.map (·.unit)).Nodup := by
  have lengths := length_longArray "a" (by decide)
  have lengths' := length_longArray "b" (by decide)
  have first : ((enumerated ⟨1⟩ overfullDevice).flatMap samplersOf)[0]? = some "a[0]" := by
    rw [samplers_overfullDevice, List.getElem?_append_left (by omega),
      getElem?_longArray (by decide) (by omega)]
    rfl
  have again : ((enumerated ⟨1⟩ overfullDevice).flatMap samplersOf)[4294967296]? =
      some "c[2]" := by
    rw [samplers_overfullDevice, List.getElem?_append_right (by omega),
      List.getElem?_append_right (by omega), lengths, lengths',
      getElem?_longArray (by decide) (by omega)]
    rfl
  have isFirst := mem_samplers_build first
  have isAgain := mem_samplers_build again
  refine ⟨isFirst, isAgain, fun distinct => ?_⟩
  have same := List.inj_on_of_nodup_map distinct isFirst isAgain rfl
  exact absurd (congrArg SamplerEntry.name same) (by decide)

end Overfull

end ShaderPipeline.Reflection
