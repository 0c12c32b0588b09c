import ShaderPipeline.Registry
import Mathlib.Data.List.Basic

/-!
# The keys of a registry
-/

namespace ShaderPipeline.Registry

variable {κ α : Type} [DecidableEq κ]

omit [DecidableEq κ] in
/-- The keys of a registry, the newest first. -/
def keys (registry : Registry κ α) : List κ :=
  registry.entries.map (·.1)

theorem mem_keys_iff {registry : Registry κ α} {key : κ} :
    key ∈ registry.keys ↔ (registry.find? key).isSome := by
  obtain ⟨entries⟩ := registry
  simp only [keys, find?]
  induction entries with
  | nil => simp [findIn]
  | cons entry rest ih =>
      obtain ⟨other, value⟩ := entry
      by_cases same : other = key
      · simp [findIn, same]
      · simp [findIn, same, Ne.symm same, ih]

theorem contains_iff_mem_keys {registry : Registry κ α} {key : κ} :
    registry.contains key ↔ key ∈ registry.keys := by
  rw [mem_keys_iff]
  rfl

theorem filter_ne_of_notMem {keys : List κ} {key : κ} (absent : key ∉ keys) :
    keys.filter (· ≠ key) = keys := by
  refine List.filter_eq_self.mpr ?_
  intro other member
  simp only [ne_eq, decide_not, Bool.not_eq_eq_eq_not, Bool.not_true, decide_eq_false_iff_not]
  rintro rfl
  exact absent member

@[simp] theorem keys_erase (registry : Registry κ α) (key : κ) :
    (registry.erase key).keys = registry.keys.filter (· ≠ key) := by
  simp only [keys, erase, List.filter_map]
  rfl

@[simp] theorem keys_insert (registry : Registry κ α) (key : κ) (value : α) :
    (registry.insert key value).keys = key :: registry.keys.filter (· ≠ key) := by
  have erased := keys_erase registry key
  simp only [keys, insert, List.map_cons] at erased ⊢
  rw [erased]

@[simp] theorem keys_adjust (registry : Registry κ α) (key : κ) (change : α → α) :
    (registry.adjust key change).keys = registry.keys := by
  simp only [keys, adjust, List.map_map]
  refine List.map_congr_left fun entry _ => ?_
  simp only [Function.comp_apply]
  split <;> rfl

omit [DecidableEq κ] in
theorem size_eq_length_keys (registry : Registry κ α) :
    registry.size = registry.keys.length := by
  simp [size, keys]

end ShaderPipeline.Registry
