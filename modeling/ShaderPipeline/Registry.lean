/-!
# Registries

A registry is a finite map that keeps its entries in a list, the newest first.
What it maps a key to is told by `find?`; the lemmas say what every operation
does to that.
-/

namespace ShaderPipeline

structure Registry (κ α : Type) where
  entries : List (κ × α) := []
deriving Repr, DecidableEq

namespace Registry

variable {κ α : Type} [DecidableEq κ]

def findIn (key : κ) : List (κ × α) → Option α
  | [] => none
  | (other, value) :: rest => if other = key then some value else findIn key rest

def find? (registry : Registry κ α) (key : κ) : Option α :=
  findIn key registry.entries

def contains (registry : Registry κ α) (key : κ) : Bool :=
  (registry.find? key).isSome

def erase (registry : Registry κ α) (key : κ) : Registry κ α :=
  ⟨registry.entries.filter fun entry => entry.1 ≠ key⟩

/-- Puts a value under a key, in place of an older one. -/
def insert (registry : Registry κ α) (key : κ) (value : α) : Registry κ α :=
  ⟨(key, value) :: (registry.erase key).entries⟩

/-- Changes the value under a key, if there is one. -/
def adjust (registry : Registry κ α) (key : κ) (change : α → α) : Registry κ α :=
  ⟨registry.entries.map fun entry =>
    if entry.1 = key then (entry.1, change entry.2) else entry⟩

def size (registry : Registry κ α) : Nat :=
  registry.entries.length

@[simp] theorem find?_empty (key : κ) : (({} : Registry κ α)).find? key = none := rfl

theorem find?_erase (registry : Registry κ α) (key other : κ) :
    (registry.erase key).find? other = if other = key then none else registry.find? other := by
  obtain ⟨entries⟩ := registry
  simp only [find?, erase]
  induction entries with
  | nil => simp [findIn]
  | cons entry rest ih => grind [findIn]

theorem find?_insert (registry : Registry κ α) (key other : κ) (value : α) :
    (registry.insert key value).find? other =
      if other = key then some value else registry.find? other := by
  have erased := find?_erase registry key other
  simp only [find?, insert, findIn] at erased ⊢
  grind

theorem find?_adjust (registry : Registry κ α) (key other : κ) (change : α → α) :
    (registry.adjust key change).find? other =
      if other = key then (registry.find? other).map change else registry.find? other := by
  obtain ⟨entries⟩ := registry
  simp only [find?, adjust]
  induction entries with
  | nil => simp [findIn]
  | cons entry rest ih => grind [findIn]

end Registry

end ShaderPipeline
