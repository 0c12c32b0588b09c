/-!
# Lists sorted by name

Tables of named entries are kept sorted, so that a name is found by halving.
Entries with equal names keep the order in which they came; of those, a search
settles on the one that its halving meets.
-/

namespace ShaderPipeline.SortedNames

variable {α : Type} (nameOf : α → String)

def sort (entries : List α) : List α :=
  entries.mergeSort fun first second => decide (nameOf first ≤ nameOf second)

/-- The name at a position comes behind `name`. -/
def isBehind (entries : List α) (name : String) (position : Nat) : Bool :=
  match entries[position]? with
  | some entry => decide (name < nameOf entry)
  | none => true

/-- Halves the `size` positions from `base` on until one is left.  The name of
the position that is left is not behind `name` if any of them is not. -/
def narrow (entries : List α) (name : String) (base size : Nat) : Nat :=
  if 1 < size then
    if isBehind nameOf entries name (base + size / 2) then
      narrow entries name base (size - size / 2)
    else narrow entries name (base + size / 2) (size - size / 2)
  else base
termination_by size

/-- The position of an entry with the given name. -/
def position? (entries : List α) (name : String) : Option Nat :=
  let position := narrow nameOf entries name 0 entries.length
  match entries[position]? with
  | some entry => if nameOf entry = name then some position else none
  | none => none

end ShaderPipeline.SortedNames
