import ShaderPipeline.ShaderError

/-!
# Tables of programs

A table hands out a handle for every value that it takes in.  The slot of a
value that was taken out is used again under a new generation, the slot that
was freed last first.
-/

namespace ShaderPipeline

/-- A place for one value. -/
structure TableSlot (α : Type) where
  /-- The handle that was last given out for the place. -/
  handle : ProgramHandle
  value : Option α
deriving Repr, DecidableEq

/-- Values under handles. -/
structure ProgramTable (α : Type) where
  slots : List (TableSlot α) := []
  /-- The places without a value, the one freed last in front. -/
  freed : List UInt32 := []
deriving Repr, DecidableEq

namespace ProgramTable

variable {α : Type}

/-- The slot that a handle was given out for, if no later handle was. -/
def slot? (table : ProgramTable α) (handle : ProgramHandle) : Option (TableSlot α) :=
  match table.slots[handle.index.toNat]? with
  | some slot => if slot.handle.generation = handle.generation then some slot else none
  | none => none

def get? (table : ProgramTable α) (handle : ProgramHandle) : Option α :=
  (table.slot? handle).bind (·.value)

/-- Puts a value into a new slot. -/
def append (table : ProgramTable α) (value : α) : ProgramHandle × ProgramTable α :=
  let handle : ProgramHandle := ⟨table.slots.length.toUInt32, 0⟩
  (handle, { table with slots := table.slots ++ [⟨handle, some value⟩] })

/-- Takes a value in, in a freed slot or in a new one. -/
def insert (table : ProgramTable α) (value : α) : ProgramHandle × ProgramTable α :=
  match table.freed with
  | [] => table.append value
  | index :: freed =>
      match table.slots[index.toNat]? with
      | some slot =>
          let handle := { slot.handle with generation := slot.handle.generation + 1 }
          (handle,
            { slots := table.slots.set index.toNat ⟨handle, some value⟩
              freed := freed })
      | none => { table with freed := freed }.append value

/-- Takes the value under a handle out and frees its slot. -/
def remove? (table : ProgramTable α) (handle : ProgramHandle) :
    Option (α × ProgramTable α) :=
  (table.slot? handle).bind fun slot => slot.value.map fun value =>
    (value,
      { slots := table.slots.set handle.index.toNat { slot with value := none }
        freed := handle.index :: table.freed })

def live (table : ProgramTable α) : Nat :=
  table.slots.length - table.freed.length

/-- The handles of all values, in the order of their slots. -/
def handles (table : ProgramTable α) : List ProgramHandle :=
  table.slots.filterMap fun slot => slot.value.map fun _ => slot.handle

end ProgramTable

end ShaderPipeline
