import ShaderPipeline.Program.Table
import Mathlib.Data.List.Basic
import Mathlib.Data.List.Nodup

/-!
# Tables of programs hold what was put into them

A table is well formed when its free list names the empty slots, each once, and every
slot carries its own number.  Every operation keeps that, so a slot that is used again was
empty, and what the other handles reach is not touched.
-/

namespace ShaderPipeline.ProgramTable

variable {α : Type}

/-- The values of a table, in the order of their slots. -/
def values (table : ProgramTable α) : List α :=
  table.slots.filterMap (·.value)

/-- The free list names the empty slots, and the handle of a slot has its number. -/
structure WellFormed (table : ProgramTable α) : Prop where
  freed_nodup : table.freed.Nodup
  empty_iff : ∀ position slot, table.slots[position]? = some slot →
    (slot.value = none ↔ ∃ index ∈ table.freed, index.toNat = position)
  freed_lt : ∀ index ∈ table.freed, index.toNat < table.slots.length
  count : table.values.length + table.freed.length = table.slots.length
  indexed : ∀ (position : Nat) (slot : TableSlot α), table.slots[position]? = some slot →
    slot.handle.index = position.toUInt32

theorem wellFormed_empty : ({} : ProgramTable α).WellFormed where
  freed_nodup := List.nodup_nil
  empty_iff := by simp
  freed_lt := by simp
  count := rfl
  indexed := by simp

theorem slot?_eq_some_iff {table : ProgramTable α} {handle : ProgramHandle}
    {slot : TableSlot α} :
    table.slot? handle = some slot ↔
      table.slots[handle.index.toNat]? = some slot ∧
        slot.handle.generation = handle.generation := by
  unfold slot?
  cases atPlace : table.slots[handle.index.toNat]? with
  | none => simp
  | some other =>
      simp only [Option.ite_none_right_eq_some, Option.some.injEq]
      constructor
      · rintro ⟨sameGeneration, rfl⟩
        exact ⟨rfl, sameGeneration⟩
      · rintro ⟨rfl, sameGeneration⟩
        exact ⟨sameGeneration, rfl⟩

theorem get?_eq_some_iff {table : ProgramTable α} {handle : ProgramHandle} {value : α} :
    table.get? handle = some value ↔
      ∃ slot, table.slots[handle.index.toNat]? = some slot ∧
        slot.handle.generation = handle.generation ∧ slot.value = some value := by
  simp only [get?, Option.bind_eq_some_iff, slot?_eq_some_iff, and_assoc]

theorem mem_values_of_get? {table : ProgramTable α} {handle : ProgramHandle} {value : α}
    (found : table.get? handle = some value) : value ∈ table.values := by
  obtain ⟨slot, atPlace, -, full⟩ := get?_eq_some_iff.mp found
  exact List.mem_filterMap.mpr ⟨slot, List.mem_of_getElem? atPlace, full⟩

/-- Filling an empty place adds one value. -/
private theorem filterMap_set_perm {β : Type} (view : α → Option β) {entries : List α}
    {position : Nat} {before after : α} {value : β}
    (atPlace : entries[position]? = some before)
    (wasEmpty : view before = none) (isFull : view after = some value) :
    ((entries.set position after).filterMap view).Perm (value :: entries.filterMap view) := by
  induction entries generalizing position with
  | nil => simp at atPlace
  | cons first rest ih =>
      cases position with
      | zero =>
          simp only [List.getElem?_cons_zero, Option.some.injEq] at atPlace
          subst atPlace
          simp [wasEmpty, isFull]
      | succ position =>
          simp only [List.getElem?_cons_succ] at atPlace
          have inRest := ih atPlace
          simp only [List.set_cons_succ, List.filterMap_cons]
          split
          · exact inRest
          · exact (inRest.cons _).trans (List.Perm.swap _ _ _)

/-- Emptying a full place takes one value away. -/
private theorem perm_filterMap_set {β : Type} (view : α → Option β) {entries : List α}
    {position : Nat} {before after : α} {value : β}
    (atPlace : entries[position]? = some before)
    (wasFull : view before = some value) (isEmpty : view after = none) :
    (entries.filterMap view).Perm (value :: (entries.set position after).filterMap view) := by
  obtain ⟨inBounds, isBefore⟩ := List.getElem?_eq_some_iff.mp atPlace
  have restored : (entries.set position after).set position before = entries := by
    rw [List.set_set, ← isBefore, List.set_getElem_self]
  have emptied : (entries.set position after)[position]? = some after := by
    simp [inBounds]
  have filled := filterMap_set_perm view emptied isEmpty wasFull
  rwa [restored] at filled

theorem WellFormed.handle_eq {table : ProgramTable α} (wellFormed : table.WellFormed)
    {index : UInt32} {slot : TableSlot α} (atPlace : table.slots[index.toNat]? = some slot) :
    slot.handle = ⟨index, slot.handle.generation⟩ := by
  have isIndex : slot.handle.index = index :=
    (wellFormed.indexed _ slot atPlace).trans UInt32.ofNat_toNat
  rw [← isIndex]

/-- A value goes into a new slot only if no slot is empty. -/
theorem insert_cases {table : ProgramTable α} (wellFormed : table.WellFormed) (value : α) :
    (table.freed = [] ∧ table.insert value = table.append value) ∨
      ∃ index freed generation, table.freed = index :: freed ∧
        table.slots[index.toNat]? = some ⟨⟨index, generation⟩, none⟩ ∧
        table.insert value =
          (⟨index, generation + 1⟩,
            { slots := table.slots.set index.toNat ⟨⟨index, generation + 1⟩, some value⟩
              freed := freed }) := by
  unfold insert
  split
  · next noneFree => exact Or.inl ⟨noneFree, rfl⟩
  · next index freed firstFree =>
      have inBounds : index.toNat < table.slots.length :=
        wellFormed.freed_lt index (by simp [firstFree])
      obtain ⟨slot, atPlace⟩ : ∃ slot, table.slots[index.toNat]? = some slot :=
        ⟨_, List.getElem?_eq_getElem inBounds⟩
      have isEmpty : slot.value = none :=
        (wellFormed.empty_iff _ _ atPlace).mpr ⟨index, by simp [firstFree], rfl⟩
      have isHandle := wellFormed.handle_eq atPlace
      obtain ⟨handle, content⟩ := slot
      obtain ⟨own, generation⟩ := handle
      simp only [ProgramHandle.mk.injEq, and_true] at isEmpty isHandle
      subst isEmpty isHandle
      exact Or.inr ⟨own, freed, generation, firstFree, atPlace, by simp [atPlace]⟩

theorem values_insert_perm {table : ProgramTable α} (wellFormed : table.WellFormed)
    (value : α) : (table.insert value).2.values.Perm (value :: table.values) := by
  rcases insert_cases wellFormed value with
    ⟨-, appended⟩ | ⟨index, freed, generation, -, atPlace, reused⟩
  · rw [appended]
    simp [append, values, List.filterMap_append]
  · rw [reused]
    exact filterMap_set_perm _ atPlace rfl rfl

theorem length_slots_insert_le {table : ProgramTable α} (wellFormed : table.WellFormed)
    (value : α) : (table.insert value).2.slots.length ≤ table.slots.length + 1 := by
  rcases insert_cases wellFormed value with
    ⟨-, appended⟩ | ⟨index, freed, generation, -, atPlace, reused⟩
  · rw [appended]
    simp [append]
  · rw [reused]
    simp

theorem wellFormed_insert {table : ProgramTable α} (wellFormed : table.WellFormed)
    (value : α) : (table.insert value).2.WellFormed := by
  have perm := (values_insert_perm wellFormed value).length_eq
  have count := wellFormed.count
  rcases insert_cases wellFormed value with
    ⟨noneFree, appended⟩ | ⟨index, freed, generation, firstFree, atPlace, reused⟩
  · rw [appended] at perm ⊢
    refine ⟨wellFormed.freed_nodup, ?_, ?_, ?_, ?_⟩
    · intro position slot found
      simp only [append, noneFree, List.not_mem_nil, false_and, exists_false, iff_false] at found ⊢
      rw [List.getElem?_append] at found
      split at found
      · have isEmpty := wellFormed.empty_iff position slot found
        simpa [noneFree] using isEmpty
      · have atEnd := List.mem_of_getElem? found
        simp only [List.mem_singleton] at atEnd
        simp [atEnd]
    · simp [append, noneFree]
    · simp only [append, List.length_append, List.length_cons, List.length_nil] at perm ⊢
      omega
    · intro position slot found
      simp only [append] at found
      rcases Nat.lt_or_ge position table.slots.length with inside | behind
      · rw [List.getElem?_append_left inside] at found
        exact wellFormed.indexed position slot found
      · rw [List.getElem?_append_right behind, List.getElem?_singleton] at found
        split at found
        · next atEnd =>
            cases found
            rw [Nat.le_antisymm (Nat.sub_eq_zero_iff_le.mp atEnd) behind]
        · cases found
  · rw [reused] at perm ⊢
    have distinct := wellFormed.freed_nodup
    rw [firstFree, List.nodup_cons] at distinct
    have inBounds : index.toNat < table.slots.length := (List.getElem?_eq_some_iff.mp atPlace).1
    refine ⟨distinct.2, ?_, ?_, ?_, ?_⟩
    · intro position slot found
      by_cases same : index.toNat = position
      · subst same
        simp only [List.getElem?_set_self inBounds, Option.some.injEq] at found
        subst found
        simp only [reduceCtorEq, false_iff, not_exists, not_and]
        intro other member sameNumber
        exact distinct.1 (UInt32.toNat_inj.mp sameNumber ▸ member)
      · rw [List.getElem?_set_ne same] at found
        have isEmpty := wellFormed.empty_iff position slot found
        simpa [firstFree, same] using isEmpty
    · intro other member
      simpa using wellFormed.freed_lt other (by simp [firstFree, member])
    · simp only [List.length_cons, List.length_set, firstFree] at perm count ⊢
      omega
    · intro position slot found
      by_cases same : index.toNat = position
      · subst same
        simp only [List.getElem?_set_self inBounds, Option.some.injEq] at found
        subst found
        have isIndex : index = index.toNat.toUInt32 := wellFormed.indexed _ _ atPlace
        exact isIndex
      · rw [List.getElem?_set_ne same] at found
        exact wellFormed.indexed position slot found

/-- Taking a value in does not touch what is there. -/
theorem get?_insert_of_get? {table : ProgramTable α} (wellFormed : table.WellFormed)
    {handle : ProgramHandle} {value : α} (added : α) (found : table.get? handle = some value) :
    (table.insert added).2.get? handle = some value := by
  obtain ⟨slot, held, sameGeneration, full⟩ := get?_eq_some_iff.mp found
  have inBounds := (List.getElem?_eq_some_iff.mp held).1
  refine get?_eq_some_iff.mpr ⟨slot, ?_, sameGeneration, full⟩
  rcases insert_cases wellFormed added with
    ⟨-, appended⟩ | ⟨index, freed, generation, -, atPlace, reused⟩
  · rw [appended]
    simp only [append]
    rw [List.getElem?_append_left inBounds, held]
  · rw [reused]
    have different : index.toNat ≠ handle.index.toNat := by
      intro same
      rw [same, held] at atPlace
      cases atPlace
      cases full
    simp only
    rw [List.getElem?_set_ne different, held]

/-- The handle of a value reaches it, as long as the slots can be numbered. -/
theorem get?_insert_self {table : ProgramTable α} (wellFormed : table.WellFormed) (value : α)
    (numbered : table.slots.length < UInt32.size) :
    (table.insert value).2.get? (table.insert value).1 = some value := by
  refine get?_eq_some_iff.mpr ⟨⟨(table.insert value).1, some value⟩, ?_, rfl, rfl⟩
  rcases insert_cases wellFormed value with
    ⟨-, appended⟩ | ⟨index, freed, generation, -, atPlace, reused⟩
  · rw [appended]
    have exactIndex : table.slots.length.toUInt32.toNat = table.slots.length :=
      UInt32.toNat_ofNat_of_lt' numbered
    simp [append, exactIndex]
  · rw [reused]
    have inBounds := (List.getElem?_eq_some_iff.mp atPlace).1
    simp [inBounds]

/-- A value that is taken out was under the handle, and its slot is empty then. -/
theorem remove?_cases {table rest : ProgramTable α} {handle : ProgramHandle} {value : α}
    (removed : table.remove? handle = some (value, rest)) :
    table.get? handle = some value ∧
      ∃ slot, table.slots[handle.index.toNat]? = some slot ∧
        slot.handle.generation = handle.generation ∧ slot.value = some value ∧
        rest =
          { slots := table.slots.set handle.index.toNat { slot with value := none }
            freed := handle.index :: table.freed } := by
  simp only [remove?, Option.bind_eq_some_iff, Option.map_eq_some_iff, Prod.mk.injEq] at removed
  obtain ⟨slot, isSlot, found, full, rfl, rfl⟩ := removed
  obtain ⟨atPlace, sameGeneration⟩ := slot?_eq_some_iff.mp isSlot
  exact ⟨get?_eq_some_iff.mpr ⟨slot, atPlace, sameGeneration, full⟩, slot, atPlace,
    sameGeneration, full, rfl⟩

theorem remove?_eq_none_iff {table : ProgramTable α} {handle : ProgramHandle} :
    table.remove? handle = none ↔ table.get? handle = none := by
  simp [remove?, get?]

theorem exists_remove? {table : ProgramTable α} {handle : ProgramHandle} {value : α}
    (found : table.get? handle = some value) : ∃ rest, table.remove? handle = some (value, rest) := by
  obtain ⟨slot, isSlot, full⟩ := Option.bind_eq_some_iff.mp found
  simp [remove?, isSlot, full]

theorem get?_remove? {table rest : ProgramTable α} {handle : ProgramHandle} {value : α}
    (removed : table.remove? handle = some (value, rest)) (other : ProgramHandle) :
    rest.get? other = if other = handle then none else table.get? other := by
  obtain ⟨-, slot, atPlace, sameGeneration, -, rfl⟩ := remove?_cases removed
  have inBounds := (List.getElem?_eq_some_iff.mp atPlace).1
  ext content
  rw [get?_eq_some_iff]
  simp only
  by_cases same : handle.index.toNat = other.index.toNat
  · rw [← same, List.getElem?_set_self inBounds]
    split
    · simp
    · next different =>
        -- The slot has one generation, which is that of the handle.
        have otherGeneration : slot.handle.generation ≠ other.generation := by
          intro isOther
          apply different
          obtain ⟨index, generation⟩ := handle
          obtain ⟨otherIndex, otherGeneration⟩ := other
          have isIndex : otherIndex = index := (UInt32.toNat_inj.mp same).symm
          have isGeneration : otherGeneration = generation := isOther.symm.trans sameGeneration
          rw [isIndex, isGeneration]
        rw [get?_eq_some_iff, ← same, atPlace]
        simp [otherGeneration]
  · rw [List.getElem?_set_ne same, if_neg (by rintro rfl; exact same rfl), get?_eq_some_iff]

theorem values_remove?_perm {table rest : ProgramTable α} {handle : ProgramHandle} {value : α}
    (removed : table.remove? handle = some (value, rest)) :
    table.values.Perm (value :: rest.values) := by
  obtain ⟨-, slot, atPlace, -, full, rfl⟩ := remove?_cases removed
  exact perm_filterMap_set _ atPlace full rfl

theorem length_slots_remove? {table rest : ProgramTable α} {handle : ProgramHandle} {value : α}
    (removed : table.remove? handle = some (value, rest)) :
    rest.slots.length = table.slots.length := by
  obtain ⟨-, slot, -, -, -, rfl⟩ := remove?_cases removed
  simp

theorem wellFormed_remove? {table rest : ProgramTable α} {handle : ProgramHandle} {value : α}
    (wellFormed : table.WellFormed) (removed : table.remove? handle = some (value, rest)) :
    rest.WellFormed := by
  have perm := (values_remove?_perm removed).length_eq
  have count := wellFormed.count
  obtain ⟨-, held, found, -, full, rfl⟩ := remove?_cases removed
  have inBounds := (List.getElem?_eq_some_iff.mp found).1
  have notFree : handle.index ∉ table.freed := by
    intro member
    have isEmpty := (wellFormed.empty_iff _ _ found).mpr ⟨_, member, rfl⟩
    rw [full] at isEmpty
    cases isEmpty
  refine ⟨List.nodup_cons.mpr ⟨notFree, wellFormed.freed_nodup⟩, ?_, ?_, ?_, ?_⟩
  · intro position slot atPlace
    by_cases same : handle.index.toNat = position
    · subst same
      simp only [List.getElem?_set_self inBounds, Option.some.injEq] at atPlace
      subst atPlace
      simp
    · rw [List.getElem?_set_ne same] at atPlace
      have isEmpty := wellFormed.empty_iff position slot atPlace
      simpa [same] using isEmpty
  · intro index member
    rcases List.mem_cons.mp member with rfl | member
    · simpa using inBounds
    · simpa using wellFormed.freed_lt index member
  · simp only [List.length_cons, List.length_set] at perm ⊢
    omega
  · intro position slot atPlace
    by_cases same : handle.index.toNat = position
    · subst same
      simp only [List.getElem?_set_self inBounds, Option.some.injEq] at atPlace
      subst atPlace
      exact wellFormed.indexed _ held found
    · rw [List.getElem?_set_ne same] at atPlace
      exact wellFormed.indexed position slot atPlace

theorem live_eq_length_values {table : ProgramTable α} (wellFormed : table.WellFormed) :
    table.live = table.values.length := by
  have count := wellFormed.count
  unfold live
  omega

theorem live_insert {table : ProgramTable α} (wellFormed : table.WellFormed) (value : α) :
    (table.insert value).2.live = table.live + 1 := by
  rw [live_eq_length_values (wellFormed_insert wellFormed value),
    live_eq_length_values wellFormed, (values_insert_perm wellFormed value).length_eq,
    List.length_cons]

theorem live_remove? {table rest : ProgramTable α} {handle : ProgramHandle} {value : α}
    (wellFormed : table.WellFormed) (removed : table.remove? handle = some (value, rest)) :
    table.live = rest.live + 1 := by
  rw [live_eq_length_values (wellFormed_remove? wellFormed removed),
    live_eq_length_values wellFormed, (values_remove?_perm removed).length_eq,
    List.length_cons]

theorem length_handles (table : ProgramTable α) :
    table.handles.length = table.values.length := by
  rw [values, handles, List.length_filterMap_eq_countP, List.length_filterMap_eq_countP]
  congr 1
  funext slot
  simp

theorem WellFormed.toNat_index {table : ProgramTable α} (wellFormed : table.WellFormed)
    (numbered : table.slots.length ≤ UInt32.size) {position : Nat} {slot : TableSlot α}
    (atPlace : table.slots[position]? = some slot) : slot.handle.index.toNat = position := by
  have inBounds := (List.getElem?_eq_some_iff.mp atPlace).1
  rw [wellFormed.indexed position slot atPlace]
  exact UInt32.toNat_ofNat_of_lt' (by omega)

/-- The handle of a slot reaches what the slot holds. -/
theorem get?_of_getElem? {table : ProgramTable α} (wellFormed : table.WellFormed)
    (numbered : table.slots.length ≤ UInt32.size) {position : Nat} {slot : TableSlot α}
    (atPlace : table.slots[position]? = some slot) : table.get? slot.handle = slot.value := by
  simp [get?, slot?, wellFormed.toNat_index numbered atPlace, atPlace]

theorem mem_handles_iff {table : ProgramTable α} (wellFormed : table.WellFormed)
    (numbered : table.slots.length ≤ UInt32.size) {handle : ProgramHandle} :
    handle ∈ table.handles ↔ (table.get? handle).isSome := by
  simp only [handles, List.mem_filterMap, Option.map_eq_some_iff]
  constructor
  · rintro ⟨slot, member, value, full, rfl⟩
    obtain ⟨position, atPlace⟩ := List.mem_iff_getElem?.mp member
    rw [get?_of_getElem? wellFormed numbered atPlace, full]
    rfl
  · intro reached
    obtain ⟨value, found⟩ := Option.isSome_iff_exists.mp reached
    obtain ⟨slot, atPlace, sameGeneration, full⟩ := get?_eq_some_iff.mp found
    refine ⟨slot, List.mem_of_getElem? atPlace, value, full, ?_⟩
    rw [wellFormed.handle_eq atPlace, sameGeneration]

/-- The values of a table are what its handles reach, in the same order. -/
theorem map_get?_handles {table : ProgramTable α} (wellFormed : table.WellFormed)
    (numbered : table.slots.length ≤ UInt32.size) :
    table.handles.map table.get? = table.values.map some := by
  rw [values, handles, List.map_filterMap, List.map_filterMap]
  refine List.filterMap_congr ?_
  intro slot member
  obtain ⟨position, atPlace⟩ := List.mem_iff_getElem?.mp member
  have reached := get?_of_getElem? wellFormed numbered atPlace
  cases full : slot.value with
  | none => rfl
  | some value =>
      rw [full] at reached
      simp [reached]

section Map

variable {β : Type} (change : α → β)

def map (table : ProgramTable α) : ProgramTable β where
  slots := table.slots.map fun slot => ⟨slot.handle, slot.value.map change⟩
  freed := table.freed

theorem append_map (table : ProgramTable α) (value : α) :
    (table.map change).append (change value) =
      ((table.append value).1, (table.append value).2.map change) := by
  simp [append, map]

theorem insert_map (table : ProgramTable α) (value : α) :
    (table.map change).insert (change value) =
      ((table.insert value).1, (table.insert value).2.map change) := by
  obtain ⟨slots, freed⟩ := table
  cases freed with
  | nil => exact append_map change ⟨slots, []⟩ value
  | cons index freed =>
      simp only [insert, map, List.getElem?_map]
      cases slots[index.toNat]? with
      | none => exact append_map change ⟨slots, freed⟩ value
      | some slot => simp [List.map_set]

theorem slot?_map (table : ProgramTable α) (handle : ProgramHandle) :
    (table.map change).slot? handle =
      (table.slot? handle).map fun slot => ⟨slot.handle, slot.value.map change⟩ := by
  unfold slot? map
  simp only [List.getElem?_map]
  cases table.slots[handle.index.toNat]? with
  | none => rfl
  | some slot =>
      simp only [Option.map_some]
      split <;> rfl

theorem get?_map (table : ProgramTable α) (handle : ProgramHandle) :
    (table.map change).get? handle = (table.get? handle).map change := by
  rw [get?, get?, slot?_map, Option.bind_map, Option.map_bind]
  rfl

theorem remove?_map (table : ProgramTable α) (handle : ProgramHandle) :
    (table.map change).remove? handle =
      (table.remove? handle).map fun result => (change result.1, result.2.map change) := by
  unfold remove?
  rw [slot?_map, Option.bind_map, Option.map_bind]
  congr 1
  funext slot
  cases full : slot.value with
  | none => simp [full]
  | some value => simp [full, map, List.map_set]

theorem handles_map (table : ProgramTable α) : (table.map change).handles = table.handles := by
  unfold handles map
  rw [List.filterMap_map]
  congr 1
  funext slot
  simp [Function.comp_def]

theorem live_map (table : ProgramTable α) : (table.map change).live = table.live := by
  simp [live, map]

end Map

end ShaderPipeline.ProgramTable
