import ShaderPipeline.Proofs.Program.Table
import Mathlib.Data.List.Perm.Basic

/-!
# Handles stand for one value each

A table is compared with the record of what was asked of it.  As long as slots and
generations can be numbered, no handle is given out twice, and a handle reaches
the value that it was given out for until it is used to take that value out.
-/

namespace ShaderPipeline

/-- A call to a table.  The handle to remove may be any. -/
inductive TableCall (α : Type) where
  | insert (value : α)
  | remove (handle : ProgramHandle)

/-- A call to a table with its answer. -/
inductive TableEvent (α : Type) where
  | inserted (value : α) (handle : ProgramHandle)
  | removed (handle : ProgramHandle) (answer : Option α)

variable {α : Type}

def TableCall.isInsert : TableCall α → Bool
  | .insert _ => true
  | .remove _ => false

namespace TableEvent

def issued? : TableEvent α → Option (ProgramHandle × α)
  | .inserted value handle => some (handle, value)
  | .removed _ _ => none

def withdrawn? : TableEvent α → Option ProgramHandle
  | .removed handle (some _) => some handle
  | _ => none

/-- The handles that were given out, with their values. -/
def issued (events : List (TableEvent α)) : List (ProgramHandle × α) :=
  events.filterMap issued?

/-- The handles whose values were taken out. -/
def withdrawn (events : List (TableEvent α)) : List ProgramHandle :=
  events.filterMap withdrawn?

section Cons

variable (events : List (TableEvent α)) (value : α) (handle : ProgramHandle)

@[simp] theorem issued_inserted :
    issued (.inserted value handle :: events) = (handle, value) :: issued events := rfl

@[simp] theorem withdrawn_inserted :
    withdrawn (.inserted value handle :: events) = withdrawn events := rfl

@[simp] theorem issued_removed (answer : Option α) :
    issued (.removed handle answer :: events) = issued events := rfl

@[simp] theorem withdrawn_taken :
    withdrawn (.removed handle (some value) :: events) = handle :: withdrawn events := rfl

@[simp] theorem withdrawn_refused :
    withdrawn (.removed handle none :: events) = withdrawn events := rfl

end Cons

end TableEvent

namespace ProgramTable

open TableEvent

/-- Answers one call.  A handle that reaches nothing leaves the table as it is. -/
def perform (table : ProgramTable α) : TableCall α → TableEvent α × ProgramTable α
  | .insert value => (.inserted value (table.insert value).1, (table.insert value).2)
  | .remove handle =>
      match table.remove? handle with
      | some (value, rest) => (.removed handle (some value), rest)
      | none => (.removed handle none, table)

def performAll (table : ProgramTable α) :
    List (TableCall α) → List (TableEvent α) × ProgramTable α
  | [] => ([], table)
  | call :: rest =>
      let done := table.perform call
      let later := done.2.performAll rest
      (done.1 :: later.1, later.2)

theorem perform_remove_fst (table : ProgramTable α) (handle : ProgramHandle) :
    (table.perform (.remove handle)).1 = .removed handle (table.get? handle) := by
  cases removed : table.remove? handle with
  | none => simp [perform, removed, remove?_eq_none_iff.mp removed]
  | some result => simp [perform, removed, (remove?_cases removed).1]

theorem perform_remove_of_none {table : ProgramTable α} {handle : ProgramHandle}
    (notLive : table.get? handle = none) : (table.perform (.remove handle)).2 = table := by
  simp [perform, remove?_eq_none_iff.mpr notLive]

section Insert

variable {table : ProgramTable α}

/-- The slot of a new handle is a new one, or it was empty and is a generation older. -/
theorem place_of_insert (wellFormed : table.WellFormed)
    (numbered : table.slots.length < UInt32.size) (value : α) :
    (table.slots[(table.insert value).1.index.toNat]? = none ∧
        (table.insert value).1.generation = 0) ∨
      ∃ index generation, table.slots[(table.insert value).1.index.toNat]? =
          some ⟨⟨index, generation⟩, none⟩ ∧
        (table.insert value).1.generation = generation + 1 := by
  rcases insert_cases wellFormed value with
    ⟨-, appended⟩ | ⟨index, freed, generation, -, wasEmpty, reused⟩
  · have exactIndex : table.slots.length.toUInt32.toNat = table.slots.length :=
      UInt32.toNat_ofNat_of_lt' numbered
    left
    rw [appended]
    simp [append, exactIndex]
  · right
    rw [reused]
    exact ⟨index, generation, wasEmpty, rfl⟩

/-- Only the slot of the new handle changes. -/
theorem getElem?_insert (wellFormed : table.WellFormed)
    (numbered : table.slots.length < UInt32.size) (value : α) (position : Nat) :
    (table.insert value).2.slots[position]? =
      if position = (table.insert value).1.index.toNat then
        some ⟨(table.insert value).1, some value⟩
      else table.slots[position]? := by
  rcases insert_cases wellFormed value with
    ⟨-, appended⟩ | ⟨index, freed, generation, -, wasEmpty, reused⟩
  · have exactIndex : table.slots.length.toUInt32.toNat = table.slots.length :=
      UInt32.toNat_ofNat_of_lt' numbered
    rw [appended]
    simp only [append, exactIndex]
    split
    · next atEnd => simp [atEnd]
    · next elsewhere =>
        rcases Nat.lt_or_gt_of_ne elsewhere with inside | outside
        · rw [List.getElem?_append_left inside]
        · rw [List.getElem?_eq_none (by simp; omega), List.getElem?_eq_none (by omega)]
  · rw [reused]
    have inBounds := (List.getElem?_eq_some_iff.mp wasEmpty).1
    simp only
    split
    · next same => rw [same, List.getElem?_set_self inBounds]
    · next different => rw [List.getElem?_set_ne (Ne.symm different)]

/-- The new handle reaches the new value, and all others reach what they reached. -/
theorem get?_insert (wellFormed : table.WellFormed)
    (numbered : table.slots.length < UInt32.size) (value : α) (handle : ProgramHandle) :
    (table.insert value).2.get? handle =
      if handle = (table.insert value).1 then some value else table.get? handle := by
  have place := place_of_insert wellFormed numbered value
  ext content
  rw [get?_eq_some_iff, getElem?_insert wellFormed numbered]
  generalize (table.insert value).1 = fresh at place ⊢
  by_cases sameIndex : handle.index.toNat = fresh.index.toNat
  · -- What the slot held before was under no handle.
    have notOld : table.get? handle ≠ some content := by
      rw [ne_eq, get?_eq_some_iff, sameIndex]
      rcases place with ⟨isNew, -⟩ | ⟨index, generation, wasEmpty, -⟩
      · simp [isNew]
      · simp [wasEmpty]
    obtain ⟨index, generation⟩ := handle
    obtain ⟨freshIndex, freshGeneration⟩ := fresh
    obtain rfl := UInt32.toNat_inj.mp sameIndex
    by_cases sameGeneration : generation = freshGeneration
    · subst sameGeneration
      simp
    · simp [Ne.symm sameGeneration, sameGeneration, notOld]
  · have isOld : handle ≠ fresh := by
      rintro rfl
      exact sameIndex rfl
    rw [if_neg sameIndex, if_neg isOld, get?_eq_some_iff]

end Insert

def generations (table : ProgramTable α) : List UInt32 :=
  table.slots.map (·.handle.generation)

theorem generations_insert {table : ProgramTable α} (wellFormed : table.WellFormed)
    (numbered : table.slots.length < UInt32.size) (value : α) (position : Nat) :
    (table.insert value).2.generations[position]? =
      if position = (table.insert value).1.index.toNat then
        some (table.insert value).1.generation
      else table.generations[position]? := by
  rw [generations, List.getElem?_map, getElem?_insert wellFormed numbered]
  split
  · rfl
  · rw [generations, List.getElem?_map]

/-- A slot keeps its generation when it is emptied. -/
theorem generations_remove? {table rest : ProgramTable α} {handle : ProgramHandle} {value : α}
    (removed : table.remove? handle = some (value, rest)) :
    rest.generations = table.generations := by
  obtain ⟨-, slot, found, -, -, rfl⟩ := remove?_cases removed
  apply List.ext_getElem?
  intro position
  simp only [generations, List.getElem?_map]
  by_cases same : handle.index.toNat = position
  · subst same
    rw [List.getElem?_set_self (List.getElem?_eq_some_iff.mp found).1, found]
    rfl
  · rw [List.getElem?_set_ne same]

/-- What a table has to do with the handles that were given out and those that were
used up.  The generation of a slot is that of the last handle for it. -/
structure Tracks (given : List (ProgramHandle × α)) (spent : List ProgramHandle)
    (table : ProgramTable α) : Prop where
  wellFormed : table.WellFormed
  slots_le : table.generations.length ≤ given.length
  generation_lt : ∀ generation ∈ table.generations, generation.toNat < given.length
  given_le : ∀ entry ∈ given, ∃ generation,
    table.generations[entry.1.index.toNat]? = some generation ∧
      entry.1.generation.toNat ≤ generation.toNat
  distinct : (given.map Prod.fst).Nodup
  spent_given : ∀ handle ∈ spent, handle ∈ given.map Prod.fst
  reaches : ∀ handle value,
    table.get? handle = some value ↔ (handle, value) ∈ given ∧ handle ∉ spent

theorem tracks_empty : Tracks [] [] ({} : ProgramTable α) where
  wellFormed := wellFormed_empty
  slots_le := Nat.le_refl 0
  generation_lt := by simp [generations]
  given_le := by simp
  distinct := List.nodup_nil
  spent_given := by simp
  reaches := by simp [get?, slot?]

section Step

variable {given : List (ProgramHandle × α)} {spent : List ProgramHandle}
  {table : ProgramTable α}

theorem Tracks.numbered (tracks : Tracks given spent table) (room : given.length < UInt32.size) :
    table.slots.length < UInt32.size := by
  have enough := tracks.slots_le
  rw [generations, List.length_map] at enough
  omega

/-- Earlier handles for the slot of a new handle have earlier generations. -/
theorem Tracks.generation_of_insert (tracks : Tracks given spent table)
    (room : given.length < UInt32.size) (value : α) :
    (table.insert value).1.generation.toNat < given.length + 1 ∧
      ∀ generation, table.generations[(table.insert value).1.index.toNat]? = some generation →
        generation.toNat < (table.insert value).1.generation.toNat := by
  rcases place_of_insert tracks.wellFormed (tracks.numbered room) value with
    ⟨isNew, isFirst⟩ | ⟨index, generation, wasEmpty, isNext⟩
  · rw [generations, List.getElem?_map, isNew, isFirst]
    simp
  · have early : generation.toNat < given.length :=
      tracks.generation_lt generation (List.mem_map_of_mem (List.mem_of_getElem? wasEmpty))
    -- The generation does not go back to zero.
    have exactNext : (generation + 1).toNat = generation.toNat + 1 := by
      rw [UInt32.toNat_add]
      exact Nat.mod_eq_of_lt (Nat.lt_of_le_of_lt early room)
    rw [generations, List.getElem?_map, wasEmpty, isNext, exactNext]
    simp [early]

theorem Tracks.insert_fresh (tracks : Tracks given spent table)
    (room : given.length < UInt32.size) (value : α) :
    (table.insert value).1 ∉ given.map Prod.fst := by
  intro member
  obtain ⟨entry, isGiven, isHandle⟩ := List.mem_map.mp member
  obtain ⟨generation, atPlace, notLater⟩ := tracks.given_le entry isGiven
  rw [isHandle] at atPlace notLater
  have later := (tracks.generation_of_insert room value).2 generation atPlace
  omega

theorem Tracks.inserted (tracks : Tracks given spent table)
    (room : given.length < UInt32.size) (value : α) :
    Tracks (given ++ [((table.insert value).1, value)]) spent (table.insert value).2 := by
  have numbered := tracks.numbered room
  have fresh := tracks.insert_fresh room value
  have places := generations_insert tracks.wellFormed numbered value
  obtain ⟨early, latest⟩ := tracks.generation_of_insert room value
  constructor
  case wellFormed => exact wellFormed_insert tracks.wellFormed value
  case slots_le =>
    have oneMore := length_slots_insert_le tracks.wellFormed value
    have enough := tracks.slots_le
    simp only [generations, List.length_map, List.length_append, List.length_singleton] at enough ⊢
    omega
  case generation_lt =>
    intro generation member
    obtain ⟨position, atPlace⟩ := List.mem_iff_getElem?.mp member
    rw [List.length_append, List.length_singleton]
    rw [places] at atPlace
    split at atPlace
    · cases atPlace
      exact early
    · have early := tracks.generation_lt generation (List.mem_of_getElem? atPlace)
      omega
  case given_le =>
    intro entry member
    rw [places]
    by_cases samePlace : entry.1.index.toNat = (table.insert value).1.index.toNat
    · rw [if_pos samePlace]
      refine ⟨_, rfl, ?_⟩
      rcases List.mem_append.mp member with old | new
      · obtain ⟨generation, atPlace, notLater⟩ := tracks.given_le entry old
        rw [samePlace] at atPlace
        have later := latest generation atPlace
        omega
      · exact Nat.le_of_eq (by rw [List.mem_singleton.mp new])
    · rw [if_neg samePlace]
      rcases List.mem_append.mp member with old | new
      · exact tracks.given_le entry old
      · rw [List.mem_singleton.mp new] at samePlace
        exact absurd rfl samePlace
  case distinct =>
    rw [List.map_append, List.map_singleton, List.nodup_append]
    refine ⟨tracks.distinct, List.nodup_singleton _, ?_⟩
    rintro handle member _ isNew rfl
    rw [List.mem_singleton] at isNew
    exact fresh (isNew ▸ member)
  case spent_given =>
    intro handle member
    rw [List.map_append]
    exact List.mem_append_left _ (tracks.spent_given handle member)
  case reaches =>
    intro handle content
    rw [get?_insert tracks.wellFormed numbered, List.mem_append, List.mem_singleton,
      Prod.mk.injEq]
    by_cases isNew : handle = (table.insert value).1
    · have notGiven : (handle, content) ∉ given := by
        intro member
        exact fresh (isNew ▸ List.mem_map_of_mem (f := Prod.fst) member)
      have notSpent : handle ∉ spent := by
        intro member
        exact fresh (isNew ▸ tracks.spent_given handle member)
      simp [notGiven, notSpent, ← isNew, eq_comm]
    · rw [if_neg isNew, tracks.reaches]
      simp [isNew]

theorem Tracks.removed (tracks : Tracks given spent table) {handle : ProgramHandle} {value : α}
    {rest : ProgramTable α} (removed : table.remove? handle = some (value, rest)) :
    Tracks given (spent ++ [handle]) rest := by
  have sameGenerations := generations_remove? removed
  obtain ⟨found, -⟩ := remove?_cases removed
  have wasGiven := ((tracks.reaches handle value).mp found).1
  constructor
  case wellFormed => exact wellFormed_remove? tracks.wellFormed removed
  case slots_le => exact sameGenerations ▸ tracks.slots_le
  case generation_lt => exact sameGenerations ▸ tracks.generation_lt
  case given_le => exact sameGenerations ▸ tracks.given_le
  case distinct => exact tracks.distinct
  case spent_given =>
    intro other member
    rcases List.mem_append.mp member with old | new
    · exact tracks.spent_given other old
    · rw [List.mem_singleton.mp new]
      exact List.mem_map_of_mem (f := Prod.fst) wasGiven
  case reaches =>
    intro other content
    rw [get?_remove? removed, List.mem_append, List.mem_singleton]
    by_cases same : other = handle
    · simp [same]
    · simp [same, tracks.reaches]

end Step

/-- Every call keeps the record of a table right. -/
theorem Tracks.performAll {given : List (ProgramHandle × α)} {spent : List ProgramHandle}
    {table : ProgramTable α} (tracks : Tracks given spent table) (calls : List (TableCall α))
    (room : given.length + calls.countP TableCall.isInsert < UInt32.size) :
    Tracks (given ++ issued (table.performAll calls).1)
      (spent ++ withdrawn (table.performAll calls).1) (table.performAll calls).2 := by
  induction calls generalizing given spent table with
  | nil => simpa [ProgramTable.performAll, issued, withdrawn] using tracks
  | cons call rest ih =>
      cases call with
      | insert value =>
          rw [List.countP_cons_of_pos rfl] at room
          have later := ih (tracks.inserted (by omega) value)
            (by rw [List.length_append, List.length_singleton]; omega)
          simpa [ProgramTable.performAll, perform] using later
      | remove handle =>
          rw [List.countP_cons_of_neg (by simp [TableCall.isInsert])] at room
          cases removed : table.remove? handle with
          | none => simpa [ProgramTable.performAll, perform, removed] using ih tracks room
          | some result =>
              have later := ih (tracks.removed removed) room
              simpa [ProgramTable.performAll, perform, removed] using later

theorem handles_pairwise {table : ProgramTable α} (wellFormed : table.WellFormed)
    (numbered : table.slots.length ≤ UInt32.size) :
    table.handles.Pairwise fun first second => first.index < second.index := by
  unfold handles
  rw [List.pairwise_filterMap, List.pairwise_iff_getElem]
  intro position next inBounds inBounds' before handle isFirst handle' isSecond
  simp only [Option.map_eq_some_iff] at isFirst isSecond
  obtain ⟨-, -, rfl⟩ := isFirst
  obtain ⟨-, -, rfl⟩ := isSecond
  rw [UInt32.lt_iff_toNat_lt,
    wellFormed.toNat_index numbered (List.getElem?_eq_getElem inBounds),
    wellFormed.toNat_index numbered (List.getElem?_eq_getElem inBounds')]
  exact before

/-- A table is the finite map that the events with it describe. -/
structure Mirrors (events : List (TableEvent α)) (table : ProgramTable α) : Prop where
  /-- Every slot carries its own number. -/
  indexed : ∀ (position : Nat) (slot : TableSlot α), table.slots[position]? = some slot →
    slot.handle.index.toNat = position
  issued_distinct : ((issued events).map Prod.fst).Nodup
  get?_iff : ∀ handle value, table.get? handle = some value ↔
    (handle, value) ∈ issued events ∧ handle ∉ withdrawn events
  remove_answer : ∀ handle,
    (table.perform (.remove handle)).1 = .removed handle (table.get? handle)
  remove_stale : ∀ handle, table.get? handle = none →
    (table.perform (.remove handle)).2 = table
  freed_le : table.freed.length ≤ table.slots.length
  live_eq : table.live =
    ((issued events).filter fun entry => entry.1 ∉ withdrawn events).length
  handles_increase : table.handles.Pairwise fun first second => first.index < second.index
  mem_handles : ∀ handle, handle ∈ table.handles ↔
    ∃ value, (handle, value) ∈ issued events ∧ handle ∉ withdrawn events

theorem Tracks.length_handles {given : List (ProgramHandle × α)} {spent : List ProgramHandle}
    {table : ProgramTable α} (tracks : Tracks given spent table)
    (numbered : table.slots.length ≤ UInt32.size) :
    table.handles.length = (given.filter fun entry => entry.1 ∉ spent).length := by
  have distinct : table.handles.Nodup := by
    refine (handles_pairwise tracks.wellFormed numbered).imp ?_
    rintro first second before rfl
    exact absurd before (UInt32.lt_irrefl _)
  have distinctLive : ((given.filter fun entry => entry.1 ∉ spent).map Prod.fst).Nodup :=
    tracks.distinct.sublist (List.filter_sublist.map Prod.fst)
  have perm : table.handles.Perm ((given.filter fun entry => entry.1 ∉ spent).map Prod.fst) := by
    rw [List.perm_ext_iff_of_nodup distinct distinctLive]
    intro handle
    rw [mem_handles_iff tracks.wellFormed numbered, Option.isSome_iff_exists]
    simp [tracks.reaches]
  simpa using perm.length_eq

theorem Tracks.mirrors {events : List (TableEvent α)} {table : ProgramTable α}
    (tracks : Tracks (issued events) (withdrawn events) table)
    (room : (issued events).length < UInt32.size) : Mirrors events table := by
  have numbered : table.slots.length ≤ UInt32.size := Nat.le_of_lt (tracks.numbered room)
  have count := tracks.wellFormed.count
  constructor
  case indexed => exact fun position slot => tracks.wellFormed.toNat_index numbered
  case issued_distinct => exact tracks.distinct
  case get?_iff => exact tracks.reaches
  case remove_answer => exact table.perform_remove_fst
  case remove_stale => exact fun handle => perform_remove_of_none
  case freed_le => omega
  case live_eq =>
    rw [live_eq_length_values tracks.wellFormed, ← ProgramTable.length_handles,
      tracks.length_handles numbered]
  case handles_increase => exact handles_pairwise tracks.wellFormed numbered
  case mem_handles =>
    intro handle
    rw [mem_handles_iff tracks.wellFormed numbered, Option.isSome_iff_exists]
    simp only [tracks.reaches]

theorem length_issued_performAll (table : ProgramTable α) (calls : List (TableCall α)) :
    (issued (table.performAll calls).1).length = calls.countP TableCall.isInsert := by
  induction calls generalizing table with
  | nil => rfl
  | cons call rest ih =>
      have later := ih (table.perform call).2
      cases call with
      | insert value =>
          rw [List.countP_cons_of_pos rfl, ← later]
          rfl
      | remove handle =>
          rw [List.countP_cons_of_neg (by simp [TableCall.isInsert]), ← later,
            ProgramTable.performAll, perform_remove_fst]
          rfl

/-- At every point of a sequence of calls a table is the finite map of the values that were
taken in and not taken out, under handles that are never given out again. -/
theorem mirrors_performAll (calls : List (TableCall α))
    (few : calls.countP TableCall.isInsert < UInt32.size) (soFar : List (TableCall α))
    (isPrefix : soFar <+: calls) :
    Mirrors (({} : ProgramTable α).performAll soFar).1
      (({} : ProgramTable α).performAll soFar).2 := by
  have fewSoFar : soFar.countP TableCall.isInsert < UInt32.size :=
    Nat.lt_of_le_of_lt (isPrefix.sublist.countP_le) few
  have tracks := tracks_empty.performAll (α := α) soFar (by simpa using fewSoFar)
  simp only [List.nil_append] at tracks
  apply tracks.mirrors
  rw [length_issued_performAll]
  exact fewSoFar

/-- A slot is used again, and then its first handle and a handle that nobody has are tried. -/
def recycledCalls : List (TableCall Nat) :=
  [.insert 7, .insert 8, .remove ⟨0, 0⟩, .insert 9, .remove ⟨0, 0⟩, .remove ⟨1, 4⟩, .insert 10]

theorem mirrors_recycledCalls :
    recycledCalls.countP TableCall.isInsert < UInt32.size ∧
    Mirrors
      [.inserted 7 ⟨0, 0⟩, .inserted 8 ⟨1, 0⟩, .removed ⟨0, 0⟩ (some 7), .inserted 9 ⟨0, 1⟩,
        .removed ⟨0, 0⟩ none, .removed ⟨1, 4⟩ none, .inserted 10 ⟨2, 0⟩]
      ({ slots := [⟨⟨0, 1⟩, some 9⟩, ⟨⟨1, 0⟩, some 8⟩, ⟨⟨2, 0⟩, some 10⟩], freed := [] } :
        ProgramTable Nat) :=
  ⟨by decide, mirrors_performAll recycledCalls (by decide) recycledCalls (List.prefix_refl _)⟩

end ProgramTable

end ShaderPipeline
