import ShaderPipeline.Proofs.Action.Simulation
import ShaderPipeline.Proofs.Program.Run

/-!
# Sessions that look alike

Two sessions look alike if they differ only in their devices, their files, what
they count of the cache, and in the numbers that the drivers gave to programs.
Apart from making programs, such sessions answer every request alike, and they
look alike afterwards.
-/

namespace ShaderPipeline

open Action

/-- A program without the driver's number and without where it came from. -/
def LinkedProgram.impersonal (program : LinkedProgram) : LinkedProgram :=
  { program with object := ⟨0⟩, fromCache := false }

/-- The counters without those of the cache. -/
def Statistics.withoutCache (statistics : Statistics) : Statistics :=
  { statistics with cacheHits := 0, cacheMisses := 0 }

/-- Tables whose programs differ in the driver's numbers only. -/
def TablesAlike (left right : ProgramTable LinkedProgram) : Prop :=
  left.map LinkedProgram.impersonal = right.map LinkedProgram.impersonal

theorem eq_none_or_of_map_eq {α β : Type} {change : α → β} {left right : Option α}
    (same : left.map change = right.map change) :
    (left = none ∧ right = none) ∨
      ∃ value value', left = some value ∧ right = some value' ∧ change value = change value' := by
  cases left with
  | none => exact Or.inl ⟨rfl, Option.map_eq_none_iff.mp same.symm⟩
  | some value =>
      obtain ⟨value', isRight, sameValue⟩ := Option.map_eq_some_iff.mp same.symm
      exact Or.inr ⟨value, value', rfl, isRight, sameValue.symm⟩

theorem TablesAlike.get? {left right : ProgramTable LinkedProgram}
    (alike : TablesAlike left right) (handle : ProgramHandle) :
    (left.get? handle).map LinkedProgram.impersonal =
      (right.get? handle).map LinkedProgram.impersonal := by
  rw [← ProgramTable.get?_map, alike, ProgramTable.get?_map]

theorem TablesAlike.live {left right : ProgramTable LinkedProgram}
    (alike : TablesAlike left right) : left.live = right.live := by
  rw [← ProgramTable.live_map LinkedProgram.impersonal, alike, ProgramTable.live_map]

theorem TablesAlike.handles {left right : ProgramTable LinkedProgram}
    (alike : TablesAlike left right) : left.handles = right.handles := by
  rw [← ProgramTable.handles_map LinkedProgram.impersonal, alike, ProgramTable.handles_map]

theorem TablesAlike.insert {left right : ProgramTable LinkedProgram}
    (alike : TablesAlike left right) {program program' : LinkedProgram}
    (same : program.impersonal = program'.impersonal) :
    (left.insert program).1 = (right.insert program').1 ∧
      TablesAlike (left.insert program).2 (right.insert program').2 := by
  have inserted := ProgramTable.insert_map LinkedProgram.impersonal left program
  rw [alike, same, ProgramTable.insert_map, Prod.mk.injEq] at inserted
  exact ⟨inserted.1.symm, inserted.2.symm⟩

theorem TablesAlike.remove? {left right : ProgramTable LinkedProgram}
    (alike : TablesAlike left right) (handle : ProgramHandle) :
    (left.remove? handle = none ∧ right.remove? handle = none) ∨
      ∃ program rest program' rest', left.remove? handle = some (program, rest) ∧
        right.remove? handle = some (program', rest') ∧ TablesAlike rest rest' := by
  have removed := ProgramTable.remove?_map LinkedProgram.impersonal left handle
  rw [alike, ProgramTable.remove?_map] at removed
  rcases eq_none_or_of_map_eq removed with
    ⟨isRight, isLeft⟩ | ⟨result', result, isRight, isLeft, same⟩
  · exact Or.inl ⟨isLeft, isRight⟩
  · rw [Prod.mk.injEq] at same
    exact Or.inr ⟨_, _, _, _, isLeft, isRight, same.2.symm⟩

namespace Session

variable {δ ε : Type}

/-- The sessions show the same. -/
structure LooksLike (left : Session δ) (right : Session ε) : Prop where
  programs : TablesAlike left.programs right.programs
  bound : left.bound = right.bound
  capabilities : left.capabilities = right.capabilities
  statistics : left.statistics.withoutCache = right.statistics.withoutCache

theorem LooksLike.boundProgram? {left : Session δ} {right : Session ε}
    (same : left.LooksLike right) :
    left.boundProgram?.map LinkedProgram.impersonal =
      right.boundProgram?.map LinkedProgram.impersonal := by
  unfold Session.boundProgram?
  rw [same.bound]
  cases right.bound with
  | none => rfl
  | some handle => exact same.programs.get? handle

theorem withoutCache_live {first second : Statistics}
    (same : first.withoutCache = second.withoutCache) (live : Nat) :
    { first with live := live }.withoutCache = { second with live := live }.withoutCache := by
  cases first
  cases second
  simp only [Statistics.withoutCache, Statistics.mk.injEq] at same ⊢
  simp only [same, and_true]

theorem withoutCache_created {first second : Statistics}
    (same : first.withoutCache = second.withoutCache) (live : Nat) :
    { first with created := first.created + 1, live := live }.withoutCache =
      { second with created := second.created + 1, live := live }.withoutCache := by
  cases first
  cases second
  simp only [Statistics.withoutCache, Statistics.mk.injEq] at same ⊢
  simp only [same, and_true]

theorem withoutCache_countFailure {first second : Statistics}
    (same : first.withoutCache = second.withoutCache) (failure : ShaderError) :
    (countFailure failure first).withoutCache = (countFailure failure second).withoutCache := by
  cases first
  cases second
  simp only [Statistics.withoutCache, Statistics.mk.injEq] at same
  cases failure <;> simp [countFailure, Statistics.withoutCache, same]

theorem simulates_onDevice_of_answer {α : Type} {first : Action δ α} {second : Action ε α}
    (sameAnswer : ∀ device device', (first.run device).value = (second.run device').value) :
    Simulates LooksLike Eq (onDevice first) (onDevice second) :=
  fun _ _ same =>
    ⟨sameAnswer _ _, same.programs, same.bound, same.capabilities, same.statistics⟩

theorem simulates_onDevice (first : Action δ Unit) (second : Action ε Unit) :
    Simulates LooksLike Eq (onDevice first) (onDevice second) :=
  simulates_onDevice_of_answer fun _ _ => rfl

theorem simulates_countLive :
    Simulates LooksLike Eq (countLive : Action (Session δ) Unit)
      (countLive : Action (Session ε) Unit) := by
  refine simulates_modify fun left right same => ?_
  refine ⟨same.programs, same.bound, same.capabilities, ?_⟩
  rw [same.programs.live]
  exact withoutCache_live same.statistics _

theorem simulates_setBound (handle : Option ProgramHandle) :
    Simulates LooksLike Eq
      (modify fun session : Session δ => { session with bound := handle })
      (modify fun session : Session ε => { session with bound := handle }) :=
  simulates_modify fun _ _ same => ⟨same.programs, rfl, same.capabilities, same.statistics⟩

theorem simulates_setPrograms {left right : ProgramTable LinkedProgram}
    (alike : TablesAlike left right) :
    Simulates LooksLike Eq
      (modify fun session : Session δ => { session with programs := left })
      (modify fun session : Session ε => { session with programs := right }) :=
  simulates_modify fun _ _ same => ⟨alike, same.bound, same.capabilities, same.statistics⟩

theorem simulates_readPrograms :
    Simulates LooksLike TablesAlike (read fun session : Session δ => session.programs)
      (read fun session : Session ε => session.programs) :=
  simulates_read fun _ _ same => same.programs

theorem simulates_readBound :
    Simulates LooksLike Eq (read fun session : Session δ => session.bound)
      (read fun session : Session ε => session.bound) :=
  simulates_read fun _ _ same => same.bound

variable [ShaderDevice δ] [ShaderDevice ε]

theorem simulates_bindRequest (handle : Option ProgramHandle) :
    Simulates LooksLike Eq (bind handle : Action (Session δ) _)
      (bind handle : Action (Session ε) _) := by
  refine simulates_bind simulates_readBound ?_
  rintro bound _ rfl
  split
  · exact simulates_pure rfl
  · cases handle with
    | none =>
        refine simulates_bind (simulates_onDevice _ _) fun _ _ _ => ?_
        exact simulates_bind (simulates_setBound none) fun _ _ _ => simulates_pure rfl
    | some handle =>
        refine simulates_bind simulates_readPrograms fun left right alike => ?_
        rcases eq_none_or_of_map_eq (alike.get? handle) with
          ⟨isLeft, isRight⟩ | ⟨program, program', isLeft, isRight, -⟩
        · rw [isLeft, isRight]
          exact simulates_pure rfl
        · rw [isLeft, isRight]
          refine simulates_bind (simulates_onDevice _ _) fun _ _ _ => ?_
          exact simulates_bind (simulates_setBound (some handle)) fun _ _ _ => simulates_pure rfl

theorem simulates_deleteRequest (handle : ProgramHandle) :
    Simulates LooksLike Eq (delete handle : Action (Session δ) _)
      (delete handle : Action (Session ε) _) := by
  refine simulates_bind simulates_readBound ?_
  rintro bound _ rfl
  refine simulates_detour (simulates_bindRequest none) ?_
  refine simulates_bind simulates_readPrograms fun left right alike => ?_
  rcases alike.remove? handle with
    ⟨isLeft, isRight⟩ | ⟨program, rest, program', rest', isLeft, isRight, restAlike⟩
  · rw [isLeft, isRight]
    exact simulates_pure rfl
  · rw [isLeft, isRight]
    refine simulates_bind (simulates_setPrograms restAlike) fun _ _ _ => ?_
    refine simulates_bind (simulates_onDevice _ _) fun _ _ _ => ?_
    refine simulates_bind simulates_countLive fun _ _ _ => ?_
    exact simulates_bind (simulates_note _ _ _ _) fun _ _ _ => simulates_pure rfl

theorem simulates_deleteOrWarn (handle : ProgramHandle) :
    Simulates LooksLike Eq (deleteOrWarn handle : Action (Session δ) _)
      (deleteOrWarn handle : Action (Session ε) _) := by
  refine simulates_bind (simulates_deleteRequest handle) ?_
  rintro result _ rfl
  cases result with
  | ok done => exact simulates_pure rfl
  | error failure => exact simulates_note _ _ _ _

theorem simulates_clearRequest :
    Simulates LooksLike Eq (clear : Action (Session δ) _) (clear : Action (Session ε) _) := by
  refine simulates_bind simulates_readPrograms fun left right alike => ?_
  rw [alike.handles]
  exact simulates_forEach simulates_deleteOrWarn _

theorem reflection_eq {left right : LinkedProgram} (same : left.impersonal = right.impersonal) :
    left.reflection = right.reflection :=
  congrArg (·.reflection) same

/-- Whether an upload stops the program is not up to the device. -/
theorem value_upload_eq (uniform : UniformEntry) (data : ConstantData) (count : UInt64)
    (rowMajor : Bool) (device : δ) (device' : ε) :
    ((uniform.upload data count rowMajor).run device).value =
      ((uniform.upload data count rowMajor).run device').value := by
  unfold UniformEntry.upload
  split
  · rfl
  · split <;> rfl

theorem simulates_setConstantRequest (slot : ConstantSlot) (data : ConstantData) (count : UInt64)
    (rowMajor : Bool) :
    Simulates LooksLike Eq (setConstant slot data count rowMajor : Action (Session δ) _)
      (setConstant slot data count rowMajor : Action (Session ε) _) := by
  unfold setConstant
  split
  · refine simulates_bind simulates_get fun left right same => ?_
    rcases eq_none_or_of_map_eq same.boundProgram? with
      ⟨isLeft, isRight⟩ | ⟨program, program', isLeft, isRight, sameProgram⟩
    · rw [isLeft, isRight]
      exact simulates_bind (simulates_note _ _ _ _) fun _ _ _ => simulates_pure rfl
    · rw [isLeft, isRight]
      simp only [reflection_eq sameProgram]
      split
      · exact simulates_bind (simulates_note _ _ _ _) fun _ _ _ => simulates_pure rfl
      · exact simulates_onDevice_of_answer (value_upload_eq _ data count rowMajor)
  · exact simulates_pure rfl

theorem simulates_setConstantByNameRequest (name : String) (data : ConstantData) :
    Simulates LooksLike Eq (setConstantByName name data : Action (Session δ) _)
      (setConstantByName name data : Action (Session ε) _) := by
  refine simulates_bind simulates_get fun left right same => ?_
  rcases eq_none_or_of_map_eq same.boundProgram? with
    ⟨isLeft, isRight⟩ | ⟨program, program', isLeft, isRight, sameProgram⟩
  · rw [isLeft, isRight]
    exact simulates_pure rfl
  · rw [isLeft, isRight]
    simp only [Option.bind_some, reflection_eq sameProgram]
    split
    · exact simulates_pure rfl
    · refine simulates_bind (simulates_setConstantRequest _ _ _ _) ?_
      rintro outcome _ rfl
      exact simulates_pure rfl

/-- Sessions that look alike answer alike, unless a program is to be made. -/
theorem simulates_perform {request : Request}
    (notCreate : ∀ name vertex fragment, request ≠ .create name vertex fragment) :
    Simulates LooksLike Eq (request.perform : Action (Session δ) _)
      (request.perform : Action (Session ε) _) := by
  cases request with
  | create name vertex fragment => exact absurd rfl (notCreate name vertex fragment)
  | delete handle =>
      refine simulates_bind (simulates_deleteRequest handle) ?_
      rintro result _ rfl
      exact simulates_pure rfl
  | bind handle =>
      refine simulates_bind (simulates_bindRequest handle) ?_
      rintro result _ rfl
      exact simulates_pure rfl
  | setConstant slot data count rowMajor =>
      refine simulates_bind (simulates_setConstantRequest slot data count rowMajor) ?_
      rintro result _ rfl
      exact simulates_pure rfl
  | setConstantByName name data =>
      refine simulates_bind (simulates_setConstantByNameRequest name data) ?_
      rintro result _ rfl
      exact simulates_pure rfl
  | bindTexture unit texture =>
      exact simulates_bind (simulates_onDevice _ _) fun _ _ _ => simulates_pure rfl
  | clear => exact simulates_bind simulates_clearRequest fun _ _ _ => simulates_pure rfl

end Session

end ShaderPipeline
