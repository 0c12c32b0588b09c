import ShaderPipeline.Proofs.Device.Calls
import ShaderPipeline.Proofs.Program.Run

/-!
# Sessions release what they acquire

Making a program asks the driver for one program object and for stage objects,
and any of these steps can fail.  However the driver answers, every stage object
that was made is released, and a program object is released exactly if no program
came of it.  A request that fails leaves the programs, the binding and the files
as they were.
-/

namespace ShaderPipeline.Session

open Action Recorded DeviceCall

variable {δ : Type}

def calls (session : Session (Recorded δ)) : List DeviceCall :=
  session.device.calls

theorem logs_onDevice {α : Type} {action : Action (Recorded δ) α}
    {shows : α → List DeviceCall → Prop} (logs : Logs Recorded.calls action shows) :
    Logs calls (onDevice action) shows :=
  fun session => logs session.device

theorem logs_onFiles {α : Type} (action : Action FileTree α) :
    Logs (calls (δ := δ)) (onFiles action) fun _ calls => calls = [] :=
  logs_of_preserves fun _ => rfl

variable [ShaderDevice δ]

/-- The cache costs at most one call. -/
theorem logs_restore (name : String) (key : UInt32) (object : ProgramId) :
    Logs (calls (δ := δ)) (restore name key object) fun _ calls =>
      calls = [] ∨ ∃ binary, calls = [.loadBinary object binary] := by
  refine logs_quiet_bind (logs_read _) fun cache => ?_
  split
  · exact logs_pure (Or.inl rfl)
  · refine logs_quiet_bind (logs_onFiles _) fun found => ?_
    split
    · exact logs_quiet_bind (logs_note _ _) fun _ => logs_pure (Or.inl rfl)
    · exact logs_quiet_bind (logs_note _ _) fun _ => logs_pure (Or.inl rfl)
    · next binary =>
        refine logs_bind (logs_onDevice (logs_perform _ _)) fun loaded calls loading => ?_
        refine logs_quiet_bind (logs_read _) fun device => ?_
        split
        · refine logs_quiet_bind (logs_note _ _) fun _ => logs_pure (Or.inr ⟨binary, ?_⟩)
          rw [loading, List.append_nil]
        · refine logs_quiet_bind (logs_note _ _) fun _ => logs_pure (Or.inr ⟨binary, ?_⟩)
          rw [loading, List.append_nil]

theorem logs_keep (name : String) (key : UInt32) (object : ProgramId) :
    Logs (calls (δ := δ)) (keep name key object) fun _ calls => calls = [] := by
  refine logs_of_preserves fun session => ?_
  obtain ⟨files, kept⟩ := keep_state name key object session
  rw [kept]
  rfl

/-- The calls that fill `object`: some that build, the release of every stage
object, and the release of `object` itself if the build failed. -/
def FillCalls (object : ProgramId) (fails : Bool) (calls : List DeviceCall) : Prop :=
  ∃ building, (∀ call ∈ building, call.builds ∨ ∃ binary, call = .loadBinary object binary) ∧
    calls = building ++ ((building.filterMap madeStage?).map .deleteStage ++
      if fails then [.deleteProgram object] else [])

theorem logs_compile (name : String) (program : Dialect.RecastProgram) (object : ProgramId) :
    Logs (calls (δ := δ)) (compile name program object) fun result calls =>
      FillCalls object result.toOption.isNone calls ∧
        ∀ failure, result = .error failure →
          failure.isVerdict ∨ RefusedStage δ calls failure := by
  refine logs_quiet_bind (logs_read _) fun caps => ?_
  refine logs_bind (logs_onDevice (logs_compileAndLink caps name program object))
    fun result calls shown => ?_
  obtain ⟨building, logged, builds, failing⟩ := shown
  have onlyBuilds : ∀ call ∈ building,
      call.builds ∨ ∃ binary, call = .loadBinary object binary :=
    fun call member => Or.inl (builds call member)
  split
  · refine logs_pure ⟨⟨building, onlyBuilds, ?_⟩, by simp⟩
    simp [logged, Except.toOption]
  · next failure =>
      refine logs_quiet_bind (logs_of_preserves fun _ => rfl) fun _ => ?_
      refine logs_bind (logs_onDevice (logs_perform _ _)) fun _ releasing released => ?_
      refine logs_pure ⟨⟨building, onlyBuilds, ?_⟩, ?_⟩
      · simp [logged, released, Except.toOption]
      · rintro _ ⟨⟩
        refine (failing failure rfl).imp_right fun refused => refused.mono ?_
        simp [logged]

theorem logs_fill (name : String) (program : Dialect.RecastProgram) (object : ProgramId) :
    Logs (calls (δ := δ)) (fill name program object) fun result calls =>
      FillCalls object result.toOption.isNone calls ∧
        ∀ failure, result = .error failure →
          failure.isVerdict ∨ RefusedStage δ calls failure := by
  refine logs_bind (logs_restore _ _ _) fun served loading loaded => ?_
  have loadsOnly : ∀ call ∈ loading, ∃ binary, call = .loadBinary object binary := by
    rcases loaded with rfl | ⟨binary, rfl⟩
    · simp
    · simp
  have makesNone : loading.filterMap madeStage? = [] := by
    rcases loaded with rfl | ⟨binary, rfl⟩ <;> rfl
  split
  · refine logs_quiet_bind (logs_of_preserves fun _ => rfl) fun _ => logs_pure ⟨?_, by simp⟩
    refine ⟨loading, fun call member => Or.inr (loadsOnly call member), ?_⟩
    simp [makesNone, Except.toOption]
  · refine logs_quiet_bind (logs_of_preserves fun _ => rfl) fun _ => ?_
    refine logs_bind (logs_compile name program object) fun result calls shown => ?_
    obtain ⟨⟨building, onlyBuilds, logged⟩, failing⟩ := shown
    have both : ∀ call ∈ loading ++ building,
        call.builds ∨ ∃ binary, call = .loadBinary object binary := by
      intro call member
      rcases List.mem_append.mp member with early | late
      · exact Or.inr (loadsOnly call early)
      · exact onlyBuilds call late
    split
    · next failure =>
        refine logs_pure ⟨⟨loading ++ building, both, ?_⟩, ?_⟩
        · simp [logged, makesNone, Except.toOption]
        · rintro _ ⟨⟩
          refine (failing failure rfl).imp_right fun refused => refused.mono ?_
          simp
    · refine logs_quiet_bind (logs_keep _ _ _) fun _ => logs_pure ⟨?_, by simp⟩
      refine ⟨loading ++ building, both, ?_⟩
      simp [logged, makesNone, Except.toOption]

/-- Stage objects are released in the order of their making, each once, and no
stage object is made and nothing is linked from then on. -/
def StagesReleased (calls : List DeviceCall) : Prop :=
  ∃ employing releasing, calls = employing ++ releasing ∧
    (∀ call ∈ employing, call.releasedStage? = none) ∧
    (∀ call ∈ releasing, call.madeStage? = none ∧ ∀ program, call ≠ .linkProgram program) ∧
    releasing.filterMap releasedStage? = employing.filterMap madeStage?

section Filling

omit [ShaderDevice δ]

variable {object : ProgramId} {fails : Bool} {filling reflecting : List DeviceCall}

theorem FillCalls.madeProgram (filled : FillCalls object fails filling) :
    filling.filterMap madeProgram? = [] := by
  obtain ⟨building, builds, rfl⟩ := filled
  simp only [List.filterMap_append, List.append_eq_nil_iff, List.filterMap_eq_nil_iff,
    List.mem_map, forall_exists_index, and_imp]
  refine ⟨?_, ?_, ?_⟩
  · intro call member
    rcases builds call member with building | ⟨binary, rfl⟩
    · exact (of_builds building).2.1
    · rfl
  · rintro _ stage - rfl
    rfl
  · split <;> simp [madeProgram?]

theorem FillCalls.releasedProgram (filled : FillCalls object fails filling) :
    filling.filterMap releasedProgram? = if fails then [object] else [] := by
  obtain ⟨building, builds, rfl⟩ := filled
  have notBefore : building.filterMap releasedProgram? = [] := by
    rw [List.filterMap_eq_nil_iff]
    intro call member
    rcases builds call member with building | ⟨binary, rfl⟩
    · exact (of_builds building).2.2.1
    · rfl
  have notStages : ((building.filterMap madeStage?).map DeviceCall.deleteStage).filterMap
      releasedProgram? = [] := by
    rw [List.filterMap_eq_nil_iff]
    simp only [List.mem_map, forall_exists_index, and_imp]
    rintro _ stage - rfl
    rfl
  simp only [List.filterMap_append, notBefore, notStages, List.nil_append]
  split <;> rfl

theorem FillCalls.not_reflects (filled : FillCalls object fails filling) :
    ∀ call ∈ filling, call.reflects = false := by
  obtain ⟨building, builds, rfl⟩ := filled
  intro call member
  simp only [List.mem_append, List.mem_map] at member
  rcases member with member | ⟨stage, -, rfl⟩ | member
  · rcases builds call member with building | ⟨binary, rfl⟩
    · exact (of_builds building).2.2.2
    · rfl
  · rfl
  · split at member
    · rw [List.mem_singleton] at member
      subst member
      rfl
    · cases member

/-- An object is filled between the call that made it and calls that select and
upload. -/
theorem FillCalls.stagesReleased (filled : FillCalls object fails filling)
    (reflects : ∀ call ∈ reflecting, call.reflects) :
    StagesReleased (.createProgram (.ok object) :: (filling ++ reflecting)) := by
  obtain ⟨building, builds, rfl⟩ := filled
  refine ⟨.createProgram (.ok object) :: building,
    (building.filterMap madeStage?).map .deleteStage ++
      ((if fails then [.deleteProgram object] else []) ++ reflecting), by simp, ?_, ?_, ?_⟩
  · intro call member
    rcases List.mem_cons.mp member with rfl | member
    · rfl
    · rcases builds call member with building | ⟨binary, rfl⟩
      · exact (of_builds building).1
      · rfl
  · intro call member
    simp only [List.mem_append, List.mem_map] at member
    rcases member with ⟨stage, -, rfl⟩ | member | member
    · exact ⟨rfl, by simp⟩
    · split at member
      · rw [List.mem_singleton] at member
        subst member
        exact ⟨rfl, by simp⟩
      · cases member
    · have kind := of_reflects (reflects call member)
      exact ⟨kind.1, kind.2.2.2.2⟩
  · have released : ∀ stages : List StageId,
        (stages.map DeviceCall.deleteStage).filterMap releasedStage? = stages := by
      intro stages
      rw [List.filterMap_map]
      exact List.filterMap_some
    have noneReflecting : reflecting.filterMap releasedStage? = [] := by
      rw [List.filterMap_eq_nil_iff]
      exact fun call member => (of_reflects (reflects call member)).2.1
    have noneAtEnd : (if fails then [DeviceCall.deleteProgram object] else []).filterMap
        releasedStage? = [] := by
      split <;> rfl
    simp only [List.filterMap_append, released, noneReflecting, noneAtEnd, List.append_nil]
    rfl

end Filling

/-- What making a program does to the driver and to the session. -/
structure OrderlyCreation (name : String) (vertex fragment : Option String)
    (before : Session (Recorded δ)) (result : Except ProgramError ProgramHandle)
    (after : Session (Recorded δ)) (made : List DeviceCall) : Prop where
  logged : after.calls = before.calls ++ made
  stages_released : StagesReleased made
  /-- A failure leaves the session as it was and releases the program object. -/
  failure_undone : ∀ failure, result = .error failure →
    after.programs = before.programs ∧ after.bound = before.bound ∧
      after.files = before.files ∧ (∀ call ∈ made, call.reflects = false) ∧
      made.filterMap releasedProgram? = made.filterMap madeProgram? ∧
      (made.filterMap madeProgram?).length ≤ 1
  /-- Without any text the driver is not asked at all. -/
  blank_quiet : ¬ HasStage vertex fragment →
    result = .error (.shader (.emptySource name)) ∧ made = []
  /-- The failure about missing text is the session's own, unless the driver itself
  answers with it. -/
  blank_only : ∀ other, result = .error (.shader (.emptySource other)) →
    made = [] ∨ .emptySource other ∈ made.filterMap failure?
  /-- A success keeps the program object and selects the bound program again. -/
  success_reselects : ∀ handle, result = .ok handle →
    made.filterMap releasedProgram? = [] ∧
      (made.filterMap selection?).getLast? = some (before.boundProgram?.map (·.object))

theorem calls_withObject (session : Session (Recorded δ)) :
    session.withObject.calls = session.calls ++ [.createProgram session.objectAnswer] :=
  rfl

/-- The program that was bound is selected last. -/
theorem calls_adopt (name : String) (program : Dialect.RecastProgram) (object : ProgramId)
    (fromCache : Bool) (session : Session (Recorded δ)) :
    ∃ reflecting, (∀ call ∈ reflecting, call.reflects) ∧
      ((adopt name program object fromCache).run session).state.calls =
        session.calls ++ (reflecting ++ [.useProgram (session.boundProgram?.map (·.object))]) := by
  obtain ⟨reflecting, logged, reflects⟩ := logs_build object session.device
  refine ⟨reflecting, reflects, ?_⟩
  rw [adopt_state, ← List.append_assoc]
  change (Recorded.calls _) ++ _ = _
  rw [logged]
  rfl

/-- The program that is bound does not change while an object is filled. -/
theorem boundProgram?_fill (name : String) (program : Dialect.RecastProgram)
    (object : ProgramId) (session : Session (Recorded δ)) :
    ((fill name program object).run session).state.boundProgram? = session.boundProgram? := by
  have kept := preserves_fill name program object session
  simp only [core, Prod.mk.injEq] at kept
  obtain ⟨programs, bound, -⟩ := kept
  unfold boundProgram?
  rw [programs, bound]

section Exits

variable {name : String} {vertex fragment : Option String} {session : Session (Recorded δ)}
  {object : ProgramId}

theorem orderly_failed {failure : ShaderError} (stage : HasStage vertex fragment)
    (makes : session.objectAnswer = .ok object)
    (fails : ((fill name (session.recast vertex fragment) object).run
      session.withObject).value = .error failure) :
    ∃ made, OrderlyCreation name vertex fragment session (.error (.shader failure))
      ((fill name (session.recast vertex fragment) object).run session.withObject).state made := by
  obtain ⟨filling, logged, filled, answered⟩ :=
    logs_fill name (session.recast vertex fragment) object session.withObject
  rw [fails] at filled answered
  have kept := holdings_of_fill_error fails
  simp only [holdings, core, Prod.mk.injEq] at kept
  obtain ⟨⟨programs, bound, -⟩, files⟩ := kept
  refine ⟨.createProgram (.ok object) :: filling, ?_, ?_, ?_, ?_, ?_, ?_⟩
  · rw [logged, calls_withObject, makes]
    simp
  · have noneReflecting : ∀ call ∈ ([] : List DeviceCall), call.reflects := by simp
    simpa using filled.stagesReleased noneReflecting
  · refine fun _ _ => ⟨programs, bound, files, ?_, ?_, ?_⟩
    · intro call member
      rcases List.mem_cons.mp member with rfl | member
      · rfl
      · exact filled.not_reflects call member
    · have released := filled.releasedProgram
      simp [List.filterMap_cons, releasedProgram?, madeProgram?, released,
        filled.madeProgram, Except.toOption]
    · simp [madeProgram?, filled.madeProgram]
  · exact fun noStage => absurd stage noStage
  · intro other failed
    cases failed
    obtain verdict | refused := answered (.emptySource other) rfl
    · cases verdict
    · exact Or.inr (by simpa [List.filterMap_cons, failure?] using refused.mem_failures)
  · intro handle succeeds
    cases succeeds

theorem orderly_adopted {fromCache : Bool} {filled : Session (Recorded δ)}
    (stage : HasStage vertex fragment) (makes : session.objectAnswer = .ok object)
    (fills : ((fill name (session.recast vertex fragment) object).run
      session.withObject).value = .ok fromCache)
    (isFilled : filled =
      ((fill name (session.recast vertex fragment) object).run session.withObject).state) :
    ∃ made, OrderlyCreation name vertex fragment session
      (.ok ((adopt name (session.recast vertex fragment) object fromCache).run filled).value)
      ((adopt name (session.recast vertex fragment) object fromCache).run filled).state made := by
  obtain ⟨filling, logged, shown, -⟩ :=
    logs_fill name (session.recast vertex fragment) object session.withObject
  rw [fills] at shown
  rw [← isFilled] at logged
  obtain ⟨reflecting, onlyReflects, loggedLater⟩ :=
    calls_adopt name (session.recast vertex fragment) object fromCache filled
  have sameBound : filled.boundProgram? = session.boundProgram? := by
    rw [isFilled, boundProgram?_fill]
    rfl
  rw [sameBound] at loggedLater
  -- The selection at the end counts as part of reflecting.
  have allReflect : ∀ call ∈ reflecting ++
      [.useProgram (session.boundProgram?.map (·.object))], call.reflects := by
    intro call member
    rcases List.mem_append.mp member with early | last
    · exact onlyReflects call early
    · rw [List.mem_singleton] at last
      subst last
      rfl
  refine ⟨.createProgram (.ok object) :: (filling ++
    (reflecting ++ [.useProgram (session.boundProgram?.map (·.object))])), ?_, ?_, ?_, ?_,
    ?_, ?_⟩
  · rw [loggedLater, logged, calls_withObject, makes]
    simp
  · exact shown.stagesReleased allReflect
  · intro failure failed
    cases failed
  · exact fun noStage => absurd stage noStage
  · intro other failed
    cases failed
  · intro handle succeeds
    constructor
    · have noneReflecting : (reflecting ++ [DeviceCall.useProgram
          (session.boundProgram?.map (·.object))]).filterMap releasedProgram? = [] := by
        rw [List.filterMap_eq_nil_iff]
        exact fun call member => (of_reflects (allReflect call member)).2.2.2.1
      have released := shown.releasedProgram
      rw [List.filterMap_cons, List.filterMap_append, noneReflecting, released]
      rfl
    · rw [← List.append_assoc, ← List.cons_append, List.filterMap_append]
      exact List.getLast?_concat

end Exits

theorem create_orderly (name : String) (vertex fragment : Option String)
    (session : Session (Recorded δ)) :
    ∃ made, OrderlyCreation name vertex fragment session
      ((create name vertex fragment).run session).value
      ((create name vertex fragment).run session).state made := by
  refine create_elim name vertex fragment session fun result final ends => ?_
  cases ends with
  | blank noStage =>
      refine ⟨[], (List.append_nil _).symm, ⟨[], [], by simp⟩, ?_, ?_, ?_, ?_⟩
      · exact fun _ _ => ⟨rfl, rfl, rfl, by simp⟩
      · exact fun _ => ⟨rfl, rfl⟩
      · exact fun _ _ => Or.inl rfl
      · intro handle succeeds
        cases succeeds
  | @refused failure stage refuses =>
      refine ⟨[.createProgram (.error failure)], ?_, ?_, ?_, ?_, ?_, ?_⟩
      · rw [calls_withObject, refuses]
      · exact ⟨[.createProgram (.error failure)], [], by simp [releasedStage?, madeStage?]⟩
      · exact fun _ _ => ⟨rfl, rfl, rfl, by simp [reflects], rfl, Nat.zero_le _⟩
      · exact fun noStage => absurd stage noStage
      · intro other failed
        cases failed
        exact Or.inr (by simp [failure?])
      · intro handle succeeds
        cases succeeds
  | failed stage makes fails => exact orderly_failed stage makes fails
  | adopted stage makes fills isFilled => exact orderly_adopted stage makes fills isFilled

/-- A handle that a request refuses leaves the session as it was. -/
theorem bind_error_unchanged {handle : Option ProgramHandle} {session : Session δ}
    {failure : ProgramError} (fails : ((bind handle).run session).value = .error failure) :
    ((bind handle).run session).state = session := by
  revert fails
  refine bind_elim handle session ?_
  rintro _ final ends rfl
  cases ends with
  | stale other notLive => rfl

theorem delete_error_unchanged {handle : ProgramHandle} {session : Session δ}
    {failure : ProgramError} (sound : session.Sound)
    (fails : ((delete handle).run session).value = .error failure) :
    ((delete handle).run session).state = session := by
  revert fails
  refine delete_elim handle session ?_
  rintro _ final ends rfl
  cases ends with
  | stale notLive =>
      unfold without
      rw [if_neg]
      intro isBound
      have live := sound.bound_live handle isBound
      rw [notLive] at live
      cases live

/-- However the driver answers, in every state that a session reaches the bound
handle is live, making a program is orderly, and a refused handle changes nothing
and asks the driver for nothing. -/
theorem requests_release_and_undo (device : Recorded δ) (files : FileTree)
    (cache : CacheSettings) (events : List SessionEvent) :
    let session := (start device files cache).after events
    (∀ handle, session.bound = some handle → (session.programs.get? handle).isSome) ∧
    (∀ name vertex fragment, ∃ made, OrderlyCreation name vertex fragment session
      ((create name vertex fragment).run session).value
      ((create name vertex fragment).run session).state made) ∧
    (∀ handle failure, ((delete handle).run session).value = .error failure →
      ((delete handle).run session).state = session) ∧
    ∀ handle failure, ((bind handle).run session).value = .error failure →
      ((bind handle).run session).state = session := by
  intro session
  have sound : session.Sound := sound_after (sound_start device files cache) events
  refine ⟨sound.bound_live, ?_, ?_, ?_⟩
  · exact fun name vertex fragment => create_orderly name vertex fragment session
  · exact fun handle failure fails => delete_error_unchanged sound fails
  · exact fun handle failure fails => bind_error_unchanged fails

end ShaderPipeline.Session
