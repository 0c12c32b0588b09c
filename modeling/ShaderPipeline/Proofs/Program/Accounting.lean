import ShaderPipeline.Device.Scripted
import ShaderPipeline.Proofs.Program.Discipline
import ShaderPipeline.Software.Device

/-!
# The counters of a session

A creation ends in one of six ways, which show in its answer, in what the driver
was asked and in the program that the table gained.  The counters say how many
creations ended in each way, and how many programs were not deleted since.
-/

namespace ShaderPipeline

namespace DeviceCall

def refusesStage : DeviceCall → Bool
  | .createStage _ (.error _) => true
  | _ => false

def refusesProgram : DeviceCall → Bool
  | .createProgram (.error _) => true
  | _ => false

end DeviceCall

namespace Session

open Action Recorded DeviceCall

inductive Ending where
  /-- A cached binary served. -/
  | served
  | compiled
  | uncompiled
  | unlinked
  /-- The driver did not make a stage object. -/
  | stageless
  /-- There was no text, or the driver did not make a program object. -/
  | unfounded
deriving DecidableEq

/-- The counters after a creation that ended so. -/
def Ending.count (statistics : Statistics) : Ending → Statistics
  | .served =>
      { statistics with
        created := statistics.created + 1
        cacheHits := statistics.cacheHits + 1
        live := statistics.live + 1 }
  | .compiled =>
      { statistics with
        created := statistics.created + 1
        cacheMisses := statistics.cacheMisses + 1
        live := statistics.live + 1 }
  | .uncompiled =>
      { statistics with
        cacheMisses := statistics.cacheMisses + 1
        compileFailures := statistics.compileFailures + 1 }
  | .unlinked =>
      { statistics with
        cacheMisses := statistics.cacheMisses + 1
        linkFailures := statistics.linkFailures + 1 }
  | .stageless => { statistics with cacheMisses := statistics.cacheMisses + 1 }
  | .unfounded => statistics

/-- A creation: the session before and after it, and its answer. -/
structure Creation (δ : Type) where
  before : Session δ
  answer : Except ProgramError ProgramHandle
  after : Session δ

namespace Creation

variable {δ : Type}

def calls (creation : Creation (Recorded δ)) : List DeviceCall :=
  creation.after.calls.drop creation.before.calls.length

/-- The table gained a program that comes from the cache. -/
def gainedCached (creation : Creation δ) : Bool :=
  creation.before.programs.values.countP (·.fromCache) <
    creation.after.programs.values.countP (·.fromCache)

def ending (creation : Creation (Recorded δ)) : Ending :=
  match creation.answer with
  | .ok _ => if creation.gainedCached then .served else .compiled
  | .error (.shader (.compilationFailed ..)) => .uncompiled
  | .error (.shader (.linkFailed ..)) => .unlinked
  | .error (.shader (.driver _)) =>
      if creation.calls.any refusesStage then .stageless else .unfounded
  | .error _ => .unfounded

/-- A creation succeeds if the cache serves or the texts compile. -/
theorem isOk_iff (creation : Creation (Recorded δ)) :
    creation.answer.isOk ↔ creation.ending = .served ∨ creation.ending = .compiled := by
  unfold ending
  split
  · next isOk =>
      cases creation.gainedCached <;> simp [isOk, Except.isOk, Except.toBool]
  · next isError => simp [isError, Except.isOk, Except.toBool]
  · next isError => simp [isError, Except.isOk, Except.toBool]
  · next isError =>
      cases creation.calls.any refusesStage <;> simp [isError, Except.isOk, Except.toBool]
  · next isError => simp [isError, Except.isOk, Except.toBool]

/-- How many of some creations ended in one way. -/
def ended (ending : Ending) (creations : List (Creation (Recorded δ))) : Nat :=
  creations.countP (·.ending = ending)

end Creation

variable {δ : Type} [ShaderDevice δ]

def creation (name : String) (vertex fragment : Option String) (session : Session δ) :
    Creation δ :=
  let made := (create name vertex fragment).run session
  ⟨session, made.value, made.state⟩

def creationsIn (session : Session δ) : SessionEvent → List (Creation δ)
  | .request (.create name vertex fragment) => [creation name vertex fragment session]
  | _ => []

def creations (session : Session δ) : List SessionEvent → List (Creation δ)
  | [] => []
  | event :: rest => creationsIn session event ++ creations (event.apply session) rest

/-- The answers to deleting one handle after the other. -/
def deletionsOf (session : Session δ) : List ProgramHandle → List (Except ProgramError Unit)
  | [] => []
  | handle :: rest =>
      let deleted := (delete handle).run session
      deleted.value :: deletionsOf deleted.state rest

/-- The deletions of one event.  Clearing a session deletes all its handles. -/
def deletionsIn (session : Session δ) : SessionEvent → List (Except ProgramError Unit)
  | .request (.delete handle) => deletionsOf session [handle]
  | .request .clear => deletionsOf session session.programs.handles
  | _ => []

def deletions (session : Session δ) : List SessionEvent → List (Except ProgramError Unit)
  | [] => []
  | event :: rest => deletionsIn session event ++ deletions (event.apply session) rest

theorem mem_creations {session : Session δ} {events : List SessionEvent} {made : Creation δ}
    (member : made ∈ creations session events) :
    ∃ earlier name vertex fragment,
      made = creation name vertex fragment (session.after earlier) := by
  induction events generalizing session with
  | nil => cases member
  | cons event rest ih =>
      rw [creations, List.mem_append] at member
      rcases member with now | later
      · unfold creationsIn at now
        split at now
        · exact ⟨[], _, _, _, List.mem_singleton.mp now⟩
        · cases now
      · obtain ⟨earlier, name, vertex, fragment, rfl⟩ := ih later
        exact ⟨event :: earlier, name, vertex, fragment, rfl⟩

/-- What happened between two states of the counters. -/
structure Counted (before after : Statistics) (creations : List (Creation (Recorded δ)))
    (deletions : List (Except ProgramError Unit)) : Prop where
  hits : after.cacheHits = before.cacheHits + Creation.ended .served creations
  misses : after.cacheMisses = before.cacheMisses + (Creation.ended .compiled creations +
    Creation.ended .uncompiled creations + Creation.ended .unlinked creations +
    Creation.ended .stageless creations)
  created : after.created = before.created + (Creation.ended .served creations +
    Creation.ended .compiled creations)
  compileFailures : after.compileFailures =
    before.compileFailures + Creation.ended .uncompiled creations
  linkFailures : after.linkFailures = before.linkFailures + Creation.ended .unlinked creations
  live : after.live + deletions.countP (·.isOk) = before.live +
    (Creation.ended .served creations + Creation.ended .compiled creations)

section Counting

omit [ShaderDevice δ]

variable {before between after : Statistics} {creations later : List (Creation (Recorded δ))}
  {deletions moreDeletions : List (Except ProgramError Unit)}

theorem counted_nothing (statistics : Statistics) :
    Counted statistics statistics ([] : List (Creation (Recorded δ))) [] := by
  constructor <;> rfl

theorem Counted.append (first : Counted before between creations deletions)
    (second : Counted between after later moreDeletions) :
    Counted before after (creations ++ later) (deletions ++ moreDeletions) := by
  obtain ⟨hits, misses, created, compileFailures, linkFailures, live⟩ := first
  obtain ⟨hits', misses', created', compileFailures', linkFailures', live'⟩ := second
  constructor
  all_goals
    simp only [Creation.ended, List.countP_append] at *
    omega

theorem counted_ending (statistics : Statistics) (made : Creation (Recorded δ)) :
    Counted statistics (made.ending.count statistics) [made] [] := by
  cases isEnding : made.ending
  all_goals constructor <;> simp [Creation.ended, isEnding, Ending.count]

end Counting

theorem statistics_restore (name : String) (key : UInt32) (object : ProgramId) :
    Preserves (fun session => session.statistics)
      (restore name key object : Action (Session δ) Bool) :=
  preserves_restore_of (fun _ _ => rfl) name key

theorem statistics_compile (name : String) (program : Dialect.RecastProgram) (object : ProgramId)
    (session : Session δ) :
    ((compile name program object).run session).state.statistics =
      match ((compile name program object).run session).value with
      | .ok _ => session.statistics
      | .error failure => countFailure failure session.statistics := by
  generalize isLinked : (program.compileAndLink session.capabilities name object).run
    session.device = linked
  cases links : linked.value with
  | ok done =>
      obtain ⟨value, state⟩ := compile_of_ok session isLinked links
      rw [value, state]
  | error failure =>
      obtain ⟨value, state⟩ := compile_of_error session isLinked links
      rw [value, state]

/-- The counters after an object was filled, or was not. -/
def countFill (statistics : Statistics) : Except ShaderError Bool → Statistics
  | .ok true => { statistics with cacheHits := statistics.cacheHits + 1 }
  | .ok false => { statistics with cacheMisses := statistics.cacheMisses + 1 }
  | .error failure =>
      countFailure failure { statistics with cacheMisses := statistics.cacheMisses + 1 }

theorem statistics_fill (name : String) (program : Dialect.RecastProgram) (object : ProgramId)
    (session : Session δ) :
    ((fill name program object).run session).state.statistics =
      countFill session.statistics ((fill name program object).run session).value := by
  have looked := statistics_restore name (programKey program.vertex program.fragment) object
    session
  refine fill_elim name program object session fun value final ends => ?_
  generalize (restore name (programKey program.vertex program.fragment) object).run session =
    lookup at ends looked
  have counted := statistics_compile name program object lookup.state.withMiss
  have missed : lookup.state.withMiss.statistics =
      { session.statistics with cacheMisses := session.statistics.cacheMisses + 1 } := by
    simp only [withMiss, looked]
  rw [missed] at counted
  cases ends with
  | restored served => simp only [withHit, looked, countFill]
  | compiled unserved compiles =>
      obtain ⟨files, kept⟩ := keep_state name (programKey program.vertex program.fragment) object
        ((compile name program object).run lookup.state.withMiss).state
      rw [compiles] at counted
      rw [kept, counted]
      rfl
  | failed unserved fails =>
      rw [fails] at counted
      exact counted

/-- A driver that cannot make an object says so, and fails in no other way. -/
structure OwnFailures (δ : Type) [ShaderDevice δ] : Prop where
  stage : ∀ stage (device : δ) failure,
    ((ShaderDevice.createStage stage).run device).value = .error failure →
      ∃ reason, failure = .driver reason
  program : ∀ (device : δ) failure, (ShaderDevice.createProgram.run device).value =
    .error failure → ∃ reason, failure = .driver reason

/-- What the counters show of a creation. -/
structure Creation.Shown (made : Creation (Recorded δ)) : Prop where
  counted : made.after.statistics = made.ending.count made.before.statistics
  unfounded : made.calls.any refusesProgram = true → made.ending = .unfounded
  /-- As long as the slots can be numbered, the handle reaches the new program. -/
  served : ∀ handle, made.answer = .ok handle →
    made.before.programs.slots.length < UInt32.size →
      (made.after.program? handle).map (·.fromCache) = some (decide (made.ending = .served))

section Creating

variable {name : String} {vertex fragment : Option String} {session : Session (Recorded δ)}
  {object : ProgramId}

omit [ShaderDevice δ] in
theorem Creation.calls_of_append {answer : Except ProgramError ProgramHandle}
    {final : Session (Recorded δ)} {made : List DeviceCall}
    (logged : final.calls = session.calls ++ made) :
    (⟨session, answer, final⟩ : Creation (Recorded δ)).calls = made := by
  simp only [calls, logged, List.drop_left]

omit [ShaderDevice δ] in
/-- No other program object is asked for while one is filled. -/
theorem FillCalls.not_refusesProgram {fails : Bool} {filling : List DeviceCall}
    (filled : FillCalls object fails filling) : filling.any refusesProgram = false := by
  obtain ⟨building, builds, rfl⟩ := filled
  rw [List.any_eq_false]
  intro call member
  simp only [List.mem_append, List.mem_map] at member
  rcases member with member | ⟨stage, -, rfl⟩ | member
  · rcases builds call member with building | ⟨binary, rfl⟩
    · cases call <;> simp_all [DeviceCall.builds, refusesProgram]
    · simp [refusesProgram]
  · simp [refusesProgram]
  · split at member
    · rw [List.mem_singleton] at member
      subst member
      simp [refusesProgram]
    · cases member

/-- The driver is asked for nothing but a program object. -/
theorem shown_refused {reason : String}
    (refuses : session.objectAnswer = .error (.driver reason)) :
    (⟨session, .error (.shader (.driver reason)), session.withObject⟩ :
      Creation (Recorded δ)).Shown := by
  generalize isMade : (⟨session, .error (.shader (.driver reason)), session.withObject⟩ :
    Creation (Recorded δ)) = made
  have isCalls : made.calls = [.createProgram (.error (.driver reason))] := by
    rw [← isMade]
    refine Creation.calls_of_append ?_
    rw [calls_withObject, refuses]
  have isEnding : made.ending = .unfounded := by
    subst isMade
    simp [Creation.ending, isCalls, refusesStage]
  refine ⟨?_, fun _ => isEnding, ?_⟩
  · rw [isEnding, ← isMade]
    rfl
  · intro handle isOk
    subst isMade
    cases isOk

/-- An object that could not be filled met with a verdict, or lacks a stage object. -/
theorem shown_failed (own : OwnFailures δ) {failure : ShaderError}
    (makes : session.objectAnswer = .ok object)
    (fails : ((fill name (session.recast vertex fragment) object).run
      session.withObject).value = .error failure) :
    let made : Creation (Recorded δ) := ⟨session, .error (.shader failure),
      ((fill name (session.recast vertex fragment) object).run session.withObject).state⟩
    made.Shown := by
  intro made
  have counted := statistics_fill name (session.recast vertex fragment) object session.withObject
  obtain ⟨filling, logged, filled, answered⟩ :=
    logs_fill name (session.recast vertex fragment) object session.withObject
  rw [fails] at counted answered
  have isCalls : made.calls = .createProgram (.ok object) :: filling := by
    refine Creation.calls_of_append ?_
    rw [logged, calls_withObject, makes, List.append_assoc]
    rfl
  refine ⟨?_, ?_, fun _ isOk => by cases isOk⟩
  · cases failure with
    | emptySource other =>
        obtain verdict | ⟨stage, -, device, refused⟩ := answered _ rfl
        · cases verdict
        · obtain ⟨reason, isDriver⟩ := own.stage stage device _ refused
          cases isDriver
    | compilationFailed program stage log listing => exact counted
    | linkFailed program log => exact counted
    | driver reason =>
        obtain verdict | ⟨stage, member, -⟩ := answered _ rfl
        · cases verdict
        · have refuses : made.calls.any refusesStage = true := by
            rw [isCalls, List.any_eq_true]
            exact ⟨_, List.mem_cons_of_mem _ member, rfl⟩
          have isEnding : made.ending = .stageless := if_pos refuses
          rw [isEnding]
          exact counted
  · rw [isCalls, List.any_cons, filled.not_refusesProgram]
    rintro ⟨⟩

/-- The table gains one program, which knows whether the cache served. -/
theorem adopt_adds (name : String) (program : Dialect.RecastProgram) (object : ProgramId)
    (fromCache : Bool) (session : Session (Recorded δ)) :
    let adopted := (adopt name program object fromCache).run session
    ∃ linked : LinkedProgram, linked.fromCache = fromCache ∧
      adopted.value = (session.programs.insert linked).1 ∧
      adopted.state.programs = (session.programs.insert linked).2 ∧
      adopted.state.statistics =
        { session.statistics with
          created := session.statistics.created + 1
          live := (session.programs.insert linked).2.live } :=
  ⟨linkedAs name program object fromCache ((Reflection.build object).run session.device).value,
    rfl, rfl, rfl, rfl⟩

/-- A program in the table shows whether the cache served. -/
theorem shown_adopted (sound : session.Sound) {fromCache : Bool}
    {filled : Session (Recorded δ)} (makes : session.objectAnswer = .ok object)
    (fills : ((fill name (session.recast vertex fragment) object).run
      session.withObject).value = .ok fromCache)
    (isFilled : filled =
      ((fill name (session.recast vertex fragment) object).run session.withObject).state) :
    let adopted := (adopt name (session.recast vertex fragment) object fromCache).run filled
    let made : Creation (Recorded δ) := ⟨session, .ok adopted.value, adopted.state⟩
    made.Shown := by
  intro adopted made
  have counted := statistics_fill name (session.recast vertex fragment) object session.withObject
  obtain ⟨filling, logged, shown, -⟩ :=
    logs_fill name (session.recast vertex fragment) object session.withObject
  rw [← isFilled] at counted logged
  rw [fills] at counted
  obtain ⟨linked, isFrom, value, programs, statistics⟩ :=
    adopt_adds name (session.recast vertex fragment) object fromCache filled
  have samePrograms : filled.programs = session.programs := by
    rw [isFilled]
    exact congrArg (·.1) (preserves_fill _ _ _ session.withObject)
  rw [samePrograms] at value programs statistics
  have isEnding : made.ending = if fromCache then .served else .compiled := by
    have gained : made.gainedCached = fromCache := by
      have perm := ProgramTable.values_insert_perm sound.table linked
      have isGained : made.gainedCached =
          decide (session.programs.values.countP (·.fromCache) <
            adopted.state.programs.values.countP (·.fromCache)) := rfl
      rw [isGained, programs, perm.countP_eq, List.countP_cons, isFrom]
      cases fromCache <;> simp
    rw [← gained]
    rfl
  refine ⟨?_, ?_, ?_⟩
  · rw [isEnding, show made.after = adopted.state from rfl, statistics, counted,
      ProgramTable.live_insert sound.table, ← sound.counted]
    cases fromCache <;> rfl
  · obtain ⟨reflecting, onlyReflects, loggedLater⟩ :=
      calls_adopt name (session.recast vertex fragment) object fromCache filled
    have isCalls : made.calls = .createProgram (.ok object) :: (filling ++ (reflecting ++
        [.useProgram (filled.boundProgram?.map (·.object))])) := by
      refine Creation.calls_of_append ?_
      rw [loggedLater, logged, calls_withObject, makes]
      simp only [List.append_assoc]
      rfl
    have noneReflecting : reflecting.any refusesProgram = false := by
      rw [List.any_eq_false]
      intro call member
      have reflects := onlyReflects call member
      cases call <;> simp_all [DeviceCall.reflects, refusesProgram]
    rw [isCalls, List.any_cons, List.any_append, List.any_append, shown.not_refusesProgram,
      noneReflecting]
    rintro ⟨⟩
  · rintro _ ⟨⟩ numbered
    rw [show made.after = adopted.state from rfl, program?, value, programs,
      ProgramTable.get?_insert_self sound.table linked numbered, isEnding, Option.map_some, isFrom]
    cases fromCache <;> rfl

theorem shown_creation (own : OwnFailures δ) (sound : session.Sound) (name : String)
    (vertex fragment : Option String) : (creation name vertex fragment session).Shown := by
  unfold creation
  dsimp only
  refine create_elim name vertex fragment session fun value final ends => ?_
  cases ends with
  | blank noStage => exact ⟨rfl, fun _ => rfl, fun _ isOk => by cases isOk⟩
  | refused stage refuses =>
      obtain ⟨reason, rfl⟩ := own.program _ _ refuses
      exact shown_refused refuses
  | failed stage makes fails => exact shown_failed own makes fails
  | adopted stage makes fills isFilled => exact shown_adopted sound makes fills isFilled

end Creating

section Running

variable {session : Session (Recorded δ)}

theorem counted_delete (sound : session.Sound) (handle : ProgramHandle) :
    Counted session.statistics ((delete handle).run session).state.statistics
      ([] : List (Creation (Recorded δ))) [((delete handle).run session).value] := by
  refine delete_elim handle session fun value final ends => ?_
  cases ends with
  | stale notLive =>
      rw [without_statistics]
      exact ⟨rfl, rfl, rfl, rfl, rfl, rfl⟩
  | deleted removed =>
      refine ⟨rfl, rfl, rfl, rfl, rfl, ?_⟩
      have live := ProgramTable.live_remove? sound.table removed
      exact live.symm.trans sound.counted.symm

theorem counted_deletionsOf (sound : session.Sound) (handles : List ProgramHandle) :
    Counted session.statistics
      ((forEach deleteOrWarn handles).run session).state.statistics
      ([] : List (Creation (Recorded δ))) (deletionsOf session handles) := by
  induction handles generalizing session with
  | nil => exact counted_nothing _
  | cons handle rest ih =>
      rw [state_forEach_cons, state_deleteOrWarn]
      exact (counted_delete sound handle).append (ih (sound_delete sound handle))

theorem counted_apply (own : OwnFailures δ) (sound : session.Sound) (event : SessionEvent) :
    Counted session.statistics (event.apply session).statistics (creationsIn session event)
      (deletionsIn session event) := by
  have unchanged : ∀ {final : Session (Recorded δ)}, final.statistics = session.statistics →
      Counted session.statistics final.statistics ([] : List (Creation (Recorded δ))) [] := by
    intro final same
    rw [same]
    exact counted_nothing _
  cases event with
  | files tree => exact unchanged rfl
  | request asked =>
      cases asked with
      | create name vertex fragment =>
          have isCounted := (shown_creation own sound name vertex fragment).counted
          change Counted _ (creation name vertex fragment session).after.statistics _ _
          rw [isCounted]
          exact counted_ending _ _
      | delete handle => exact counted_delete sound handle
      | bind handle =>
          refine unchanged ?_
          change ((bind handle).run session).state.statistics = _
          refine bind_elim handle session fun value final ends => ?_
          cases ends <;> rfl
      | setConstant slot data count rowMajor =>
          exact unchanged (congrArg (·.2) (setConstant_ends slot data count rowMajor session).sameHoldings)
      | setConstantByName name data =>
          exact unchanged (congrArg (·.2) (setConstantByName_ends name data session).sameHoldings)
      | bindTexture unit texture => exact unchanged rfl
      | clear => exact counted_deletionsOf sound session.programs.handles

theorem counted_after (own : OwnFailures δ) (sound : session.Sound)
    (events : List SessionEvent) :
    Counted session.statistics (session.after events).statistics (creations session events)
      (deletions session events) := by
  induction events generalizing session with
  | nil => exact counted_nothing _
  | cons event rest ih =>
      exact (counted_apply own sound event).append (ih (sound_apply sound event))

end Running

omit [ShaderDevice δ] in
theorem countP_isOk (creations : List (Creation (Recorded δ))) :
    creations.countP (·.answer.isOk) =
      Creation.ended .served creations + Creation.ended .compiled creations := by
  induction creations with
  | nil => rfl
  | cons made rest ih =>
      have isOk := made.isOk_iff
      rw [List.countP_cons, ih]
      simp only [Creation.ended, List.countP_cons, decide_eq_true_eq]
      by_cases served : made.ending = .served
      · simp [isOk, served]
        omega
      · by_cases compiled : made.ending = .compiled
        · simp [isOk, compiled]
          omega
        · simp [isOk, served, compiled]

/-- The counters of a session account for everything that it was asked. -/
structure Accounted (session : Session (Recorded δ)) (creations : List (Creation (Recorded δ)))
    (deletions : List (Except ProgramError Unit)) : Prop where
  /-- Whoever got a program object looked into the cache, once. -/
  lookups : session.statistics.cacheHits + session.statistics.cacheMisses =
    session.statistics.created + session.statistics.compileFailures +
      session.statistics.linkFailures + Creation.ended .stageless creations
  created : session.statistics.created = creations.countP (·.answer.isOk)
  compileFailures : session.statistics.compileFailures = Creation.ended .uncompiled creations
  linkFailures : session.statistics.linkFailures = Creation.ended .unlinked creations
  hits : session.statistics.cacheHits = Creation.ended .served creations
  /-- The program of a new handle says that it was served, as long as the slots can be
  numbered. -/
  served : ∀ made ∈ creations, ∀ handle, made.answer = .ok handle →
    made.before.programs.slots.length < UInt32.size →
      (made.after.program? handle).map (·.fromCache) = some (decide (made.ending = .served))
  /-- Without a text or a program object nothing is counted. -/
  unfounded : ∀ made ∈ creations,
    (∃ name, made.answer = .error (.shader (.emptySource name))) ∨
      made.calls.any refusesProgram → made.after.statistics = made.before.statistics
  deleted : session.statistics.live + deletions.countP (·.isOk) = session.statistics.created
  live : session.statistics.live = session.programs.handles.length

/-- Whatever the driver does and the cache holds, the counters account for the whole run. -/
theorem counters_account_for_run (own : OwnFailures δ) (device : Recorded δ) (files : FileTree)
    (cache : CacheSettings) (events : List SessionEvent) :
    let fresh := start device files cache
    (fresh.after events).Accounted (creations fresh events) (deletions fresh events) := by
  intro fresh
  have sound : fresh.Sound := sound_start device files cache
  have shown : ∀ made ∈ creations fresh events, made.Shown := by
    intro made member
    obtain ⟨earlier, name, vertex, fragment, rfl⟩ := mem_creations member
    exact shown_creation own (sound_after sound earlier) name vertex fragment
  obtain ⟨hits, misses, created, compileFailures, linkFailures, live⟩ :=
    counted_after own sound events
  have none : fresh.statistics = {} := rfl
  simp only [none, Nat.zero_add] at hits misses created compileFailures linkFailures live
  refine ⟨?_, ?_, compileFailures, linkFailures, hits, ?_, ?_, ?_, ?_⟩
  · omega
  · rw [countP_isOk, created]
  · exact fun made member => (shown made member).served
  · intro made member blank
    have isUnfounded : made.ending = .unfounded := by
      obtain ⟨name, isBlank⟩ | refused := blank
      · simp only [Creation.ending, isBlank]
      · exact (shown made member).unfounded refused
    rw [(shown made member).counted, isUnfounded]
    rfl
  · omega
  · have final := sound_after sound events
    rw [final.counted, ProgramTable.live_eq_length_values final.table,
      ProgramTable.length_handles]

theorem ownFailures_scripted : OwnFailures (Scripted Software.Device) where
  stage := by
    intro stage device failure
    change ((Scripted.createStage stage).run device).value = _ → _
    unfold Scripted.createStage
    rw [run_get_bind]
    split
    · rintro ⟨⟩
      exact ⟨_, rfl⟩
    · rintro ⟨⟩
    · rintro ⟨⟩
  program := by
    intro device failure
    change (Scripted.createProgram.run device).value = _ → _
    unfold Scripted.createProgram
    rw [run_get_bind]
    split
    · rintro ⟨⟩
      exact ⟨_, rfl⟩
    · rintro ⟨⟩

/-- A driver that makes no stage object. -/
def barren : Recorded (Scripted Software.Device) :=
  ⟨⟨{ capabilities := .gl33, binaryFormat := 1 }, { failStage := some (0, "exhausted") }⟩, []⟩

/-- Three creations that come to nothing, and nothing to delete. -/
def vainRun : List SessionEvent :=
  [ .request (.create "lamp" (some "void main() { }") none),
    .request (.create "blank" none (some " ")),
    .request (.create "sky" none (some "void main() { }")),
    .request (.delete ⟨0, 0⟩),
    .request .clear ]

theorem counters_account_for_vainRun :
    let fresh := start barren {} { enabled := false }
    OwnFailures (Scripted Software.Device) ∧
    (creations fresh vainRun).map (·.ending) = [.stageless, .unfounded, .stageless] ∧
    (fresh.after vainRun).Accounted (creations fresh vainRun) (deletions fresh vainRun) :=
  ⟨ownFailures_scripted, by decide +kernel,
    counters_account_for_run ownFailures_scripted barren {} { enabled := false } vainRun⟩

end Session

end ShaderPipeline
