import ShaderPipeline.Proofs.Program.Isolation
import ShaderPipeline.Proofs.Program.Tearing
import ShaderPipeline.Proofs.Software.Runs

/-!
# Programs and the texts in their objects

An object that was filled holds the texts of some stages, be they from the cache or
from source, and the tables of the program are those of these texts.  So what a
session knows about the uniforms of a program follows from linked texts, as long as
the session lives.
-/

namespace ShaderPipeline

open Action Software Software.Device Dialect Dialect.RecastProgram

namespace Software.Device

variable {object : ProgramId} {device : Device}

/-- A program that was linked holds the texts that it was linked from. -/
theorem contentOf_linkProgram
    (linked : ((linkProgram object).run device).state.linkStatus object) :
    ∃ stages, contentOf object ((linkProgram object).run device).state =
      some (linkedContent stages) := by
  have found : ((linkProgram object).run device).state.programs.find? object =
      (device.programs.find? object).map (·.link device.failLinks) :=
    find?_adjustProgram object _ device
  rw [linkStatus, found] at linked
  cases isEntry : device.programs.find? object with
  | none =>
      rw [isEntry] at linked
      cases linked
  | some entry =>
      rw [isEntry, Option.map_some] at found linked
      rcases link_cases entry device.failLinks with ⟨log, refuses⟩ | ⟨stages, relinks⟩
      · rw [refuses] at linked
        cases linked
      · rw [relinks] at found
        exact ⟨stages, contentOf_relink found⟩

theorem contentOf_linkAttached {name : String}
    (links : ((linkAttached name object).run device).value = .ok ()) :
    ∃ stages, contentOf object ((linkAttached name object).run device).state =
      some (linkedContent stages) := by
  unfold linkAttached at links ⊢
  rw [run_bind, run_read_bind] at links ⊢
  by_cases linked : ShaderDevice.linkStatus
      ((ShaderDevice.linkProgram object).run device).state object = true
  · rw [if_pos linked]
    exact contentOf_linkProgram linked
  · rw [if_neg linked] at links
    cases links

/-- A program that was compiled and linked holds the texts of some stages. -/
theorem contentOf_compileAndLink {caps : Capabilities} {name : String} {program : RecastProgram}
    (links : ((program.compileAndLink caps name object).run device).value = .ok ()) :
    ∃ stages, contentOf object ((program.compileAndLink caps name object).run device).state =
      some (linkedContent stages) := by
  generalize isCompiled : (compileStages name program.stages).run device = compiled
  cases compiles : compiled.value.2 with
  | error failure =>
      rw [← isCompiled] at compiles
      rw [(compileAndLink_of_error caps object compiles).1] at links
      cases links
  | ok done =>
      obtain ⟨value, state⟩ := compileAndLink_of_ok caps object isCompiled compiles
      rw [value] at links
      unfold attachAndLink at links
      simp only [run_bind] at links
      obtain ⟨stages, content⟩ := contentOf_linkAttached links
      have released := preserves_forEach preserves_deleteStage compiled.value.1
        ((attachAndLink caps name program object compiled.value.1).run compiled.state).state
      simp only [programSide, Prod.mk.injEq] at released
      rw [state, shaderDevice_deleteStage, contentOf, released.1]
      exact ⟨stages, content⟩

end Software.Device

namespace Session

variable {session : Session Device} {name : String} {vertex fragment : Option String}
  {program : RecastProgram} {object : ProgramId} {fromCache : Bool}

/-- An object that was filled holds the texts of some stages. -/
theorem content_of_fill
    (fills : ((fill name program object).run session).value = .ok fromCache) :
    ∃ held, contentOf object ((fill name program object).run session).state.device =
      some (linkedContent held) := by
  revert fills
  refine fill_elim name program object session ?_
  rintro _ final ends rfl
  cases ends with
  | restored served =>
      obtain ⟨settings, binary, -, -, isDevice, linked⟩ := restore_of_served served
      rw [withHit, isDevice]
      rw [isDevice] at linked
      obtain ⟨held, -, content⟩ := contentOf_loadBinary linked
      exact ⟨held, content⟩
  | compiled unserved compiles =>
      generalize ((restore name (programKey program.vertex program.fragment) object).run
        session).state.withMiss = looked at compiles ⊢
      obtain ⟨files, kept⟩ := keep_state name (programKey program.vertex program.fragment) object
        ((compile name program object).run looked).state
      rw [kept]
      cases links : ((program.compileAndLink looked.capabilities name object).run
          looked.device).value with
      | error failure =>
          rw [(compile_of_error looked rfl links).1] at compiles
          cases compiles
      | ok done =>
          rw [(compile_of_ok looked rfl links).2]
          exact contentOf_compileAndLink links

/-- Making a program gave it this handle, and this is what the session knows about it. -/
structure Made (name : String) (vertex fragment : Option String) (session : Session Device)
    (handle : ProgramHandle) (program : LinkedProgram) : Prop where
  value : ((create name vertex fragment).run session).value = .ok handle
  live : ((create name vertex fragment).run session).state.program? handle = some program

/-- The steps in which a program was made: a new object was filled and taken into the table. -/
structure MadeFrom (name : String) (vertex fragment : Option String) (session : Session Device)
    (object : ProgramId) (fromCache : Bool) (held : List (Stage × String)) : Prop where
  stage : HasStage vertex fragment
  makes : session.objectAnswer = .ok object
  fills : ((fill name (session.recast vertex fragment) object).run session.withObject).value =
    .ok fromCache
  content : contentOf object ((fill name (session.recast vertex fragment) object).run
    session.withObject).state.device = some (linkedContent held)

/-- A program is made in these steps only. -/
theorem exists_madeFrom {handle : ProgramHandle}
    (makes : ((create name vertex fragment).run session).value = .ok handle) :
    ∃ object fromCache held, MadeFrom name vertex fragment session object fromCache held := by
  revert makes
  refine create_elim name vertex fragment session fun value final ends isValue => ?_
  cases ends with
  | blank noStage => cases isValue
  | refused stage refuses => cases isValue
  | failed stage makes fails => cases isValue
  | adopted stage makes fills isFilled =>
      obtain ⟨held, content⟩ := content_of_fill fills
      exact ⟨_, _, held, stage, makes, fills, content⟩

variable {held : List (Stage × String)}

/-- What the session knows about a program whose object holds these texts. -/
def recordOf (name : String) (program : RecastProgram) (object : ProgramId) (fromCache : Bool)
    (held : List (Stage × String)) : LinkedProgram :=
  linkedAs name program object fromCache (reflectionOf held)

@[simp]
theorem reflection_recordOf (name : String) (program : RecastProgram) (object : ProgramId)
    (fromCache : Bool) (held : List (Stage × String)) :
    (recordOf name program object fromCache held).reflection = reflectionOf held :=
  rfl

@[simp]
theorem object_recordOf (name : String) (program : RecastProgram) (object : ProgramId)
    (fromCache : Bool) (held : List (Stage × String)) :
    (recordOf name program object fromCache held).object = object :=
  rfl

/-- The session after a program was made. -/
theorem MadeFrom.create_eq
    (made : MadeFrom name vertex fragment session object fromCache held) :
    let filled := ((fill name (session.recast vertex fragment) object).run
      session.withObject).state
    let inserted := session.programs.insert
      (recordOf name (session.recast vertex fragment) object fromCache held)
    ((create name vertex fragment).run session).value = .ok inserted.1 ∧
      ((create name vertex fragment).run session).state =
        { filled with
          device := deviceAfterAdopt object filled
          programs := inserted.2
          statistics :=
            { filled.statistics with
              created := filled.statistics.created + 1
              live := inserted.2.live } } := by
  intro filled inserted
  obtain ⟨stage, makes, fills, content⟩ := made
  have sameCore := preserves_fill name (session.recast vertex fragment) object session.withObject
  have programs : filled.programs = session.programs := congrArg (·.1) sameCore
  obtain ⟨tables, -⟩ := build_of_content content
  refine create_elim name vertex fragment session fun value final ends => ?_
  cases ends with
  | blank noStage => exact absurd stage noStage
  | refused _ refuses =>
      rw [makes] at refuses
      cases refuses
  | failed _ makes' fails =>
      cases makes.symm.trans makes'
      rw [fills] at fails
      cases fails
  | @adopted object' fromCache' _ _ makes' fills' isFilled =>
      cases makes.symm.trans makes'
      cases fills.symm.trans fills'
      subst isFilled
      rw [adopt_value, adopt_state, tables, programs]
      exact ⟨rfl, rfl⟩

/-- A program that was made is found under its handle. -/
theorem MadeFrom.made (made : MadeFrom name vertex fragment session object fromCache held)
    (sound : session.Sound) (numbered : session.programs.slots.length < UInt32.size) :
    let program := recordOf name (session.recast vertex fragment) object fromCache held
    Made name vertex fragment session (session.programs.insert program).1 program := by
  obtain ⟨value, state⟩ := made.create_eq
  refine ⟨value, ?_⟩
  rw [state]
  exact ProgramTable.get?_insert_self sound.table _ numbered

/-- The object of a program that was made holds its texts. -/
theorem MadeFrom.linkedSource?_eq
    (made : MadeFrom name vertex fragment session object fromCache held) (stage : Stage) :
    ((create name vertex fragment).run session).state.device.linkedSource? object stage =
      (held.find? (·.1 == stage)).map (·.2) := by
  rw [made.create_eq.2]
  obtain ⟨-, reflected, -⟩ := build_of_content made.content
  exact linkedSource?_of_reflected ((contentOf_useProgram object _ _).trans reflected) stage

/-- What the session knows about the uniforms of its programs follows from linked texts. -/
def Reflected (session : Session Device) : Prop :=
  ∀ program ∈ session.programs.values, ∃ held, program.reflection = reflectionOf held

theorem Reflected.of_programs {final : Session Device} (reflected : session.Reflected)
    (same : final.programs = session.programs) : final.Reflected := by
  unfold Reflected
  rw [same]
  exact reflected

theorem reflected_create (reflected : session.Reflected) (sound : session.Sound) (name : String)
    (vertex fragment : Option String) :
    ((create name vertex fragment).run session).state.Reflected := by
  cases result : ((create name vertex fragment).run session).value with
  | error failure =>
      refine reflected.of_programs ?_
      revert result
      refine create_elim name vertex fragment session ?_
      rintro _ final ends rfl
      cases ends with
      | blank noStage => rfl
      | refused stage refuses => rfl
      | failed stage makes fails =>
          exact congrArg (·.1) (preserves_fill _ _ _ session.withObject)
  | ok handle =>
      obtain ⟨object, fromCache, held, made⟩ := exists_madeFrom result
      rw [made.create_eq.2]
      intro program member
      have members := ProgramTable.values_insert_perm sound.table
        (recordOf name (session.recast vertex fragment) object fromCache held)
      rcases List.mem_cons.mp (members.mem_iff.mp member) with rfl | old
      · exact ⟨held, rfl⟩
      · exact reflected program old

theorem reflected_delete (reflected : session.Reflected) (handle : ProgramHandle) :
    ((delete handle).run session).state.Reflected := by
  refine delete_elim handle session fun value final ends => ?_
  cases ends with
  | stale notLive => exact reflected.of_programs (without_programs session handle)
  | deleted removed =>
      intro program member
      have members := ProgramTable.values_remove?_perm removed
      exact reflected program (members.mem_iff.mpr (List.mem_cons_of_mem _ member))

theorem reflected_clear (reflected : session.Reflected) :
    ((clear).run session).state.Reflected := by
  unfold clear
  rw [run_read_bind]
  generalize session.programs.handles = handles
  induction handles generalizing session with
  | nil => exact reflected
  | cons handle rest ih =>
      rw [state_forEach_cons, state_deleteOrWarn]
      exact ih (reflected_delete reflected handle)

theorem reflected_bind (reflected : session.Reflected) (handle : Option ProgramHandle) :
    ((bind handle).run session).state.Reflected := by
  refine reflected.of_programs ?_
  refine bind_elim handle session fun value final ends => ?_
  cases ends <;> rfl

theorem reflected_apply (reflected : session.Reflected) (sound : session.Sound)
    (event : SessionEvent) : (event.apply session).Reflected := by
  cases event with
  | files tree => exact reflected.of_programs rfl
  | request asked =>
      cases asked with
      | create name vertex fragment => exact reflected_create reflected sound name vertex fragment
      | delete handle => exact reflected_delete reflected handle
      | bind handle => exact reflected_bind reflected handle
      | setConstant slot data count rowMajor =>
          have kept := (setConstant_ends slot data count rowMajor session).sameHoldings
          exact reflected.of_programs (congrArg (·.1.1.1) kept)
      | setConstantByName name data =>
          have kept := (setConstantByName_ends name data session).sameHoldings
          exact reflected.of_programs (congrArg (·.1.1.1) kept)
      | bindTexture unit texture => exact reflected.of_programs rfl
      | clear => exact reflected_clear reflected

theorem Reachable.reflected (reachable : session.Reachable) : session.Reflected := by
  induction reachable with
  | start capabilities format failLinks files cache =>
      intro program member
      cases member
  | event reachable event _ ih => exact reflected_apply ih reachable.coherent.sound event
  | failLinks _ _ ih => exact ih.of_programs rfl
  | takeUploads _ ih => exact ih.of_programs rfl

/-- The tables of a bound program are those of linked texts. -/
theorem Reachable.exists_reflectionOf (reachable : session.Reachable) {program : LinkedProgram}
    (isBound : session.boundProgram? = some program) :
    ∃ held, program.reflection = reflectionOf held := by
  obtain ⟨handle, -, live⟩ := Option.bind_eq_some_iff.mp isBound
  exact reachable.reflected program (ProgramTable.mem_values_of_get? live)

end Session

end ShaderPipeline
