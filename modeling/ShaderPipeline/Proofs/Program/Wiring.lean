import ShaderPipeline.Proofs.Dialect.Passages
import ShaderPipeline.Proofs.Program.Discipline

/-!
# How locations reach the driver

A location is written in the text of its declaration, or the driver is told of it
by a call, depending on the version of the language.  The text is chosen where a
stage is recast and the call where it is linked.  Both choices are made here from the
version alone, and every slot that has a location takes one of the two ways, apart
from the outputs of versions that have built-in outputs only.
-/

namespace ShaderPipeline

open Action Dialect RecastProgram

namespace DeviceCall

/-- Calls that attach stages, bind locations and link. -/
def wires : DeviceCall → Bool
  | .attachStage .. | .bindAttribute .. | .bindFragmentData .. | .linkProgram .. => true
  | _ => false

def compiledText? : DeviceCall → Option String
  | .compileStage _ text => some text
  | _ => none

theorem of_not_builds {call : DeviceCall} (idle : call.builds = false) :
    call.wires = false ∧ call.compiledText? = none ∧ call.madeStage? = none := by
  cases call <;> simp_all [builds, wires, compiledText?, madeStage?]

theorem not_builds_of_reflects {call : DeviceCall} (reflecting : call.reflects) :
    call.builds = false := by
  cases call <;> simp_all [builds, reflects]

/-- The calls that bind the locations of an interface, in the order of declaration. -/
def bindings (version : UInt32) (object : ProgramId) (interface : ProgramInterface) :
    List DeviceCall :=
  (if version ≤ 150 then
    interface.vertexInputs.filterMap fun slot =>
      slot.location.map fun location => .bindAttribute object location slot.name
  else []) ++
  if 130 ≤ version ∧ version ≤ 150 then
    interface.fragmentOutputs.filterMap fun slot =>
      slot.location.map fun location => .bindFragmentData object location slot.name
  else []

/-- Calls that compile some texts, attach all stage objects, bind locations and link. -/
structure Link (texts : List String) (object : ProgramId) (binding made : List DeviceCall) :
    Prop where
  compiled : made.filterMap compiledText? = texts
  wired : ∃ before after,
    made = before ++ ((before.filterMap madeStage?).map (.attachStage object) ++
      (binding ++ .linkProgram object :: after)) ∧
    ∀ call ∈ before ++ after, call.wires = false

namespace Link

variable {texts : List String} {object : ProgramId} {binding made idle : List DeviceCall}

theorem compiledText?_idle (isIdle : ∀ call ∈ idle, call.builds = false) :
    idle.filterMap compiledText? = [] := by
  rw [List.filterMap_eq_nil_iff]
  exact fun call member => (of_not_builds (isIdle call member)).2.1

theorem append (link : Link texts object binding made)
    (isIdle : ∀ call ∈ idle, call.builds = false) : Link texts object binding (made ++ idle) := by
  obtain ⟨compiled, before, after, rfl, unwired⟩ := link
  constructor
  · rw [List.filterMap_append, compiled, compiledText?_idle isIdle, List.append_nil]
  · refine ⟨before, after ++ idle, by simp, ?_⟩
    intro call member
    rw [← List.append_assoc] at member
    rcases List.mem_append.mp member with early | late
    · exact unwired call early
    · exact (of_not_builds (isIdle call late)).1

theorem prepend (link : Link texts object binding made)
    (isIdle : ∀ call ∈ idle, call.builds = false) : Link texts object binding (idle ++ made) := by
  obtain ⟨compiled, before, after, rfl, unwired⟩ := link
  have noStage : idle.filterMap madeStage? = [] := by
    rw [List.filterMap_eq_nil_iff]
    exact fun call member => (of_not_builds (isIdle call member)).2.2
  constructor
  · rw [List.filterMap_append, compiled, compiledText?_idle isIdle, List.nil_append]
  · refine ⟨idle ++ before, after, by simp [noStage], ?_⟩
    intro call member
    rw [List.append_assoc] at member
    rcases List.mem_append.mp member with early | late
    · exact (of_not_builds (isIdle call early)).1
    · exact unwired call late

end Link

end DeviceCall

/-- The calls by which the linker binds the locations of a program. -/
def Dialect.RecastProgram.bindingCalls (caps : Capabilities) (program : RecastProgram)
    (object : ProgramId) : List DeviceCall :=
  (program.boundAttributes caps).map (fun slot => .bindAttribute object slot.1 slot.2) ++
    (program.boundFragmentData caps).map (fun slot => .bindFragmentData object slot.1 slot.2)

namespace Recorded

open DeviceCall

variable {δ : Type} [ShaderDevice δ]

/-- Stages are compiled in order, and all of them if none fails. -/
theorem logs_compileStages_texts (name : String) (stages : List (Stage × String)) :
    Logs Recorded.calls (compileStages name stages : Action (Recorded δ) _) fun result calls =>
      (∀ call ∈ calls, call.wires = false) ∧
        (result.2 = .ok () → calls.filterMap compiledText? = stages.map (·.2)) := by
  induction stages with
  | nil => exact logs_pure (by simp)
  | cons entry rest ih =>
      obtain ⟨stage, text⟩ := entry
      refine logs_bind (logs_perform _ _) fun answer calls made => ?_
      subst made
      cases answer with
      | error failure => exact logs_pure (by simp [wires])
      | ok id =>
          refine logs_bind (logs_perform _ _) fun compiles calls compiled => ?_
          subst compiled
          cases compiles with
          | true =>
              refine logs_bind ih fun later calls shown => logs_pure ?_
              obtain ⟨unwired, texts⟩ := shown
              constructor
              · simpa [wires] using unwired
              · intro done
                simpa [List.filterMap_cons, compiledText?] using texts done
          | false =>
              refine logs_bind (logs_compileFailure _ _ _ _) fun failure calls shown =>
                logs_pure ?_
              obtain ⟨rfl, -⟩ := shown
              simp [wires]

theorem calls_compileAndLink (caps : Capabilities) {name : String} {program : RecastProgram}
    (object : ProgramId) {device : Recorded δ}
    (compiles : ((compileStages name program.stages).run device).value.2 = .ok ()) :
    ∃ made, ((program.compileAndLink caps name object).run device).state.calls =
        device.calls ++ made ∧
      Link (program.stages.map (·.2)) object
        (program.bindingCalls caps object) made := by
  obtain ⟨-, final⟩ := compileAndLink_of_ok caps object rfl compiles
  obtain ⟨compiling, compiled, ⟨-, making, -⟩, unwired, texts⟩ :=
    ((logs_compileStages name program.stages).and
      (logs_compileStages_texts name program.stages)) device
  have allTexts := texts compiles
  generalize (compileStages name program.stages).run device = outcome at final compiled making
  obtain ⟨linking, linked, isLinking, -⟩ :=
    logs_attachAndLink_calls caps name program object outcome.value.1 outcome.state
  obtain ⟨releasing, released, rfl⟩ :=
    logs_forEach .deleteStage (fun stage => logs_perform (fun _ => .deleteStage stage)
      (ShaderDevice.deleteStage stage : Action δ Unit)) outcome.value.1
      ((attachAndLink caps name program object outcome.value.1).run outcome.state).state
  have noText : linking.filterMap compiledText? = [] := by
    rw [isLinking]
    simp [List.filterMap_map, Function.comp_def, compiledText?]
  have link : Link (program.stages.map (·.2)) object
      (program.bindingCalls caps object) (compiling ++ linking) := by
    constructor
    · rw [List.filterMap_append, allTexts, noText, List.append_nil]
    · refine ⟨compiling, [], ?_, by simpa using unwired⟩
      rw [making, isLinking, bindingCalls, List.append_assoc]
  refine ⟨compiling ++ linking ++ outcome.value.1.map .deleteStage, ?_, link.append ?_⟩
  · rw [final]
    refine released.trans ?_
    rw [linked, compiled]
    simp only [List.append_assoc]
  · intro call member
    obtain ⟨stage, -, rfl⟩ := List.mem_map.mp member
    rfl

end Recorded

/-- The linker tells the driver of the same slots, by version, that are recast without
their locations. -/
theorem Dialect.bindings_recastProgram (caps : Capabilities) (vertex fragment : Option String)
    (object : ProgramId) :
    (recastProgram caps vertex fragment).bindingCalls caps object =
      DeviceCall.bindings caps.version object (recastProgram caps vertex fragment).interface := by
  have binds : caps.bindsAttributes = true ↔ caps.version ≤ 150 := decide_eq_true_iff
  have bindsData : caps.bindsFragmentData = true ↔ 130 ≤ caps.version ∧ caps.version ≤ 150 := by
    rw [Capabilities.bindsFragmentData, Bool.and_eq_true, decide_eq_true_iff, decide_eq_true_iff]
    rfl
  unfold bindingCalls boundAttributes boundFragmentData located DeviceCall.bindings
  congr 1
  · cases vertex with
    | none => simp [recastProgram]
    | some source =>
        by_cases bound : caps.version ≤ 150
        · simp [recastProgram, binds, bound, List.map_filterMap, Function.comp_def]
        · simp [recastProgram, binds, bound]
  · cases fragment with
    | none => simp [recastProgram]
    | some source =>
        by_cases bound : 130 ≤ caps.version ∧ caps.version ≤ 150
        · simp [recastProgram, bindsData, bound, List.map_filterMap, Function.comp_def]
        · simp [recastProgram, bindsData, bound]

namespace Session

open DeviceCall Recorded

variable {δ : Type} [ShaderDevice δ]

/-- Looks for the binary of a program in the cache. -/
def lookUp (name : String) (program : RecastProgram) (object : ProgramId) :
    Action (Session δ) Bool :=
  restore name (programKey program.vertex program.fragment) object

/-- A program is made from source, and all its stages compile. -/
structure CompilesFromSource (name : String) (vertex fragment : Option String)
    (session : Session δ) (object : ProgramId) : Prop where
  stage : HasStage vertex fragment
  makes : session.objectAnswer = .ok object
  unserved :
    ((lookUp name (session.recast vertex fragment) object).run session.withObject).value = false
  compiles : ((compileStages name (session.recast vertex fragment).stages).run
    ((lookUp name (session.recast vertex fragment) object).run
      session.withObject).state.device).value.2 = .ok ()

theorem calls_compile {name : String} {program : RecastProgram} (object : ProgramId)
    {session : Session (Recorded δ)}
    (compiles : ((compileStages name program.stages).run session.device).value.2 = .ok ()) :
    ∃ made, ((compile name program object).run session).state.calls = session.calls ++ made ∧
      Link (program.stages.map (·.2)) object
        (program.bindingCalls session.capabilities object) made := by
  obtain ⟨made, logged, link⟩ := calls_compileAndLink session.capabilities object compiles
  cases ends : ((program.compileAndLink session.capabilities name object).run
      session.device).value with
  | ok done =>
      obtain ⟨-, final⟩ := compile_of_ok session rfl ends
      exact ⟨made, by rw [final]; exact logged, link⟩
  | error failure =>
      obtain ⟨-, final⟩ := compile_of_error session rfl ends
      refine ⟨made ++ [.deleteProgram object], ?_, link.append (by simp [builds])⟩
      rw [final, ← List.append_assoc]
      exact congrArg (· ++ [DeviceCall.deleteProgram object]) logged

theorem calls_fill {name : String} {program : RecastProgram} {object : ProgramId}
    {session : Session (Recorded δ)}
    (unserved : ((lookUp name program object).run session).value = false)
    (compiles : ((compileStages name program.stages).run
      ((lookUp name program object).run session).state.device).value.2 = .ok ()) :
    ∃ made, ((fill name program object).run session).state.calls = session.calls ++ made ∧
      Link (program.stages.map (·.2)) object
        (program.bindingCalls session.capabilities object) made := by
  obtain ⟨loading, looked, loads⟩ :=
    logs_restore name (programKey program.vertex program.fragment) object session
  have idle : ∀ call ∈ loading, call.builds = false := by
    rcases loads with rfl | ⟨binary, rfl⟩
    · simp
    · simp [builds]
  have kept := preserves_restore name (programKey program.vertex program.fragment) object session
  simp only [holdings, core, Prod.mk.injEq] at kept
  obtain ⟨⟨-, -, sameCapabilities, -⟩, -⟩ := kept
  refine fill_elim name program object session fun result final ends => ?_
  unfold lookUp at unserved compiles
  generalize (restore name (programKey program.vertex program.fragment) object).run session =
    outcome at ends looked unserved compiles sameCapabilities
  have compiles' : ((compileStages name program.stages).run
      outcome.state.withMiss.device).value.2 = .ok () := compiles
  obtain ⟨made, logged, link⟩ := calls_compile object compiles'
  rw [show outcome.state.withMiss.capabilities = session.capabilities from sameCapabilities] at link
  have both : outcome.state.withMiss.calls ++ made = session.calls ++ (loading ++ made) := by
    rw [← List.append_assoc, ← looked]
    rfl
  rw [both] at logged
  refine ⟨loading ++ made, ?_, link.prepend idle⟩
  cases ends with
  | restored served =>
      rw [unserved] at served
      cases served
  | compiled _ done =>
      obtain ⟨none, keeping, rfl⟩ := logs_keep name
        (programKey program.vertex program.fragment) object
        ((compile name program object).run outcome.state.withMiss).state
      rw [keeping, List.append_nil, logged]
  | failed _ fails => exact logged

theorem calls_create {name : String} {vertex fragment : Option String}
    {session : Session (Recorded δ)} {object : ProgramId}
    (fromSource : CompilesFromSource name vertex fragment session object) :
    ∃ made, ((create name vertex fragment).run session).state.calls = session.calls ++ made ∧
      Link ((session.recast vertex fragment).stages.map (·.2)) object
        (bindings session.capabilities.version object (session.recast vertex fragment).interface)
        made := by
  obtain ⟨stage, makes, unserved, compiles⟩ := fromSource
  obtain ⟨filling, logged, link⟩ := calls_fill unserved compiles
  have isBindings : (session.recast vertex fragment).bindingCalls
      session.withObject.capabilities object =
      bindings session.capabilities.version object
        (session.recast vertex fragment).interface := bindings_recastProgram _ _ _ _
  rw [isBindings] at link
  rw [calls_withObject, makes, List.append_assoc] at logged
  have made : Link _ object _ ([.createProgram (.ok object)] ++ filling) :=
    link.prepend (by simp [builds])
  refine create_elim name vertex fragment session fun result final ends => ?_
  cases ends with
  | blank noStage => exact absurd stage noStage
  | refused _ refuses =>
      rw [makes] at refuses
      cases refuses
  | failed _ makes' fails =>
      -- A link that fails comes behind the same calls.
      cases makes.symm.trans makes'
      exact ⟨_, logged, made⟩
  | @adopted object' fromCache filled _ makes' fills isFilled =>
      cases makes.symm.trans makes'
      obtain ⟨reflecting, reflects, adopted⟩ :=
        calls_adopt name (session.recast vertex fragment) object fromCache filled
      refine ⟨([.createProgram (.ok object)] ++ filling) ++ (reflecting ++
        [.useProgram (filled.boundProgram?.map (·.object))]), ?_, made.append ?_⟩
      · rw [adopted, isFilled, logged, List.append_assoc]
      · intro call member
        rcases List.mem_append.mp member with early | last
        · exact not_builds_of_reflects (reflects call early)
        · rw [List.mem_singleton] at last
          subst last
          rfl

/-- Every location reaches the driver in one way: in the text that is compiled, or by one
call between the last stage that is attached and the link. -/
theorem locations_reach_driver {name : String} {vertex fragment : Option String}
    {session : Session (Recorded δ)} {object : ProgramId}
    (fromSource : CompilesFromSource name vertex fragment session object) :
    let program := session.recast vertex fragment
    ∃ made, ((create name vertex fragment).run session).state.calls = session.calls ++ made ∧
      Link (program.stages.map (·.2)) object
        (bindings session.capabilities.version object program.interface) made ∧
      Emitted session.capabilities .vertex (vertex.filter hasText) program.vertex
        program.interface.vertexInputs ∧
      Emitted session.capabilities .fragment (fragment.filter hasText) program.fragment
        program.interface.fragmentOutputs := by
  obtain ⟨made, logged, link⟩ := calls_create fromSource
  exact ⟨made, logged, link, emitted_recastStage _ _ _, emitted_recastStage _ _ _⟩

/-- A driver that takes everything and has one object of each kind. -/
structure Obliging where
  capabilities : Capabilities

instance : ShaderDevice Obliging where
  capabilities := Obliging.capabilities
  createStage _ := pure (.ok ⟨1⟩)
  compileStage _ _ := pure true
  stageLog _ _ := ""
  deleteStage _ := pure ()
  createProgram := pure (.ok ⟨1⟩)
  deleteProgram _ := pure ()
  attachStage _ _ := pure ()
  bindAttribute _ _ _ := pure ()
  bindFragmentData _ _ _ := pure ()
  linkProgram _ := pure true
  linkStatus _ _ := true
  programLog _ _ := ""
  programBinary _ _ := none
  loadBinary _ _ := pure true
  activeUniforms _ _ := []
  uniformLocation _ _ _ := none
  useProgram _ := pure ()
  setUniform _ _ := pure ()
  bindTexture _ _ := pure ()

/-- A session for the last version whose texts cannot hold locations. -/
def lastBound : Session (Recorded Obliging) :=
  start ⟨⟨{ Capabilities.gl33 with version := 150, versionText := "150" }⟩, []⟩ {}
    { enabled := false }

theorem locations_reach_lastBound :
    let vertex := some "in vec4 place : POSITION; in vec2 skew; void main() { }"
    let fragment := some "out vec4 tint : FRAG_COLOR0; void main() { }"
    let program := lastBound.recast vertex fragment
    program.interface =
      ⟨[⟨"vec4", "place", some 0, ""⟩, ⟨"vec2", "skew", none, ""⟩],
        [⟨"vec4", "tint", some 1, ""⟩]⟩ ∧
    ∃ made, ((create "lamp" vertex fragment).run lastBound).state.calls =
        lastBound.calls ++ made ∧
      Link (program.stages.map (·.2)) ⟨1⟩
        (bindings lastBound.capabilities.version ⟨1⟩ program.interface) made ∧
      Emitted lastBound.capabilities .vertex (vertex.filter hasText) program.vertex
        program.interface.vertexInputs ∧
      Emitted lastBound.capabilities .fragment (fragment.filter hasText) program.fragment
        program.interface.fragmentOutputs := by
  intro vertex fragment program
  have stage : HasStage vertex fragment := by decide +kernel
  have compiles : ((compileStages "lamp" program.stages).run
      lastBound.withObject.device).value.2 = .ok () := by decide +kernel
  exact ⟨by decide +kernel, locations_reach_driver ⟨stage, rfl, rfl, compiles⟩⟩

end Session

end ShaderPipeline
