import ShaderPipeline.Proofs.Program.Serving

/-!
# The cache does not show

A history is a sequence of sessions, each over a new device, which pass their
files on to the next one.  Whatever the sessions are asked, their answers are
those of a history in which nothing is cached, and the programs that they make
are the same, down to the texts in the device.
-/

namespace ShaderPipeline

open Action Software Software.Device Dialect

namespace Session

/-- What only making a program can change, and what nothing changes. -/
def surroundings (session : Session Device) :
    FileTree × Capabilities × Option CacheSettings × Capabilities × UInt32 × Bool :=
  (session.files, session.capabilities, session.cache, session.device.settings)

theorem preserves_surroundings_onDevice {α : Type} {action : Action Device α}
    (keeps : Preserves Device.settings action) : Preserves surroundings (onDevice action) := by
  intro session
  have same : (action.run session.device).state.settings = session.device.settings :=
    keeps session.device
  change (session.files, session.capabilities, session.cache,
    (action.run session.device).state.settings) = _
  rw [same]
  rfl

theorem preserves_surroundings_bind (handle : Option ProgramHandle) :
    Preserves surroundings (bind handle) := by
  intro session
  refine bind_elim handle session fun value final ends => ?_
  cases ends with
  | same => rfl
  | unbound wasBound =>
      exact preserves_surroundings_onDevice (preserves_settings_useProgram none) session
  | @bound handle program other live =>
      exact preserves_surroundings_onDevice (preserves_settings_useProgram (some program.object))
        session
  | stale other notLive => rfl

theorem surroundings_without (session : Session Device) (handle : ProgramHandle) :
    (session.without handle).surroundings = session.surroundings := by
  unfold without
  split
  · exact preserves_surroundings_onDevice (preserves_settings_useProgram none) session
  · rfl

theorem preserves_surroundings_delete (handle : ProgramHandle) :
    Preserves surroundings (delete handle) := by
  intro session
  refine delete_elim handle session fun value final ends => ?_
  cases ends with
  | stale notLive => exact surroundings_without session handle
  | deleted removed =>
      exact (preserves_surroundings_onDevice (preserves_settings_deleteProgram _)
        (session.without handle)).trans (surroundings_without session handle)

theorem surroundings_of_upload {session final : Session Device}
    (sameHoldings : final.holdings = session.holdings)
    (sameLinkage : final.device.linkage = session.device.linkage) :
    final.surroundings = session.surroundings := by
  simp only [holdings, core, Prod.mk.injEq] at sameHoldings
  simp only [linkage, Prod.mk.injEq] at sameLinkage
  obtain ⟨⟨-, -, sameCapabilities, sameCache, -⟩, sameFiles⟩ := sameHoldings
  rw [surroundings, surroundings, sameFiles, sameCapabilities, sameCache, sameLinkage.2.2.2.2]

theorem preserves_surroundings_clear :
    Preserves surroundings (clear : Action (Session Device) _) := by
  refine preserves_bind (preserves_read _) fun programs => ?_
  refine preserves_forEach (fun handle session => ?_) _
  rw [state_deleteOrWarn]
  exact preserves_surroundings_delete handle session

theorem preserves_surroundings_perform {request : Request}
    (notCreate : ∀ name vertex fragment, request ≠ .create name vertex fragment) :
    Preserves surroundings request.perform := by
  cases request with
  | create name vertex fragment => exact absurd rfl (notCreate name vertex fragment)
  | delete handle =>
      exact preserves_bind (preserves_surroundings_delete handle) fun _ => preserves_pure _
  | bind handle =>
      exact preserves_bind (preserves_surroundings_bind handle) fun _ => preserves_pure _
  | setConstant slot data count rowMajor =>
      refine preserves_bind (fun session => ?_) fun _ => preserves_pure _
      exact surroundings_of_upload
        (congrArg (·.1) (setConstant_ends slot data count rowMajor session).sameHoldings)
        (congrArg (·.1) (setConstant_ends slot data count rowMajor session).sameLinkage)
  | setConstantByName name data =>
      refine preserves_bind (fun session => ?_) fun _ => preserves_pure _
      exact surroundings_of_upload
        (congrArg (·.1) (setConstantByName_ends name data session).sameHoldings)
        (congrArg (·.1) (setConstantByName_ends name data session).sameLinkage)
  | bindTexture unit texture =>
      refine preserves_bind (preserves_surroundings_onDevice fun _ => rfl) fun _ => ?_
      exact preserves_pure _
  | clear => exact preserves_bind preserves_surroundings_clear fun _ => preserves_pure _

variable {catalog : Catalog} {caps : Capabilities} {cache : Option CacheSettings}

theorem serving_perform {session : Session Device} (known : catalog.Sound)
    (serving : session.Serving catalog caps cache) {request : Request}
    (covered : Covers catalog caps cache request) :
    (request.perform.run session).state.Serving catalog caps cache := by
  by_cases isCreate : ∃ name vertex fragment, request = .create name vertex fragment
  · obtain ⟨name, vertex, fragment, rfl⟩ := isCreate
    exact (create_makes known serving covered).2
  · have same := preserves_surroundings_perform
      (fun name vertex fragment isCreated => isCreate ⟨name, vertex, fragment, isCreated⟩) session
    simp only [surroundings, Prod.mk.injEq] at same
    obtain ⟨sameFiles, sameCapabilities, sameCache, sameSettings⟩ := same
    refine ⟨sound_perform serving.sound request, ?_, ?_, ?_, ?_⟩
    · rw [sameCapabilities, serving.capabilities]
    · exact (congrArg (·.2.2) sameSettings).trans serving.links
    · rw [sameCache]
      exact serving.cache
    · rw [sameFiles]
      exact serving.honest

theorem recast_congr {left right : Session Device} (same : left.LooksLike right)
    (vertex fragment : Option String) :
    left.recast vertex fragment = right.recast vertex fragment := by
  rw [recast, recast, same.capabilities]

/-- Sessions that look alike make programs alike. -/
theorem Makes.alike {left right final final' : Session Device} (same : left.LooksLike right)
    {name : String} {vertex fragment : Option String}
    {value value' : Except ProgramError ProgramHandle}
    (makes : Makes name vertex fragment left value final)
    (makes' : Makes name vertex fragment right value' final') :
    value = value' ∧ final.LooksLike final' := by
  have sameRecast := recast_congr same vertex fragment
  cases makes with
  | blank noStage =>
      cases makes' with
      | blank noStage' => exact ⟨rfl, same⟩
      | failed stage => exact absurd stage noStage
      | made object fromCache program stage => exact absurd stage noStage
  | failed stage fails sameCore statistics =>
      rw [sameRecast] at fails
      cases makes' with
      | blank noStage => exact absurd stage noStage
      | made object fromCache program stage' sound =>
          rw [fails] at sound
          cases sound
      | failed stage' fails' sameCore' statistics' =>
          rw [fails, Option.some.injEq] at fails'
          subst fails'
          simp only [core, Prod.mk.injEq] at sameCore sameCore'
          obtain ⟨programs, bound, capabilities, -⟩ := sameCore
          obtain ⟨programs', bound', capabilities', -⟩ := sameCore'
          refine ⟨rfl, ?_, ?_, ?_, ?_⟩
          · rw [programs, programs']
            exact same.programs
          · rw [bound, bound', same.bound]
          · rw [capabilities, capabilities', same.capabilities]
          · rw [statistics, statistics', withoutCache_countFailure same.statistics]
  | made object fromCache program stage sound isMade programs bound capabilities statistics =>
      rw [sameRecast] at sound isMade
      cases makes' with
      | blank noStage => exact absurd stage noStage
      | failed stage' fails =>
          rw [sound] at fails
          cases fails
      | made object' fromCache' program' stage' sound' isMade' programs' bound' capabilities'
          statistics' =>
          have sameProgram : program.impersonal = program'.impersonal := by
            rw [isMade, isMade']
            rfl
          obtain ⟨sameHandle, tablesAlike⟩ := same.programs.insert sameProgram
          refine ⟨?_, ?_, ?_, ?_, ?_⟩
          · rw [sameHandle]
          · rw [programs, programs']
            exact tablesAlike
          · rw [bound, bound', same.bound]
          · rw [capabilities, capabilities', same.capabilities]
          · rw [statistics, statistics', tablesAlike.live]
            exact withoutCache_created same.statistics _

end Session

structure Step where
  before : Session Device
  request : Request
  answer : Answer
  after : Session Device

namespace Step

/-- The step took a program with these texts in under a handle.  The handle reaches
the program as long as slots can be numbered. -/
structure Made (step : Step) (name : String) (source : RecastProgram) (handle : ProgramHandle)
    (program : LinkedProgram) : Prop where
  taken : step.before.programs.insert program = (handle, step.after.programs)
  found : step.before.programs.slots.length < UInt32.size →
    step.after.program? handle = some program
  name : program.name = name
  interface : program.interface = source.interface
  diagnostics : program.diagnostics = source.diagnostics
  texts : ∀ stage, step.after.device.linkedSource? program.object stage = source.text? stage

/-- The programs that two steps made are the same, but for the driver's numbers and
where they came from. -/
structure MadeAlike (first second : Step) (program program' : LinkedProgram) : Prop where
  resolved : program.impersonal = program'.impersonal
  content : contentOf program.object first.after.device =
    contentOf program'.object second.after.device
  uploads : ∃ values : List (UniformLocation × UniformValue),
    first.after.device.uploads = first.before.device.uploads ++
      values.map (fun value => ⟨program.object, value.1, value.2⟩) ∧
    second.after.device.uploads = second.before.device.uploads ++
      values.map (fun value => ⟨program'.object, value.1, value.2⟩)

/-- Two steps that differ only in what the cache may change. -/
structure Alike (first second : Step) : Prop where
  request : first.request = second.request
  answer : first.answer = second.answer
  looks : first.after.LooksLike second.after
  made : ∀ name vertex fragment handle, first.request = .create name vertex fragment →
    first.answer = .program (.ok handle) →
      ∃ program program',
        first.Made name (first.before.recast vertex fragment) handle program ∧
        second.Made name (first.before.recast vertex fragment) handle program' ∧
        MadeAlike first second program program'

end Step

theorem linkedSource?_of_content {object : ProgramId} {device : Device} {source : RecastProgram}
    (content : contentOf object device = reflectedContent source.stages) (stage : Stage) :
    device.linkedSource? object stage = source.text? stage := by
  rw [linkedSource?_of_reflected content, RecastProgram.find?_stages]

/-- What was made is described by the texts. -/
theorem Session.Makes.made_eq {session final : Session Device} {name : String}
    {vertex fragment : Option String} {handle : ProgramHandle} (sound : session.Sound)
    (makes : Makes name vertex fragment session (.ok handle) final) (request : Request)
    (answer : Answer) :
    ∃ object fromCache,
      Step.Made ⟨session, request, answer, final⟩ name (session.recast vertex fragment) handle
        (madeAs name (session.recast vertex fragment) object fromCache) ∧
      contentOf object final.device = reflectedContent (session.recast vertex fragment).stages ∧
      final.device.uploads = session.device.uploads ++
        (samplerValues (session.recast vertex fragment).stages).map fun value =>
          ⟨object, value.1, value.2⟩ := by
  cases makes with
  | made object fromCache program stage noFault isMade programs bound capabilities statistics
      content uploads =>
      subst isMade
      refine ⟨object, fromCache, ⟨?_, ?_, rfl, rfl, rfl, ?_⟩, content, uploads⟩
      · exact Prod.ext rfl programs.symm
      · intro numbered
        change final.programs.get? _ = _
        rw [programs]
        exact ProgramTable.get?_insert_self sound.table _ numbered
      · exact linkedSource?_of_content content

def Session.steps (session : Session Device) : List Request → List Step
  | [] => []
  | request :: rest =>
      let outcome := request.perform.run session
      ⟨session, request, outcome.value, outcome.state⟩ :: steps outcome.state rest

/-- A session that is to be run over a new device. -/
structure SessionPlan where
  capabilities : Capabilities
  binaryFormat : UInt32
  cache : CacheSettings
  requests : List Request

namespace SessionPlan

def uncached (plan : SessionPlan) : SessionPlan :=
  { plan with cache := { plan.cache with enabled := false } }

def used (plan : SessionPlan) : Option CacheSettings :=
  if plan.cache.enabled && plan.capabilities.programBinary then some plan.cache else none

def start (plan : SessionPlan) (files : FileTree) : Session Device :=
  Session.start (Device.fresh plan.capabilities plan.binaryFormat false) files plan.cache

def filesAfter (plan : SessionPlan) (files : FileTree) : FileTree :=
  ((plan.start files).after (plan.requests.map .request)).files

end SessionPlan

/-- The steps of all sessions, each of which finds the files of the one before. -/
def history (files : FileTree) : List SessionPlan → List (List Step)
  | [] => []
  | plan :: rest =>
      (plan.start files).steps plan.requests :: history (plan.filesAfter files) rest

def Request.program? (caps : Capabilities) : Request → Option RecastProgram
  | .create _ vertex fragment =>
      if Session.HasStage vertex fragment then
        some (recastProgram caps (vertex.filter Session.hasText) (fragment.filter Session.hasText))
      else none
  | _ => none

def Request.place? (cache : Option CacheSettings) : Request → Option FileLocation
  | .create name _ _ => cache.bind (ProgramCache.placeFor? · name)
  | _ => none

/-- All programs of a history, and all places where they are cached. -/
def catalogOf (plans : List SessionPlan) : Catalog where
  programs := plans.flatMap fun plan =>
    plan.requests.filterMap (Request.program? plan.capabilities)
  places := plans.flatMap fun plan => plan.requests.filterMap (Request.place? plan.used)

theorem covers_catalogOf {plans : List SessionPlan} {plan : SessionPlan} (isPlan : plan ∈ plans)
    {request : Request} (isRequest : request ∈ plan.requests) :
    Session.Covers (catalogOf plans) plan.capabilities plan.used request := by
  cases request with
  | create name vertex fragment =>
      refine ⟨fun stage => ?_, fun place isPlace => ?_⟩
      · refine List.mem_flatMap.mpr ⟨plan, isPlan, List.mem_filterMap.mpr ⟨_, isRequest, ?_⟩⟩
        exact if_pos stage
      · exact List.mem_flatMap.mpr
          ⟨plan, isPlan, List.mem_filterMap.mpr ⟨_, isRequest, isPlace⟩⟩
  | _ => trivial

section Simulation

variable {catalog : Catalog} {caps : Capabilities} {cache : Option CacheSettings}

/-- One request to two sessions that look alike, whatever is in their caches. -/
theorem step_alike (known : catalog.Sound) {left right : Session Device}
    (same : left.LooksLike right) (serving : left.Serving catalog caps cache)
    (serving' : right.Serving catalog caps cache) {request : Request}
    (covered : Session.Covers catalog caps cache request) :
    Step.Alike
      ⟨left, request, (request.perform.run left).value, (request.perform.run left).state⟩
      ⟨right, request, (request.perform.run right).value, (request.perform.run right).state⟩ := by
  by_cases isCreate : ∃ name vertex fragment, request = .create name vertex fragment
  · obtain ⟨name, vertex, fragment, rfl⟩ := isCreate
    obtain ⟨makes, -⟩ := Session.create_makes known serving covered
    obtain ⟨makes', -⟩ := Session.create_makes known serving' covered
    obtain ⟨sameValue, looks⟩ := makes.alike same makes'
    refine ⟨rfl, congrArg Answer.program sameValue, looks, ?_⟩
    rintro _ _ _ handle ⟨⟩ isOk
    have isOk : ((Session.create name vertex fragment).run left).value = .ok handle :=
      Answer.program.inj isOk
    have isOk' := sameValue.symm.trans isOk
    rw [isOk] at makes
    rw [isOk'] at makes'
    obtain ⟨object, fromCache, made, content, uploads⟩ :=
      makes.made_eq serving.sound (.create name vertex fragment)
        (.program ((Session.create name vertex fragment).run left).value)
    obtain ⟨object', fromCache', made', content', uploads'⟩ :=
      makes'.made_eq serving'.sound (.create name vertex fragment)
        (.program ((Session.create name vertex fragment).run right).value)
    rw [← Session.recast_congr same] at made' content' uploads'
    exact ⟨_, _, made, made', rfl, content.trans content'.symm, _, uploads, uploads'⟩
  · have notCreate : ∀ name vertex fragment, request ≠ .create name vertex fragment :=
      fun name vertex fragment isCreated => isCreate ⟨name, vertex, fragment, isCreated⟩
    obtain ⟨sameAnswer, looks⟩ := Session.simulates_perform notCreate left right same
    refine ⟨rfl, sameAnswer, looks, ?_⟩
    intro name vertex fragment handle isCreated
    exact absurd isCreated (notCreate name vertex fragment)

theorem steps_alike (known : catalog.Sound) {requests : List Request}
    (covered : ∀ request ∈ requests, Session.Covers catalog caps cache request)
    {left right : Session Device} (same : left.LooksLike right)
    (serving : left.Serving catalog caps cache)
    (serving' : right.Serving catalog caps cache) :
    List.Forall₂ Step.Alike (left.steps requests) (right.steps requests) := by
  induction requests generalizing left right with
  | nil => exact .nil
  | cons request rest hypothesis =>
      have first := covered request List.mem_cons_self
      have alike := step_alike known same serving serving' first
      exact .cons alike
        (hypothesis (fun request member => covered request (List.mem_cons_of_mem _ member))
          alike.looks (Session.serving_perform known serving first)
          (Session.serving_perform known serving' first))

theorem serving_after (known : catalog.Sound) {requests : List Request}
    (covered : ∀ request ∈ requests, Session.Covers catalog caps cache request)
    {session : Session Device} (serving : session.Serving catalog caps cache) :
    (session.after (requests.map .request)).Serving catalog caps cache := by
  induction requests generalizing session with
  | nil => exact serving
  | cons request rest hypothesis =>
      exact hypothesis (fun request member => covered request (List.mem_cons_of_mem _ member))
        (Session.serving_perform known serving (covered request List.mem_cons_self))

end Simulation

/-- A session starts in the files of an honest catalog, with its cache or without. -/
theorem SessionPlan.serving_start {catalog : Catalog} (plan : SessionPlan) {files : FileTree}
    (honest : catalog.Honest files) :
    (plan.start files).Serving catalog plan.capabilities plan.used where
  sound := Session.sound_start _ _ _
  capabilities := rfl
  links := rfl
  cache := fun _ isUsed => isUsed
  honest := honest

theorem SessionPlan.serving_uncached {catalog : Catalog} (plan : SessionPlan) {files : FileTree}
    (honest : catalog.Honest files) :
    (plan.uncached.start files).Serving catalog plan.capabilities plan.used where
  sound := Session.sound_start _ _ _
  capabilities := rfl
  links := rfl
  cache := by
    intro settings isUsed
    have noCache : (plan.uncached.start files).cache = none := rfl
    rw [noCache] at isUsed
    cases isUsed
  honest := honest

/-- The files of the two histories may differ, but both are honest. -/
theorem history_alike {catalog : Catalog} (known : catalog.Sound) {plans : List SessionPlan}
    (covered : ∀ plan ∈ plans, ∀ request ∈ plan.requests,
      Session.Covers catalog plan.capabilities plan.used request)
    {files files' : FileTree} (honest : catalog.Honest files) (honest' : catalog.Honest files') :
    List.Forall₂ (List.Forall₂ Step.Alike) (history files plans)
      (history files' (plans.map SessionPlan.uncached)) := by
  induction plans generalizing files files' with
  | nil => exact .nil
  | cons plan rest hypothesis =>
      have first := covered plan List.mem_cons_self
      have serving := plan.serving_start honest
      have serving' := plan.serving_uncached honest'
      refine .cons (steps_alike known first ⟨rfl, rfl, rfl, rfl⟩ serving serving') ?_
      -- The next session finds other files in each history, so the files are not compared.
      exact hypothesis (fun plan member => covered plan (List.mem_cons_of_mem _ member))
        (serving_after known first serving).honest (serving_after known first serving').honest

/-- A history goes as it would without a cache, if only its sessions write in the places of
the cache, its texts have lengths that fit in a word, and programs have keys of their own. -/
theorem history_without_cache (files : FileTree) (plans : List SessionPlan)
    (own : ∀ place ∈ (catalogOf plans).places, files.fileAt? place = none)
    (short : ∀ program ∈ (catalogOf plans).programs, ∀ stage ∈ program.stages,
      stage.2.utf8ByteSize < UInt32.size)
    (apart : ∀ program ∈ (catalogOf plans).programs, ∀ other ∈ (catalogOf plans).programs,
      program.key = other.key → program.vertex = other.vertex ∧ program.fragment = other.fragment) :
    List.Forall₂ (List.Forall₂ Step.Alike) (history files plans)
      (history files (plans.map SessionPlan.uncached)) := by
  have honest : (catalogOf plans).Honest files := by
    intro place member content isContent
    rw [own place member] at isContent
    cases isContent
  exact history_alike ⟨short, apart⟩ (fun plan isPlan request => covers_catalogOf isPlan)
    honest honest

/-- A program that is cached and found again, then refused by a driver with another
format and written over, and then made without a cache. -/
def lampHistory : List SessionPlan :=
  [ ⟨.gl33, 1, {}, [lamp, .delete ⟨0, 0⟩, lamp, .bind (some ⟨0, 1⟩)]⟩,
    ⟨.gl33, 2, {}, [.create "lamp" none none, lamp]⟩,
    (SessionPlan.mk .gl33 2 {} [lamp, .clear]).uncached ]
where
  lamp : Request := .create "lamp" (some "in vec4 place : POSITION; void main() { }") none

theorem programs_lampHistory : (catalogOf lampHistory).programs = List.replicate 4
    (recastProgram .gl33 (some "in vec4 place : POSITION; void main() { }") none) := by
  rfl

theorem lampHistory_without_cache :
    (catalogOf lampHistory).places ≠ [] ∧
    List.Forall₂ (List.Forall₂ Step.Alike) (history {} lampHistory)
      (history {} (lampHistory.map SessionPlan.uncached)) := by
  refine ⟨by decide +kernel, history_without_cache {} lampHistory ?_ ?_ ?_⟩
  · decide +kernel
  · intro program member
    rw [programs_lampHistory] at member
    rw [List.eq_of_mem_replicate member]
    decide +kernel
  · intro program member other member' _
    rw [programs_lampHistory] at member member'
    rw [List.eq_of_mem_replicate member, List.eq_of_mem_replicate member']
    exact ⟨rfl, rfl⟩

end ShaderPipeline
