import ShaderPipeline.Proofs.Cache.History
import ShaderPipeline.Proofs.Program.Making
import ShaderPipeline.Proofs.Program.Transparency

/-!
# The cache heals itself

Whatever the file of a program holds, making the program once is enough to have it
served from then on: either the file served at once, or it was written anew.  The same
session and every later session of the same kind find the program there.  They compile
nothing, and what they know about the program is what the first session knew.
-/

namespace ShaderPipeline

open Action Software Software.Device Dialect FileTree FileLocation

/-- What was stored is loaded. -/
theorem ProgramCache.load_of_store {settings : CacheSettings} {name path : String} {key : UInt32}
    {binary : ProgramBinary} {tree : FileTree}
    (stores : ((store settings name key binary).run tree).value = .ok path) :
    ((load settings name key).run ((store settings name key binary).run tree).state).value =
      .ok (some binary) := by
  obtain ⟨made, -, -, ⟨⟨failure, fails⟩, -⟩ | ⟨path', isPath, -, writes⟩⟩ :=
    store_cases settings name key binary tree
  · cases stores.symm.trans fails
  · generalize ((store settings name key binary).run tree).state = final at writes ⊢
    obtain ⟨reaches, notDirectory, rfl⟩ := of_write writes
    have isFile : (made.put (named path') (.file (CacheEntry.encode ⟨key, binary⟩))).fileAt?
        (named path') = some (CacheEntry.encode ⟨key, binary⟩) := by
      rw [fileAt?_put_file notDirectory, if_pos rfl]
    have reads := (reaches.of_keepsDirectories (keepsDirectories_put_file notDirectory _)).read_eq
      isFile
    rw [load_of_read (pathFor_eq_ok_iff.mp isPath) reads, binaryUnder_encode, if_pos rfl]
    rfl

theorem Software.Device.format_of_loadBinary {object : ProgramId} {binary : ProgramBinary}
    {device : Device}
    (linked : ((loadBinary object binary).run device).state.linkStatus object) :
    binary.format = device.binaryFormat := by
  have found : ((loadBinary object binary).run device).state.programs.find? object =
      (device.programs.find? object).map (·.load device.binaryFormat binary) :=
    find?_adjustProgram object _ device
  by_contra differs
  rw [linkStatus, found] at linked
  cases isEntry : device.programs.find? object with
  | none =>
      rw [isEntry] at linked
      cases linked
  | some entry =>
      rw [isEntry, Option.map_some, ProgramObject.load, if_pos differs] at linked
      cases linked

namespace Session

variable {session : Session Device} {name : String} {vertex fragment : Option String}
  {program : RecastProgram} {object : ProgramId} {fromCache : Bool} {settings : CacheSettings}
  {held : List (Stage × String)}

section Configuration

/-- What a session and its device were made with, and what the session caches. -/
def configuration (session : Session Device) :
    Capabilities × Option CacheSettings × Capabilities × UInt32 :=
  (session.capabilities, session.cache, session.device.capabilities, session.device.binaryFormat)

theorem configuration_of_surroundings {final : Session Device}
    (same : final.surroundings = session.surroundings) :
    final.configuration = session.configuration := by
  simp only [surroundings, Device.settings, Prod.mk.injEq] at same
  obtain ⟨-, sameDialect, sameCache, sameCapabilities, sameFormat, -⟩ := same
  rw [configuration, configuration, sameDialect, sameCache, sameCapabilities, sameFormat]

theorem preserves_configuration_fill (name : String) (program : RecastProgram)
    (object : ProgramId) : Preserves configuration (fill name program object) := by
  intro session
  have sameCore := preserves_fill name program object session
  have sameSettings := preserves_settings_fill name program object session
  simp only [core, Prod.mk.injEq] at sameCore
  simp only [Device.settings, Prod.mk.injEq] at sameSettings
  obtain ⟨-, -, sameDialect, sameCache, -⟩ := sameCore
  rw [configuration, configuration, sameDialect, sameCache, sameSettings.1, sameSettings.2.1]

theorem preserves_configuration_adopt (name : String) (program : RecastProgram)
    (object : ProgramId) (fromCache : Bool) :
    Preserves configuration (adopt name program object fromCache) := by
  intro session
  have built := congrArg (·.2.2.2.2) (preserves_build object session.device)
  have same : (deviceAfterAdopt object session).settings = session.device.settings :=
    (preserves_settings_useProgram _ _).trans built
  have sameCapabilities : (deviceAfterAdopt object session).capabilities =
      session.device.capabilities := congrArg (·.1) same
  have sameFormat : (deviceAfterAdopt object session).binaryFormat =
      session.device.binaryFormat := congrArg (·.2.1) same
  rw [adopt_state, configuration, configuration, sameCapabilities, sameFormat]

theorem preserves_configuration_create (name : String) (vertex fragment : Option String) :
    Preserves configuration (create name vertex fragment) := by
  intro session
  have filled := preserves_configuration_fill name (session.recast vertex fragment)
  refine create_elim name vertex fragment session fun value final ends => ?_
  cases ends with
  | blank noStage => rfl
  | refused stage refuses => rfl
  | failed stage makes fails => exact filled _ session.withObject
  | adopted stage makes fills isFilled =>
      subst isFilled
      exact (preserves_configuration_adopt _ _ _ _ _).trans (filled _ session.withObject)

theorem configuration_apply (session : Session Device) (event : SessionEvent) :
    (event.apply session).configuration = session.configuration := by
  cases event with
  | files tree => rfl
  | request asked =>
      by_cases isCreate : ∃ name vertex fragment, asked = .create name vertex fragment
      · obtain ⟨name, vertex, fragment, rfl⟩ := isCreate
        exact preserves_configuration_create name vertex fragment session
      · refine configuration_of_surroundings (preserves_surroundings_perform ?_ session)
        exact fun name vertex fragment isCreated => isCreate ⟨name, vertex, fragment, isCreated⟩

/-- A session speaks the dialect of its device, and caches only what its device exports. -/
structure Configured (session : Session Device) : Prop where
  dialect : session.capabilities = session.device.capabilities
  caches : ∀ settings, session.cache = some settings → canCache session.device settings = true

theorem Configured.of_configuration {final : Session Device} (configured : session.Configured)
    (same : final.configuration = session.configuration) : final.Configured := by
  simp only [configuration, Prod.mk.injEq] at same
  obtain ⟨sameDialect, sameCache, sameCapabilities, -⟩ := same
  refine ⟨?_, fun settings isCached => ?_⟩
  · rw [sameDialect, sameCapabilities, configured.dialect]
  · have caches := configured.caches settings (sameCache.symm.trans isCached)
    change (settings.enabled && final.device.capabilities.programBinary) = true
    rw [sameCapabilities]
    exact caches

theorem configured_start (device : Device) (files : FileTree) (cache : CacheSettings) :
    (start device files cache).Configured := by
  refine ⟨rfl, fun settings isCached => ?_⟩
  change (if canCache device cache then some cache else none) = some settings at isCached
  split at isCached
  · next able =>
      cases isCached
      exact able
  · cases isCached

theorem Reachable.configured (reachable : session.Reachable) : session.Configured := by
  induction reachable with
  | start capabilities format failLinks files cache => exact configured_start _ _ _
  | @event before _ event _ ih => exact ih.of_configuration (configuration_apply before event)
  | failLinks _ _ ih => exact ih.of_configuration rfl
  | takeUploads _ ih => exact ih.of_configuration rfl

end Configuration

/-- Under this name and key the cache has a binary of these texts in this format. -/
def Offers (settings : CacheSettings) (name : String) (key format : UInt32)
    (held : List (Stage × String)) (files : FileTree) : Prop :=
  ∃ payload, ((ProgramCache.load settings name key).run files).value =
    .ok (some ⟨format, payload⟩) ∧ decodeStages? payload = some held

theorem preserves_compileCount_restore (name : String) (key : UInt32) (object : ProgramId) :
    Preserves (fun session : Session Device => session.device.compileCount)
      (restore name key object) :=
  preserves_restore_of (fun _ _ => rfl) name key

/-- An object is filled with the texts that the cache has, and nothing is compiled. -/
theorem fill_of_offers (isCached : session.cache = some settings)
    (offers : Offers settings name program.key session.device.binaryFormat held session.files)
    (fresh : attachedTo object session.device = some []) :
    ((fill name program object).run session).value = .ok true ∧
      contentOf object ((fill name program object).run session).state.device =
        some (linkedContent held) ∧
      ((fill name program object).run session).state.device.compileCount =
        session.device.compileCount := by
  obtain ⟨payload, loads, decodes⟩ := offers
  have served : ((restore name program.key object).run session).value = true := by
    rw [restore_of_loaded isCached loads, linkStatus_loadBinary fresh rfl, decodes]
    rfl
  have content : contentOf object ((restore name program.key object).run session).state.device =
      some (linkedContent held) := by
    obtain ⟨used, binary, isUsed, loaded, isDevice, linked⟩ := restore_of_served served
    cases isCached.symm.trans isUsed
    cases loads.symm.trans loaded
    rw [isDevice] at linked ⊢
    obtain ⟨stages, isStages, content⟩ := contentOf_loadBinary linked
    cases decodes.symm.trans isStages
    exact content
  have sameCount := preserves_compileCount_restore name program.key object session
  refine fill_elim_key name program object session fun value final ends => ?_
  cases ends with
  | restored _ => exact ⟨rfl, content, sameCount⟩
  | compiled unserved _ => cases served.symm.trans unserved
  | failed unserved _ => cases served.symm.trans unserved

/-- An object that the cache filled was filled with what the cache has, and the files stay. -/
theorem offers_of_fill_from_cache (isCached : session.cache = some settings)
    (fills : ((fill name program object).run session).value = .ok true)
    (content : contentOf object ((fill name program object).run session).state.device =
      some (linkedContent held)) :
    Offers settings name program.key session.device.binaryFormat held
      ((fill name program object).run session).state.files := by
  have sameFiles : ((restore name program.key object).run session).state.files = session.files :=
    congrArg (·.2) (preserves_restore name program.key object session)
  revert fills content
  refine fill_elim_key name program object session ?_
  rintro _ final ends rfl content
  cases ends with
  | restored served =>
      obtain ⟨used, binary, isUsed, loads, isDevice, linked⟩ := restore_of_served served
      cases isCached.symm.trans isUsed
      have content : contentOf object ((restore name program.key object).run
          session).state.device = some (linkedContent held) := content
      rw [isDevice] at linked content
      obtain ⟨stages, decodes, isContent⟩ := contentOf_loadBinary linked
      obtain rfl : held = stages :=
        congrArg (·.1) (Option.some.inj (content.symm.trans isContent))
      refine ⟨binary.payload, ?_, decodes⟩
      change ((ProgramCache.load settings name program.key).run
        ((restore name program.key object).run session).state.files).value = _
      rw [sameFiles, loads, ← format_of_loadBinary linked]

/-- An object that was filled from source is in the cache, if its entry could be stored. -/
theorem offers_of_fill_from_source {path : String} (isCached : session.cache = some settings)
    (exports : session.device.capabilities.programBinary = true)
    (links : session.device.failLinks = false)
    (fresh : attachedTo object session.device = some []) (notEmpty : program.stages ≠ [])
    (short : ∀ stage ∈ program.stages, stage.2.utf8ByteSize < UInt32.size)
    (stores : ((ProgramCache.store settings name program.key
      (program.entry session.device.binaryFormat).binary).run session.files).value = .ok path)
    (fills : ((fill name program object).run session).value = .ok false)
    (content : contentOf object ((fill name program object).run session).state.device =
      some (linkedContent held)) :
    Offers settings name program.key session.device.binaryFormat held
      ((fill name program object).run session).state.files := by
  obtain ⟨unserved, sound⟩ := of_fill_from_source fills
  obtain ⟨compiled, holds, sameHoldings, sameSettings, -, isFinal, filled⟩ :=
    fill_of_unserved unserved sound notEmpty links fresh
  obtain rfl : held = program.stages :=
    congrArg (·.1) (Option.some.inj (content.symm.trans filled))
  have stillCached : compiled.cache = some settings :=
    (congrArg (·.1.2.2.2.1) sameHoldings).trans isCached
  have sameFiles : compiled.files = session.files := congrArg (·.2) sameHoldings
  have sameFormat : compiled.device.binaryFormat = session.device.binaryFormat :=
    congrArg (·.2.1) sameSettings
  have stillExports : compiled.device.capabilities.programBinary = true :=
    (congrArg (·.1.programBinary) sameSettings).trans exports
  have isBinary : ShaderDevice.programBinary compiled.device object =
      some (program.entry session.device.binaryFormat).binary := by
    refine (programBinary_of_content holds).trans ?_
    rw [if_pos stillExports, sameFormat]
    rfl
  refine ⟨encodeStages program.stages, ?_, decodeStages?_encodeStages short⟩
  rw [isFinal, files_keep stillCached isBinary, sameFiles]
  exact ProgramCache.load_of_store stores

theorem MadeFrom.offers (made : MadeFrom name vertex fragment session object fromCache held)
    (configured : session.Configured) (isCached : session.cache = some settings)
    (links : session.device.failLinks = false)
    (short : ∀ stage ∈ (session.recast vertex fragment).stages,
      stage.2.utf8ByteSize < UInt32.size)
    (kept : fromCache = true ∨ ∃ path, ((ProgramCache.store settings name
      (session.recast vertex fragment).key ((session.recast vertex fragment).entry
        session.device.binaryFormat).binary).run session.files).value = .ok path) :
    Offers settings name (session.recast vertex fragment).key session.device.binaryFormat held
      ((create name vertex fragment).run session).state.files := by
  rw [made.create_eq.2]
  obtain ⟨stage, makes, fills, content⟩ := made
  have stillCached : session.withObject.cache = some settings := isCached
  cases fromCache with
  | true => exact offers_of_fill_from_cache stillCached fills content
  | false =>
      obtain ⟨path, stores⟩ := kept.resolve_left Bool.false_ne_true
      have exports := (Bool.and_eq_true_iff.mp (configured.caches settings isCached)).2
      exact offers_of_fill_from_source stillCached exports links (attachedTo_object makes)
        (stages_ne_nil stage session) short stores fills content

theorem compileCount_deviceAfterAdopt (object : ProgramId) (session : Session Device) :
    (deviceAfterAdopt object session).compileCount = session.device.compileCount := by
  have uses : ∀ selected, Preserves (fun device => device.compileCount) (useProgram selected) := by
    intro selected
    unfold useProgram
    split
    · exact preserves_modify fun _ => rfl
    · refine preserves_bind preserves_get fun device => ?_
      split
      · exact preserves_modify fun _ => rfl
      · exact preserves_note _ _
  have sets : ∀ location value,
      Preserves (fun device => device.compileCount) (setUniform location value) := by
    intro location value
    refine preserves_bind preserves_get fun device => ?_
    split
    · exact preserves_note _ _
    · exact preserves_bind (preserves_modify fun _ => rfl) fun _ => preserves_modify fun _ => rfl
  exact (uses _ _).trans (preserves_build_of uses sets object session.device)

theorem madeFrom_of_offers (stage : HasStage vertex fragment)
    (isCached : session.cache = some settings)
    (offers : Offers settings name (session.recast vertex fragment).key
      session.device.binaryFormat held session.files) :
    MadeFrom name vertex fragment session ⟨session.device.nextId⟩ true held ∧
      ((create name vertex fragment).run session).state.device.compileCount =
        session.device.compileCount := by
  have makes : session.objectAnswer = .ok ⟨session.device.nextId⟩ := rfl
  have stillCached : session.withObject.cache = some settings := isCached
  obtain ⟨fills, content, sameCount⟩ :=
    fill_of_offers stillCached offers (attachedTo_object makes)
  have made : MadeFrom name vertex fragment session ⟨session.device.nextId⟩ true held :=
    ⟨stage, makes, fills, content⟩
  refine ⟨made, ?_⟩
  rw [made.create_eq.2]
  exact (compileCount_deviceAfterAdopt _ _).trans sameCount

/-- The same session goes on, or a new one of the same kind finds its files. -/
inductive Resumes (settings : CacheSettings) (final : Session Device) : Session Device → Prop
  | same : Resumes settings final final
  | anew {device : Device} (sameCapabilities : device.capabilities = final.device.capabilities)
      (sameFormat : device.binaryFormat = final.device.binaryFormat) :
      Resumes settings final (start device final.files settings)

/-- What a session needs to find what an earlier one left in the cache. -/
structure Inherits (settings : CacheSettings) (session next : Session Device) (files : FileTree) :
    Prop where
  sound : next.Sound
  numbered : next.programs.slots.length < UInt32.size
  dialect : next.capabilities = session.capabilities
  isCached : next.cache = some settings
  sameFormat : next.device.binaryFormat = session.device.binaryFormat
  sameFiles : next.files = files

theorem MadeFrom.inherits (made : MadeFrom name vertex fragment session object fromCache held)
    (reachable : session.Reachable) (isCached : session.cache = some settings)
    {next : Session Device}
    (resumes : Resumes settings ((create name vertex fragment).run session).state next) :
    Inherits settings session next ((create name vertex fragment).run session).state.files := by
  have coherent := reachable.coherent
  have configured := reachable.configured
  have same := preserves_configuration_create name vertex fragment session
  simp only [configuration, Prod.mk.injEq] at same
  obtain ⟨sameDialect, sameCache, sameCapabilities, sameFormat⟩ := same
  cases resumes with
  | same =>
      refine ⟨sound_create coherent.sound name vertex fragment, ?_, sameDialect,
        sameCache.trans isCached, sameFormat, rfl⟩
      -- Every slot was made for an object, and this object's number is one of 32 bits.
      have oneMore := ProgramTable.length_slots_insert_le coherent.sound.table
        (recordOf name (session.recast vertex fragment) object fromCache held)
      have room := coherent.room
      have small := session.device.nextId.toNat_lt
      rw [made.create_eq.2]
      change (session.programs.insert _).2.slots.length < 4294967296
      omega
  | @anew device sameDevice sameFormat' =>
      have isCapable : device.capabilities = session.device.capabilities :=
        sameDevice.trans sameCapabilities
      have noSlots : 0 < UInt32.size := by decide
      refine ⟨sound_start _ _ _, noSlots, isCapable.trans configured.dialect.symm, ?_,
        sameFormat'.trans sameFormat, rfl⟩
      have able : canCache device settings = true := by
        change (settings.enabled && device.capabilities.programBinary) = true
        rw [isCapable]
        exact configured.caches settings isCached
      exact if_pos able

/-- Once a program was made, the cache serves it, whatever it held before. -/
theorem create_again_from_cache (reachable : session.Reachable)
    (isCached : session.cache = some settings) (links : session.device.failLinks = false)
    (short : ∀ stage ∈ (session.recast vertex fragment).stages,
      stage.2.utf8ByteSize < UInt32.size)
    {handle : ProgramHandle} {linked : LinkedProgram}
    (made : Made name vertex fragment session handle linked)
    (kept : linked.fromCache = true ∨ ∃ path, ((ProgramCache.store settings name
      (session.recast vertex fragment).key ((session.recast vertex fragment).entry
        session.device.binaryFormat).binary).run session.files).value = .ok path)
    {next : Session Device}
    (resumes : Resumes settings ((create name vertex fragment).run session).state next) :
    ∃ handle' linked', Made name vertex fragment next handle' linked' ∧
      linked'.fromCache = true ∧ linked'.reflection = linked.reflection ∧
      (∀ stage, ((create name vertex fragment).run next).state.device.linkedSource?
          linked'.object stage =
        ((create name vertex fragment).run session).state.device.linkedSource?
          linked.object stage) ∧
      ((create name vertex fragment).run next).state.device.compileCount =
        next.device.compileCount := by
  obtain ⟨object, fromCache, held, madeFrom⟩ := exists_madeFrom made.value
  have coherent := reachable.coherent
  obtain ⟨isValue, isLive⟩ := madeFrom.made coherent.sound
    (Nat.lt_trans coherent.room session.device.nextId.toNat_lt)
  cases made.value.symm.trans isValue
  cases made.live.symm.trans isLive
  have offers := madeFrom.offers reachable.configured isCached links short kept
  obtain ⟨sound, numbered, dialect, stillCached, sameFormat, sameFiles⟩ :=
    madeFrom.inherits reachable isCached resumes
  have sameRecast : next.recast vertex fragment = session.recast vertex fragment := by
    rw [recast, recast, dialect]
  rw [← sameRecast, ← sameFormat, ← sameFiles] at offers
  obtain ⟨again, sameCount⟩ := madeFrom_of_offers madeFrom.stage stillCached offers
  refine ⟨_, _, again.made sound numbered, rfl, ?_, fun stage => ?_, sameCount⟩
  · rw [reflection_recordOf, reflection_recordOf]
  · rw [object_recordOf, object_recordOf, again.linkedSource?_eq, madeFrom.linkedSource?_eq]

section Garbage

/-- A session that finds three bytes where the entry of a program should be. -/
def garbageSession : Session Device :=
  lampSession (lampFiles [1, 2, 3])

theorem store_garbage (key : UInt32) (binary : ProgramBinary) :
    ((ProgramCache.store { directory := "" } "lamp" key binary).run
      (lampFiles [1, 2, 3])).value = .ok "lamp.programbin" := by
  have writes : (lampFiles [1, 2, 3]).write "lamp.programbin" (CacheEntry.encode ⟨key, binary⟩) =
      .ok (lampFiles (CacheEntry.encode ⟨key, binary⟩)) := by
    unfold FileTree.write
    rw [resolve_lamp]
    rfl
  exact (store_lamp_of_write writes).1

theorem madeFrom_garbage : MadeFrom "lamp" lampSource none garbageSession ⟨1⟩ false
    [(.vertex, lampText)] := by
  have stage : HasStage lampSource none := by decide +kernel
  have makes : garbageSession.objectAnswer = .ok ⟨1⟩ := rfl
  have isPath : CacheSettings.pathFor? { directory := "" } "lamp" = some "lamp.programbin" := by
    decide +kernel
  have unserved : ((restore "lamp" (garbageSession.recast lampSource none).key ⟨1⟩).run
      garbageSession.withObject).value = false := by
    by_contra served
    rw [Bool.not_eq_false] at served
    obtain ⟨used, binary, isUsed, loaded, -⟩ := restore_of_served served
    cases isUsed
    have fails := ProgramCache.load_of_read isPath (read_lampFiles [1, 2, 3])
      (garbageSession.recast lampSource none).key
    cases fails.symm.trans loaded
  obtain ⟨-, -, -, -, fills, -, content⟩ := fill_of_unserved unserved (fault?_lamp _)
    (stages_ne_nil stage _) rfl (attachedTo_object makes)
  exact ⟨stage, makes, fills, content⟩

/-- A session on a new driver, which links nothing, over the files that are left. -/
def healedSession : Session Device :=
  start (fresh .gl33 1 true) ((create "lamp" lampSource none).run garbageSession).state.files
    { directory := "" }

theorem resumes_healed : Resumes { directory := "" }
    ((create "lamp" lampSource none).run garbageSession).state healedSession := by
  have same := preserves_configuration_create "lamp" lampSource none garbageSession
  simp only [configuration, Prod.mk.injEq] at same
  obtain ⟨-, -, sameCapabilities, sameFormat⟩ := same
  exact .anew sameCapabilities.symm sameFormat.symm

/-- It is served what was compiled over the three bytes. -/
theorem garbage_healed : ∃ handle program,
    Made "lamp" lampSource none healedSession handle program ∧ program.fromCache = true ∧
      ((create "lamp" lampSource none).run healedSession).state.device.linkedSource?
        program.object .vertex = some lampText ∧
      ((create "lamp" lampSource none).run healedSession).state.device.compileCount = 0 := by
  have reachable : garbageSession.Reachable := .start .gl33 1 false _ { directory := "" }
  have made := madeFrom_garbage.made reachable.coherent.sound (by decide)
  obtain ⟨handle, program, madeAgain, fromCache, -, sameTexts, sameCount⟩ :=
    create_again_from_cache reachable rfl rfl (short_lamp _) made
      (Or.inr ⟨"lamp.programbin", store_garbage _ _⟩) resumes_healed
  have noneYet : healedSession.device.compileCount = 0 := rfl
  refine ⟨handle, program, madeAgain, fromCache, ?_, sameCount.trans noneYet⟩
  rw [sameTexts .vertex, object_recordOf, madeFrom_garbage.linkedSource?_eq]
  rfl

end Garbage

end Session

end ShaderPipeline
