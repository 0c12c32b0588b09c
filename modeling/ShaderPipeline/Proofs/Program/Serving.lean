import ShaderPipeline.Proofs.Cache.Store
import ShaderPipeline.Proofs.Program.Coherence
import ShaderPipeline.Proofs.Program.Likeness
import ShaderPipeline.Proofs.Software.Linking

/-!
# Making programs from an honest cache

A cache is honest if every file in it is the entry of a program that compiles,
stored under the key of that program.  With an honest cache, what comes of making
a program depends on its texts only, and the cache stays honest.
-/

namespace ShaderPipeline

open Action Software Software.Device Dialect

namespace Dialect.RecastProgram

/-- The number under which the binary of a program is cached. -/
def key (program : RecastProgram) : UInt32 :=
  programKey program.vertex program.fragment

def text? (program : RecastProgram) : Stage → Option String
  | .vertex => program.vertex
  | .fragment => program.fragment

theorem stages_congr {first second : RecastProgram} (sameVertex : first.vertex = second.vertex)
    (sameFragment : first.fragment = second.fragment) : first.stages = second.stages := by
  rw [stages, stages, sameVertex, sameFragment]

theorem find?_stages (program : RecastProgram) (stage : Stage) :
    (program.stages.find? (·.1 == stage)).map (·.2) = program.text? stage := by
  obtain ⟨vertex, fragment, interface, diagnostics⟩ := program
  cases vertex <;> cases fragment <;> cases stage <;> rfl

end Dialect.RecastProgram

/-- The programs that are made in a history, and the places where they are cached. -/
structure Catalog where
  programs : List RecastProgram
  places : List FileLocation

namespace Catalog

/-- The texts are short enough for binaries, and the keys tell the programs apart. -/
structure Sound (catalog : Catalog) : Prop where
  short : ∀ program ∈ catalog.programs, ∀ stage ∈ program.stages,
    stage.2.utf8ByteSize < UInt32.size
  apart : ∀ program ∈ catalog.programs, ∀ other ∈ catalog.programs, program.key = other.key →
    program.vertex = other.vertex ∧ program.fragment = other.fragment

/-- The bytes are the entry of a program that compiles. -/
def Stores (catalog : Catalog) (content : List UInt8) : Prop :=
  ∃ program ∈ catalog.programs, (∀ stage ∈ program.stages, (compiledStage stage).compiled) ∧
    ∃ format, content = CacheEntry.encode ⟨program.key, format, encodeStages program.stages⟩

/-- Every file at a place of the catalog is such an entry. -/
def Honest (catalog : Catalog) (tree : FileTree) : Prop :=
  ∀ place ∈ catalog.places, ∀ content, tree.fileAt? place = some content → catalog.Stores content

/-- The entry that is read under a program's key holds the program. -/
theorem Stores.of_key {catalog : Catalog} (sound : catalog.Sound) {content : List UInt8}
    (stores : catalog.Stores content) {program : RecastProgram}
    (member : program ∈ catalog.programs) {binary : ProgramBinary}
    (decodes : CacheEntry.decode? content = some ⟨program.key, binary⟩) :
    (∀ stage ∈ program.stages, (compiledStage stage).compiled) ∧
      decodeStages? binary.payload = some program.stages := by
  obtain ⟨stored, isStored, compiles, format, rfl⟩ := stores
  rw [CacheEntry.decode?_encode, Option.some.injEq, CacheEntry.mk.injEq] at decodes
  obtain ⟨sameKey, rfl⟩ := decodes
  -- The entry may have been stored for another name, but not for other texts.
  obtain ⟨sameVertex, sameFragment⟩ := sound.apart stored isStored program member sameKey
  rw [← RecastProgram.stages_congr sameVertex sameFragment]
  exact ⟨compiles, decodeStages?_encodeStages (sound.short stored isStored)⟩

end Catalog

namespace Session

/-- The ends of filling an object, with the key of the program. -/
@[elab_as_elim]
theorem fill_elim_key {δ : Type} [ShaderDevice δ] (name : String) (program : RecastProgram)
    (object : ProgramId) (session : Session δ)
    {motive : Except ShaderError Bool → Session δ → Prop}
    (each : ∀ value final,
      FillEnds name program program.key object ((restore name program.key object).run session)
        value final → motive value final) :
    motive ((fill name program object).run session).value
      ((fill name program object).run session).state :=
  fill_elim name program object session each

/-- What the session was started with is known, and its cache is honest. -/
structure Serving (catalog : Catalog) (caps : Capabilities) (cache : Option CacheSettings)
    (session : Session Device) : Prop where
  sound : session.Sound
  capabilities : session.capabilities = caps
  links : session.device.failLinks = false
  cache : ∀ used, session.cache = some used → cache = some used
  honest : catalog.Honest session.files

variable {catalog : Catalog} {caps : Capabilities} {cache : Option CacheSettings}
  {session : Session Device} {name : String} {program : RecastProgram} {object : ProgramId}

/-- A program that was restored compiles, and the object holds its texts. -/
theorem content_of_restore (known : catalog.Sound) (serving : session.Serving catalog caps cache)
    (member : program ∈ catalog.programs)
    (placed : ∀ place, cache.bind (ProgramCache.placeFor? · name) = some place →
      place ∈ catalog.places)
    (served : ((restore name program.key object).run session).value = true) :
    (∀ stage ∈ program.stages, (compiledStage stage).compiled) ∧
      contentOf object ((restore name program.key object).run session).state.device =
        some (linkedContent program.stages) := by
  obtain ⟨used, binary, isCached, loaded, isDevice, linked⟩ := restore_of_served served
  obtain rfl := serving.cache used isCached
  obtain ⟨place, bytes, isPlace, found, decodes⟩ := ProgramCache.load_eq_some loaded
  have stores := serving.honest place (placed place isPlace) bytes found
  obtain ⟨compiles, decoded⟩ := stores.of_key known member decodes
  rw [isDevice] at linked ⊢
  obtain ⟨stages, isStages, content⟩ := contentOf_loadBinary linked
  rw [decoded, Option.some.injEq] at isStages
  rw [← isStages] at content
  exact ⟨compiles, content⟩

/-- Every file was there before a binary was kept, or it holds that binary. -/
theorem fileAt?_keep {key : UInt32} {location : FileLocation} {content : List UInt8}
    (found : ((keep name key object).run session).state.files.fileAt? location = some content) :
    session.files.fileAt? location = some content ∨
      ∃ used binary, session.cache = some used ∧
        session.device.programBinary object = some binary ∧
        ProgramCache.placeFor? used name = some location ∧
        content = CacheEntry.encode ⟨key, binary⟩ := by
  by_cases both : ∃ used binary, session.cache = some used ∧
      session.device.programBinary object = some binary
  · obtain ⟨used, binary, isCached, isBinary⟩ := both
    rw [files_keep isCached isBinary] at found
    rcases ProgramCache.fileAt?_store found with old | ⟨isPlace, isEntry⟩
    · exact Or.inl old
    · exact Or.inr ⟨used, binary, isCached, isBinary, isPlace, isEntry⟩
  · rw [files_keep_of_none fun used binary isCached isBinary =>
      both ⟨used, binary, isCached, isBinary⟩] at found
    exact Or.inl found

theorem preserves_restore_attached (name : String) (key : UInt32) (object : ProgramId) :
    Preserves (fun session : Session Device =>
        (attachedTo object session.device, session.statistics))
      (restore name key object) := by
  refine preserves_restore_of (fun binary session => ?_) name key
  exact Prod.ext (preserves_attachedTo_loadBinary object binary session.device) rfl

theorem Serving.of_core {final : Session Device} (serving : session.Serving catalog caps cache)
    (sameCore : final.core = session.core)
    (sameLinks : final.device.failLinks = session.device.failLinks)
    (honest : catalog.Honest final.files) : final.Serving catalog caps cache where
  sound := serving.sound.of_core sameCore
  capabilities := (congrArg (·.2.2.1) sameCore).trans serving.capabilities
  links := sameLinks.trans serving.links
  cache := fun other isCached =>
    serving.cache other ((congrArg (·.2.2.2.1) sameCore).symm.trans isCached)
  honest := honest

theorem Serving.of_restore (serving : session.Serving catalog caps cache) (name : String)
    (key : UInt32) (object : ProgramId) :
    ((restore name key object).run session).state.Serving catalog caps cache := by
  have holds := preserves_restore name key object session
  have sameSettings := congrArg (·.1.2.2.2.1) (preserves_restore_device name key object session)
  generalize ((restore name key object).run session).state = found at holds sameSettings ⊢
  have sameFiles : found.files = session.files := congrArg (·.2) holds
  refine serving.of_core (congrArg (·.1) holds) (congrArg (·.2.2) sameSettings) ?_
  rw [sameFiles]
  exact serving.honest

/-- A new object has no stages. -/
theorem attachedTo_object (makes : session.objectAnswer = .ok object) :
    attachedTo object session.withObject.device = some [] := by
  cases makes
  change attachedTo ⟨session.device.nextId⟩ session.device.withProgram = some []
  simp [attachedTo, withProgram, Registry.find?_insert]

/-- Filling an object fails if a stage of the program does not compile, whatever is
in the cache. -/
theorem fill_of_fault (known : catalog.Sound) (serving : session.Serving catalog caps cache)
    (member : program ∈ catalog.programs)
    (placed : ∀ place, cache.bind (ProgramCache.placeFor? · name) = some place →
      place ∈ catalog.places)
    {failure : ShaderError} (fails : fault? name program.stages = some failure)
    (object : ProgramId) :
    ((fill name program object).run session).value = .error failure ∧
    ((fill name program object).run session).state.statistics.withoutCache =
      (countFailure failure session.statistics).withoutCache := by
  have looked := preserves_restore_attached name program.key object session
  refine fill_elim_key name program object session fun value final ends => ?_
  cases ends with
  | restored served =>
      obtain ⟨compiles, -⟩ := content_of_restore known serving member placed served
      rw [fault?_eq_none compiles name] at fails
      cases fails
  | compiled unserved compiles =>
      generalize ((restore name program.key object).run session).state = found at compiles
      have failed := (compile_of_error found.withMiss rfl
        (compileAndLink_of_fault found.capabilities fails object found.device)).1
      rw [failed] at compiles
      cases compiles
  | failed unserved compiles =>
      generalize ((restore name program.key object).run session).state = found
        at compiles looked ⊢
      obtain ⟨failed, isFinal⟩ := compile_of_error found.withMiss rfl
        (compileAndLink_of_fault found.capabilities fails object found.device)
      rw [failed, Except.error.injEq] at compiles
      subst compiles
      rw [isFinal]
      have sameStatistics : found.statistics = session.statistics := congrArg (·.2) looked
      refine ⟨rfl, ?_⟩
      simp only [withMiss, sameStatistics]
      cases failure <;> rfl

/-- A filled object holds the texts of the program, wherever they came from. -/
structure Filled (catalog : Catalog) (program : RecastProgram) (object : ProgramId)
    (before after : Session Device) : Prop where
  content : contentOf object after.device = some (linkedContent program.stages)
  statistics : after.statistics.withoutCache = before.statistics.withoutCache
  uploads : after.device.uploads = before.device.uploads
  honest : catalog.Honest after.files

theorem compile_of_sound (serving : session.Serving catalog caps cache)
    (sound : fault? name program.stages = none) (notEmpty : program.stages ≠ [])
    (fresh : attachedTo object session.device = some []) :
    ((compile name program object).run session).value = .ok () ∧
      Filled catalog program object session ((compile name program object).run session).state := by
  have few : program.stages.length < UInt32.size :=
    Nat.lt_of_le_of_lt (length_stages_le program) (by decide)
  obtain ⟨done, content⟩ := compileAndLink_of_sound session.capabilities sound notEmpty few
    serving.links fresh
  have kept := preserves_compileAndLink session.capabilities name program object session.device
  obtain ⟨compiles, isFinal⟩ := compile_of_ok session rfl done
  rw [compiles, isFinal]
  exact ⟨rfl, content, rfl, congrArg (·.2.2.2.2) kept, serving.honest⟩

/-- The binary of a program that is kept is its entry. -/
theorem Filled.keep {before : Session Device}
    (filled : Filled catalog program object before session)
    (member : program ∈ catalog.programs)
    (compiles : ∀ stage ∈ program.stages, (compiledStage stage).compiled) (name : String) :
    Filled catalog program object before ((keep name program.key object).run session).state := by
  have honest :
      catalog.Honest ((Session.keep name program.key object).run session).state.files := by
    intro place isPlace bytes found
    rcases fileAt?_keep found with old | ⟨used, binary, -, isBinary, -, rfl⟩
    · exact filled.honest place isPlace bytes old
    · rw [programBinary_of_content filled.content] at isBinary
      split at isBinary
      · cases isBinary
        exact ⟨program, member, compiles, _, rfl⟩
      · cases isBinary
  obtain ⟨files, isFinal⟩ := keep_state name program.key object session
  rw [isFinal] at honest ⊢
  exact ⟨filled.content, filled.statistics, filled.uploads, honest⟩

/-- Filling an object succeeds if all stages compile, and the object holds their
texts. -/
theorem fill_of_sound (known : catalog.Sound) (serving : session.Serving catalog caps cache)
    (member : program ∈ catalog.programs)
    (placed : ∀ place, cache.bind (ProgramCache.placeFor? · name) = some place →
      place ∈ catalog.places)
    (sound : fault? name program.stages = none) (notEmpty : program.stages ≠ [])
    (fresh : attachedTo object session.device = some []) :
    ∃ fromCache, ((fill name program object).run session).value = .ok fromCache ∧
      Filled catalog program object session ((fill name program object).run session).state := by
  have looked := preserves_restore_attached name program.key object session
  have outsideLooked := congrArg (·.1.2.2.2.2)
    (preserves_restore_device name program.key object session)
  have stillServing := serving.of_restore name program.key object
  simp only [Prod.mk.injEq] at looked
  obtain ⟨sameAttached, sameStatistics⟩ := looked
  refine fill_elim_key name program object session fun value final ends => ?_
  cases ends with
  | restored served =>
      obtain ⟨-, content⟩ := content_of_restore known serving member placed served
      refine ⟨true, rfl, content, ?_, outsideLooked, stillServing.honest⟩
      rw [withHit, sameStatistics]
      rfl
  | compiled unserved compiles =>
      generalize ((restore name program.key object).run session).state = found
        at compiles sameAttached sameStatistics outsideLooked stillServing ⊢
      have missServing : found.withMiss.Serving catalog caps cache :=
        stillServing.of_core rfl rfl stillServing.honest
      obtain ⟨-, filled⟩ := compile_of_sound missServing sound notEmpty (sameAttached.trans fresh)
      obtain ⟨content, statistics, uploads, honest⟩ :=
        filled.keep member (compiled_of_fault?_eq_none sound) name
      refine ⟨false, rfl, content, ?_, uploads.trans outsideLooked, honest⟩
      rw [statistics, withMiss, sameStatistics]
      rfl
  | failed unserved fails =>
      generalize ((restore name program.key object).run session).state = found
        at fails sameAttached stillServing
      have missServing : found.withMiss.Serving catalog caps cache :=
        stillServing.of_core rfl rfl stillServing.honest
      obtain ⟨compiles, -⟩ := compile_of_sound missServing sound notEmpty (sameAttached.trans fresh)
      rw [compiles] at fails
      cases fails

theorem preserves_settings_deleteProgram (object : ProgramId) :
    Preserves Device.settings (deleteProgram object) := by
  refine preserves_bind preserves_get fun device => ?_
  split
  · exact preserves_bind (preserves_modify fun _ => rfl) fun _ => preserves_note _ _
  · exact preserves_pure _

theorem preserves_settings_useProgram (object : Option ProgramId) :
    Preserves Device.settings (useProgram object) :=
  fun device => congrArg (·.2.2.2.2) (preserves_useProgram object device)

theorem preserves_settings_fill (name : String) (program : RecastProgram) (object : ProgramId) :
    Preserves (fun session : Session Device => session.device.settings)
      (fill name program object) := by
  refine preserves_bind (fun session => ?_) fun served => ?_
  · exact congrArg (·.1.2.2.2.1) (preserves_restore_device name program.key object session)
  · split
    · exact preserves_bind (preserves_modify fun _ => rfl) fun _ => preserves_pure _
    · refine preserves_bind (preserves_modify fun _ => rfl) fun _ => ?_
      refine preserves_bind ?_ fun result => ?_
      · refine preserves_bind (preserves_read _) fun caps => ?_
        refine preserves_bind (preserves_onDevice_view fun device => ?_) fun result => ?_
        · exact congrArg (·.2.2.2.1) (preserves_compileAndLink caps name program object device)
        · split
          · exact preserves_pure _
          · refine preserves_bind (preserves_modify fun _ => rfl) fun _ => ?_
            refine preserves_bind ?_ fun _ => preserves_pure _
            exact preserves_onDevice_view (preserves_settings_deleteProgram object)
      · split
        · exact preserves_pure _
        · refine preserves_bind (fun session => ?_) fun _ => preserves_pure _
          obtain ⟨files, isFinal⟩ := keep_state name program.key object session
          change ((keep name program.key object).run session).state.device.settings = _
          rw [isFinal]

/-- The program that is asked for, and its place, are in the catalog. -/
def Covers (catalog : Catalog) (caps : Capabilities) (cache : Option CacheSettings) :
    Request → Prop
  | .create name vertex fragment =>
      (HasStage vertex fragment →
        recastProgram caps (vertex.filter hasText) (fragment.filter hasText) ∈
          catalog.programs) ∧
      ∀ place, cache.bind (ProgramCache.placeFor? · name) = some place → place ∈ catalog.places
  | _ => True

/-- A program as it is taken into the table. -/
def madeAs (name : String) (program : RecastProgram) (object : ProgramId) (fromCache : Bool) :
    LinkedProgram :=
  linkedAs name program object fromCache (reflectionOf program.stages)

/-- What comes of making a program with an honest cache. -/
inductive Makes (name : String) (vertex fragment : Option String) (session : Session Device) :
    Except ProgramError ProgramHandle → Session Device → Prop where
  | blank (noStage : ¬ HasStage vertex fragment) :
      Makes name vertex fragment session (.error (.shader (.emptySource name))) session
  | failed {failure : ShaderError} {final : Session Device} (stage : HasStage vertex fragment)
      (fails : fault? name (session.recast vertex fragment).stages = some failure)
      (sameCore : final.core = session.core)
      (statistics : final.statistics.withoutCache =
        (countFailure failure session.statistics).withoutCache) :
      Makes name vertex fragment session (.error (.shader failure)) final
  | made (object : ProgramId) (fromCache : Bool) (program : LinkedProgram)
      {final : Session Device} (stage : HasStage vertex fragment)
      (sound : fault? name (session.recast vertex fragment).stages = none)
      (isMade : program = madeAs name (session.recast vertex fragment) object fromCache)
      (programs : final.programs = (session.programs.insert program).2)
      (bound : final.bound = session.bound)
      (capabilities : final.capabilities = session.capabilities)
      (statistics : final.statistics.withoutCache =
        { session.statistics with
          created := session.statistics.created + 1
          live := (session.programs.insert program).2.live }.withoutCache)
      (content : contentOf object final.device =
        reflectedContent (session.recast vertex fragment).stages)
      (uploads : final.device.uploads = session.device.uploads ++
        (samplerValues (session.recast vertex fragment).stages).map fun value =>
          ⟨object, value.1, value.2⟩) :
      Makes name vertex fragment session (.ok (session.programs.insert program).1) final

theorem stages_ne_nil {vertex fragment : Option String} (stage : HasStage vertex fragment)
    (session : Session Device) : (session.recast vertex fragment).stages ≠ [] := by
  unfold HasStage at stage
  unfold recast recastProgram
  cases isVertex : vertex.filter hasText with
  | some text => simp [RecastProgram.stages]
  | none =>
      cases isFragment : fragment.filter hasText with
      | some text => simp [RecastProgram.stages]
      | none => exact absurd ⟨isVertex, isFragment⟩ stage

/-- Taking a filled object into the table. -/
theorem makes_adopt {vertex fragment : Option String} {filled : Session Device} {fromCache : Bool}
    (stage : HasStage vertex fragment)
    (sound : fault? name (session.recast vertex fragment).stages = none)
    (sameCore : filled.core = session.core)
    (isFilled : Filled catalog (session.recast vertex fragment) object session filled) :
    Makes name vertex fragment session
      (.ok ((adopt name (session.recast vertex fragment) object fromCache).run filled).value)
      ((adopt name (session.recast vertex fragment) object fromCache).run filled).state := by
  obtain ⟨tables, content, uploads⟩ := build_of_content isFilled.content
  have programs : filled.programs = session.programs := congrArg (·.1) sameCore
  rw [adopt_value, adopt_state, tables, programs]
  refine .made object fromCache _ stage sound rfl rfl (congrArg (·.2.1) sameCore)
    (congrArg (·.2.2.1) sameCore) ?_ ?_ ?_
  · exact withoutCache_created isFilled.statistics _
  · exact (contentOf_useProgram object _ _).trans content
  · have selected := congrArg (·.2) (preserves_programs_useProgram
      (filled.boundProgram?.map (·.object)) ((Reflection.build object).run filled.device).state)
    refine selected.trans (uploads.trans ?_)
    rw [isFilled.uploads]

theorem serving_adopt {filled : Session Device} (serving : filled.Serving catalog caps cache)
    (name : String) (program : RecastProgram) (object : ProgramId) (fromCache : Bool) :
    ((adopt name program object fromCache).run filled).state.Serving catalog caps cache := by
  refine ⟨sound_adopt serving.sound name program object fromCache, serving.capabilities, ?_,
    serving.cache, serving.honest⟩
  have sameLinkage := linkage_deviceAfterAdopt object filled
  exact (congrArg (·.2.2.2.2.2.2) sameLinkage).trans serving.links

/-- With an honest cache, what comes of making a program depends on its texts only. -/
theorem create_makes (known : catalog.Sound) (serving : session.Serving catalog caps cache)
    {vertex fragment : Option String}
    (covered : Covers catalog caps cache (.create name vertex fragment)) :
    Makes name vertex fragment session ((create name vertex fragment).run session).value
        ((create name vertex fragment).run session).state ∧
      ((create name vertex fragment).run session).state.Serving catalog caps cache := by
  have withObject : session.withObject.Serving catalog caps cache :=
    serving.of_core rfl rfl serving.honest
  have member : HasStage vertex fragment →
      session.recast vertex fragment ∈ catalog.programs := by
    intro stage
    rw [recast, serving.capabilities]
    exact covered.1 stage
  have sameCore := fun object => preserves_fill name (session.recast vertex fragment) object
    session.withObject
  have sameSettings := fun object => congrArg (·.2.2) (preserves_settings_fill name
    (session.recast vertex fragment) object session.withObject)
  refine create_elim name vertex fragment session fun value final ends => ?_
  -- The exit that is taken has to be the one that the texts call for.
  cases ends with
  | blank noStage => exact ⟨.blank noStage, serving⟩
  | refused stage refuses => cases refuses
  | @failed object failure stage makes fails =>
      cases fault : fault? name (session.recast vertex fragment).stages with
      | none =>
          obtain ⟨fromCache, fills, -⟩ := fill_of_sound known withObject (member stage) covered.2
            fault (stages_ne_nil stage session) (attachedTo_object makes)
          rw [fills] at fails
          cases fails
      | some expected =>
          have sameFiles : ((fill name (session.recast vertex fragment) object).run
              session.withObject).state.files = session.files :=
            congrArg (·.2) (holdings_of_fill_error fails)
          obtain ⟨failed, statistics⟩ := fill_of_fault known withObject (member stage) covered.2
            fault object
          rw [failed, Except.error.injEq] at fails
          subst fails
          refine ⟨.failed stage fault (sameCore object) statistics, ?_⟩
          refine serving.of_core (sameCore object) (sameSettings object) ?_
          rw [sameFiles]
          exact serving.honest
  | @adopted object fromCache filled stage makes fills isFilled =>
      cases fault : fault? name (session.recast vertex fragment).stages with
      | some expected =>
          obtain ⟨failed, -⟩ := fill_of_fault known withObject (member stage) covered.2 fault object
          rw [failed] at fills
          cases fills
      | none =>
          obtain ⟨-, -, holds⟩ := fill_of_sound known withObject (member stage) covered.2 fault
            (stages_ne_nil stage session) (attachedTo_object makes)
          have sameCore := sameCore object
          have sameSettings := sameSettings object
          rw [← isFilled] at holds sameCore sameSettings
          have holdsHere : Filled catalog (session.recast vertex fragment) object session filled :=
            ⟨holds.content, holds.statistics, holds.uploads, holds.honest⟩
          exact ⟨makes_adopt stage fault sameCore holdsHere,
            serving_adopt (withObject.of_core sameCore sameSettings holds.honest) _ _ _ _⟩

end Session

end ShaderPipeline
