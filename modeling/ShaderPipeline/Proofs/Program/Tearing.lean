import ShaderPipeline.Proofs.Cache.Cut
import ShaderPipeline.Proofs.Program.Serving

/-!
# Programs from entries that are cut off

If the write of an entry breaks off, the first bytes of the entry are what the next
session finds.  It compiles the program as if there were no entry, unless the
entry was cut between two records.  Then it takes the stages in front of the
cut for the whole program, and with them none at all if the cut is behind the two
words at the start.
-/

namespace ShaderPipeline

open Action Software Software.Device Dialect FileLocation

def Dialect.RecastProgram.entry (program : RecastProgram) (format : UInt32) : CacheEntry :=
  ⟨program.key, format, encodeStages program.stages⟩

namespace Software.Device

/-- A binary in the right format is taken exactly if its stages can be read. -/
theorem linkStatus_loadBinary {object : ProgramId} {binary : ProgramBinary} {device : Device}
    {attached : List AttachedStage} (present : attachedTo object device = some attached)
    (sameFormat : binary.format = device.binaryFormat) :
    ((loadBinary object binary).run device).state.linkStatus object =
      (decodeStages? binary.payload).isSome := by
  obtain ⟨entry, isEntry, -⟩ := Option.map_eq_some_iff.mp present
  have found : ((loadBinary object binary).run device).state.programs.find? object =
      (device.programs.find? object).map (·.load device.binaryFormat binary) :=
    find?_adjustProgram object _ device
  rw [linkStatus, found, isEntry, Option.map_some, ProgramObject.load,
    if_neg (not_not_intro sameFormat)]
  cases decodeStages? binary.payload <;> rfl

end Software.Device

namespace Session

variable {session : Session Device} {name path : String} {program : RecastProgram}
  {object : ProgramId} {settings : CacheSettings} {format : UInt32} {length : Nat}

theorem restore_of_loaded {binary : ProgramBinary} {key : UInt32}
    (isCached : session.cache = some settings)
    (loads : ((ProgramCache.load settings name key).run session.files).value =
      .ok (some binary)) :
    ((restore name key object).run session).value =
      ((loadBinary object binary).run session.device).state.linkStatus object := by
  have loads : ((onFiles (ProgramCache.load settings name key)).run session).value =
      .ok (some binary) := loads
  unfold restore
  rw [run_read_bind, isCached]
  simp only
  rw [run_bind, loads]
  simp only
  rw [run_bind, run_read_bind]
  cases linked : ((loadBinary object binary).run session.device).state.linkStatus object with
  | true =>
      rw [if_pos]
      · rfl
      · exact Bool.and_eq_true_iff.mpr ⟨linked, linked⟩
  | false =>
      rw [if_neg]
      · rfl
      · intro both
        exact Bool.false_ne_true (linked.symm.trans (Bool.and_eq_true_iff.mp both).2)

/-- The first bytes of an entry are loaded as a binary with the first bytes of the payload. -/
theorem load_of_torn {tree : FileTree} (isPath : settings.pathFor? name = some path)
    (reads : tree.read path = .ok ((program.entry format).encode.take length)) :
    ((ProgramCache.load settings name program.key).run tree).value =
      if length < 8 then
        .error (.truncated path ((program.entry format).encode.take length).length)
      else .ok (some ⟨format, (encodeStages program.stages).take (length - 8)⟩) := by
  rw [ProgramCache.load_of_read isPath reads, ProgramCache.binaryUnder, CacheEntry.decode?_take]
  by_cases short : length < 8
  · simp only [if_pos short]
    rfl
  · simp only [if_neg short, RecastProgram.entry, if_true]
    rfl

/-- What is left of an entry serves exactly if the rest of its payload can be read. -/
theorem restore_of_torn (isCached : session.cache = some settings)
    (isPath : settings.pathFor? name = some path)
    (reads : session.files.read path = .ok ((program.entry format).encode.take length))
    (sameFormat : session.device.binaryFormat = format)
    (fresh : attachedTo object session.device = some []) :
    ((restore name program.key object).run session).value =
      (decide (8 ≤ length) &&
        (decodeStages? ((encodeStages program.stages).take (length - 8))).isSome) := by
  have loads := load_of_torn isPath reads
  by_cases short : length < 8
  · rw [if_pos short] at loads
    rw [decide_eq_false (by omega), Bool.false_and]
    by_contra served
    rw [Bool.not_eq_false] at served
    obtain ⟨used, binary, isUsed, loaded, -⟩ := restore_of_served served
    cases isCached.symm.trans isUsed
    rw [loads] at loaded
    cases loaded
  · rw [if_neg short] at loads
    rw [decide_eq_true (by omega), Bool.true_and, restore_of_loaded isCached loads]
    exact linkStatus_loadBinary fresh sameFormat.symm

/-- An object that was filled from what is left of an entry holds the stages in it. -/
theorem content_of_torn (isCached : session.cache = some settings)
    (isPath : settings.pathFor? name = some path)
    (reads : session.files.read path = .ok ((program.entry format).encode.take length))
    {held : List (Stage × String)}
    (decodes : decodeStages? ((encodeStages program.stages).take (length - 8)) = some held)
    (served : ((restore name program.key object).run session).value = true) :
    contentOf object ((restore name program.key object).run session).state.device =
      some (linkedContent held) := by
  obtain ⟨used, binary, isUsed, loaded, isDevice, linked⟩ := restore_of_served served
  cases isCached.symm.trans isUsed
  rw [load_of_torn isPath reads] at loaded
  split at loaded
  · cases loaded
  · cases loaded
    rw [isDevice] at linked ⊢
    obtain ⟨stages, isStages, content⟩ := contentOf_loadBinary linked
    cases decodes.symm.trans isStages
    exact content

/-- An object that the cache does not serve is filled from source. -/
theorem fill_of_unserved
    (unserved : ((restore name program.key object).run session).value = false)
    (sound : fault? name program.stages = none) (notEmpty : program.stages ≠ [])
    (links : session.device.failLinks = false)
    (fresh : attachedTo object session.device = some []) :
    ∃ compiled : Session Device,
      contentOf object compiled.device = some (linkedContent program.stages) ∧
      compiled.holdings = session.holdings ∧ compiled.device.settings = session.device.settings ∧
      ((fill name program object).run session).value = .ok false ∧
      ((fill name program object).run session).state =
        ((keep name program.key object).run compiled).state ∧
      contentOf object ((fill name program object).run session).state.device =
        some (linkedContent program.stages) := by
  have sameHoldings := preserves_restore name program.key object session
  have sameSettings := congrArg (·.1.2.2.2.1)
    (preserves_restore_device name program.key object session)
  have sameAttached := congrArg (·.1)
    (preserves_restore_attached name program.key object session)
  revert unserved sameHoldings sameSettings sameAttached
  refine fill_elim_key name program object session fun value final ends => ?_
  generalize (restore name program.key object).run session = looked at ends ⊢
  intro unserved sameHoldings sameSettings sameAttached
  have few : program.stages.length < UInt32.size :=
    Nat.lt_of_le_of_lt (length_stages_le program) (by decide)
  have sameLinks : looked.state.device.failLinks = false :=
    (congrArg (·.2.2) sameSettings).trans links
  obtain ⟨done, content⟩ := compileAndLink_of_sound looked.state.capabilities sound notEmpty few
    sameLinks (sameAttached.trans fresh)
  have keptSettings := congrArg (·.2.2.2.1)
    (preserves_compileAndLink looked.state.capabilities name program object looked.state.device)
  have keptHoldings := preserves_compile name program object looked.state.withMiss
  obtain ⟨compiles, isCompiled⟩ := compile_of_ok looked.state.withMiss rfl done
  have holds : contentOf object ((compile name program object).run
      looked.state.withMiss).state.device = some (linkedContent program.stages) := by
    rw [isCompiled]
    exact content
  refine ⟨((compile name program object).run looked.state.withMiss).state, holds, ?_, ?_, ?_⟩
  · exact keptHoldings.trans sameHoldings
  · rw [isCompiled]
    exact keptSettings.trans sameSettings
  · cases ends with
    | restored served =>
        rw [unserved] at served
        cases served
    | compiled _ _ =>
        obtain ⟨files, isKept⟩ := keep_state name program.key object
          ((compile name program object).run looked.state.withMiss).state
        refine ⟨rfl, rfl, ?_⟩
        rw [isKept]
        exact holds
    | failed _ fails =>
        rw [compiles] at fails
        cases fails

/-- An object that was filled from source was not served, and its program compiles. -/
theorem of_fill_from_source
    (fills : ((fill name program object).run session).value = .ok false) :
    ((restore name program.key object).run session).value = false ∧
      fault? name program.stages = none := by
  revert fills
  refine fill_elim_key name program object session ?_
  rintro _ final ends rfl
  generalize (restore name program.key object).run session = looked at ends ⊢
  cases ends with
  | compiled unserved compiles =>
      refine ⟨unserved, ?_⟩
      cases fault : fault? name program.stages with
      | none => rfl
      | some failure =>
          obtain ⟨failed, -⟩ := compile_of_error looked.state.withMiss rfl
            (compileAndLink_of_fault looked.state.capabilities fault object looked.state.device)
          rw [failed] at compiles
          cases compiles

/-- What is left of an entry serves if it was cut between two records, and is passed over
otherwise. -/
theorem fill_of_torn (isCached : session.cache = some settings)
    (isPath : settings.pathFor? name = some path)
    (reads : session.files.read path = .ok ((program.entry format).encode.take length))
    (sameFormat : session.device.binaryFormat = format)
    (fresh : attachedTo object session.device = some [])
    (links : session.device.failLinks = false) (sound : fault? name program.stages = none)
    (notEmpty : program.stages ≠ [])
    (short : ∀ stage ∈ program.stages, stage.2.utf8ByteSize < UInt32.size)
    (cut : length < (program.entry format).encode.length) :
    (∃ count < program.stages.length,
        length = 8 + (encodeStages (program.stages.take count)).length ∧
        ((fill name program object).run session).value = .ok true ∧
        contentOf object ((fill name program object).run session).state.device =
          some (linkedContent (program.stages.take count))) ∨
      (∀ count < program.stages.length,
        length ≠ 8 + (encodeStages (program.stages.take count)).length) ∧
        ((fill name program object).run session).value = .ok false ∧
        contentOf object ((fill name program object).run session).state.device =
          some (linkedContent program.stages) := by
  have serves := restore_of_torn isCached isPath reads sameFormat fresh
  -- What happens if nothing serves is the same for a cut in the words and in a record.
  have fromSource : ((restore name program.key object).run session).value = false →
      ((fill name program object).run session).value = .ok false ∧
        contentOf object ((fill name program object).run session).state.device =
          some (linkedContent program.stages) := by
    intro unserved
    obtain ⟨-, -, -, -, fills, -, content⟩ :=
      fill_of_unserved unserved sound notEmpty links fresh
    exact ⟨fills, content⟩
  rw [CacheEntry.length_encode] at cut
  have cut : length < 8 + (encodeStages program.stages).length := cut
  by_cases words : length < 8
  · -- A cut between two records leaves both words whole.
    right
    rw [decide_eq_false (by omega), Bool.false_and] at serves
    exact ⟨fun count _ => by omega, fromSource serves⟩
  · rw [decide_eq_true (by omega), Bool.true_and] at serves
    have cutPayload : length - 8 < (encodeStages program.stages).length := by omega
    rcases decodeStages?_take short cutPayload with
      ⟨count, inStages, isLength, decodes⟩ | ⟨notBetween, decodes⟩
    · left
      rw [decodes, Option.isSome_some] at serves
      have content := content_of_torn isCached isPath reads decodes serves
      refine ⟨count, inStages, by omega, ?_⟩
      refine fill_elim_key name program object session fun value final ends => ?_
      cases ends with
      | restored _ => exact ⟨rfl, content⟩
      | compiled unserved _ =>
          rw [serves] at unserved
          cases unserved
      | failed unserved _ =>
          rw [serves] at unserved
          cases unserved
    · right
      rw [decodes, Option.isSome_none] at serves
      refine ⟨fun count inStages => ?_, fromSource serves⟩
      have different := notBetween count inStages
      omega

section Create

variable {vertex fragment : Option String}

/-- A program is made from the cache or from source, and its object holds the texts of some
stages. -/
def MakesWith (fromCache : Bool) (held : List (Stage × String)) (name : String)
    (vertex fragment : Option String) (session : Session Device) : Prop :=
  ∃ handle program, ((create name vertex fragment).run session).value = .ok handle ∧
    session.programs.insert program =
      (handle, ((create name vertex fragment).run session).state.programs) ∧
    program.fromCache = fromCache ∧
    ∀ stage, ((create name vertex fragment).run session).state.device.linkedSource?
      program.object stage = (held.find? (·.1 == stage)).map (·.2)

theorem makesWith_of_fill {fromCache : Bool} {held : List (Stage × String)}
    (stage : HasStage vertex fragment) (makes : session.objectAnswer = .ok object)
    (fills : ((fill name (session.recast vertex fragment) object).run
      session.withObject).value = .ok fromCache)
    (content : contentOf object ((fill name (session.recast vertex fragment) object).run
      session.withObject).state.device = some (linkedContent held)) :
    MakesWith fromCache held name vertex fragment session ∧
      ((create name vertex fragment).run session).state.files =
        ((fill name (session.recast vertex fragment) object).run session.withObject).state.files := by
  have sameCore := preserves_fill name (session.recast vertex fragment) object session.withObject
  unfold MakesWith
  refine create_elim name vertex fragment session fun value final ends => ?_
  cases ends with
  | blank noStage => exact absurd stage noStage
  | refused _ refuses =>
      rw [makes] at refuses
      cases refuses
  | failed _ makes' fails =>
      cases makes.symm.trans makes'
      rw [fills] at fails
      cases fails
  | @adopted object' fromCache' filled _ makes' fills' isFilled =>
      cases makes.symm.trans makes'
      cases fills.symm.trans fills'
      rw [← isFilled] at content sameCore ⊢
      have programs : filled.programs = session.programs := congrArg (·.1) sameCore
      obtain ⟨-, reflected, -⟩ := build_of_content content
      rw [adopt_value, adopt_state, programs]
      refine ⟨⟨_, _, rfl, rfl, rfl, ?_⟩, rfl⟩
      exact linkedSource?_of_reflected ((contentOf_useProgram object _ _).trans reflected)

theorem create_of_torn (stage : HasStage vertex fragment)
    (isCached : session.cache = some settings) (isPath : settings.pathFor? name = some path)
    (links : session.device.failLinks = false)
    (reads : session.files.read path = .ok (((session.recast vertex fragment).entry
      session.device.binaryFormat).encode.take length))
    (sound : fault? name (session.recast vertex fragment).stages = none)
    (short : ∀ stage ∈ (session.recast vertex fragment).stages,
      stage.2.utf8ByteSize < UInt32.size)
    (cut : length < ((session.recast vertex fragment).entry
      session.device.binaryFormat).encode.length) :
    (∃ count < (session.recast vertex fragment).stages.length,
        length = 8 + (encodeStages ((session.recast vertex fragment).stages.take count)).length ∧
        MakesWith true ((session.recast vertex fragment).stages.take count) name vertex fragment
          session) ∨
      (∀ count < (session.recast vertex fragment).stages.length, length ≠
        8 + (encodeStages ((session.recast vertex fragment).stages.take count)).length) ∧
        MakesWith false (session.recast vertex fragment).stages name vertex fragment session := by
  have makes : session.objectAnswer = .ok ⟨session.device.nextId⟩ := rfl
  have stillCached : session.withObject.cache = some settings := isCached
  rcases fill_of_torn stillCached isPath reads rfl (attachedTo_object makes) links sound
      (stages_ne_nil stage session) short cut with
    ⟨count, inStages, isLength, fills, content⟩ | ⟨notBetween, fills, content⟩
  · exact Or.inl ⟨count, inStages, isLength, (makesWith_of_fill stage makes fills content).1⟩
  · exact Or.inr ⟨notBetween, (makesWith_of_fill stage makes fills content).1⟩

/-- A program was made from source, and its entry was stored. -/
structure StoresEntry (name : String) (vertex fragment : Option String)
    (session : Session Device) (settings : CacheSettings) (path : String)
    (content : List UInt8) : Prop where
  stage : HasStage vertex fragment
  isCached : session.cache = some settings
  isPath : settings.pathFor? name = some path
  links : session.device.failLinks = false
  fromSource : ∃ object, session.objectAnswer = .ok object ∧
    ((fill name (session.recast vertex fragment) object).run session.withObject).value =
      .ok false
  reads : ((create name vertex fragment).run session).state.files.read path = .ok content
  isNew : session.files.fileAt? (named path) ≠ some content

/-- What was stored is the entry of a program that compiles. -/
theorem StoresEntry.content_eq {content : List UInt8}
    (stores : StoresEntry name vertex fragment session settings path content) :
    content = ((session.recast vertex fragment).entry session.device.binaryFormat).encode ∧
      fault? name (session.recast vertex fragment).stages = none := by
  obtain ⟨object, makes, fills⟩ := stores.fromSource
  obtain ⟨unserved, sound⟩ := of_fill_from_source fills
  obtain ⟨compiled, holds, sameHoldings, sameSettings, -, isFinal, filled⟩ := fill_of_unserved
    unserved sound (stages_ne_nil stores.stage session) stores.links (attachedTo_object makes)
  have found := FileTree.fileAt?_of_read stores.reads
  rw [(makesWith_of_fill stores.stage makes fills filled).2, isFinal] at found
  have sameFiles : compiled.files = session.files := congrArg (·.2) sameHoldings
  have sameFormat : compiled.device.binaryFormat = session.device.binaryFormat :=
    congrArg (·.2.1) sameSettings
  refine ⟨?_, sound⟩
  rcases fileAt?_keep found with old | ⟨used, binary, -, isBinary, -, isEntry⟩
  · rw [sameFiles] at old
    exact absurd old stores.isNew
  · rw [programBinary_of_content holds, sameFormat] at isBinary
    split at isBinary
    · cases isBinary
      exact isEntry
    · cases isBinary

/-- A later session of the same kind finds only the first bytes of an entry. -/
structure FindsTorn (before next : Session Device) (settings : CacheSettings) (path : String)
    (content : List UInt8) (length : Nat) : Prop where
  capabilities : next.capabilities = before.capabilities
  isCached : next.cache = some settings
  format : next.device.binaryFormat = before.device.binaryFormat
  links : next.device.failLinks = false
  reads : next.files.read path = .ok (content.take length)
  cut : length < content.length

/-- An entry that is cut off is passed over, unless it is cut between two records.  Then the
stages in front of the cut are served, be they none. -/
theorem create_from_torn_entry {next : Session Device} {content : List UInt8}
    (stores : StoresEntry name vertex fragment session settings path content)
    (finds : FindsTorn session next settings path content length)
    (short : ∀ stage ∈ (session.recast vertex fragment).stages,
      stage.2.utf8ByteSize < UInt32.size) :
    let stages := (session.recast vertex fragment).stages
    (∃ count < stages.length, length = 8 + (encodeStages (stages.take count)).length ∧
        MakesWith true (stages.take count) name vertex fragment next) ∨
      (∀ count < stages.length, length ≠ 8 + (encodeStages (stages.take count)).length) ∧
        MakesWith false stages name vertex fragment next := by
  obtain ⟨rfl, sound⟩ := stores.content_eq
  have sameRecast : next.recast vertex fragment = session.recast vertex fragment := by
    rw [recast, recast, finds.capabilities]
  obtain ⟨-, isCached, sameFormat, links, reads, cut⟩ := finds
  rw [← sameRecast] at sound short reads cut ⊢
  rw [← sameFormat] at reads cut
  exact create_of_torn stores.stage isCached stores.isPath links reads sound short cut

end Create

section Lamp

/-- A session on a new driver, which keeps its entries in the working directory. -/
def lampSession (files : FileTree) : Session Device :=
  start (fresh .gl33 1 false) files { directory := "" }

def lampSource : Option String :=
  some "in vec4 place : POSITION;"

def lampText : String :=
  (recastStage .gl33 .vertex "in vec4 place : POSITION;").text

def lampEntry : List UInt8 :=
  (((lampSession {}).recast lampSource none).entry 1).encode

/-- A directory with nothing but a file of these bytes. -/
def lampFiles (bytes : List UInt8) : FileTree :=
  ({} : FileTree).put ["lamp.programbin"] (.file bytes)

theorem stages_lamp (files : FileTree) :
    ((lampSession files).recast lampSource none).stages = [(.vertex, lampText)] := by
  rfl

theorem toList_recastStage (caps : Capabilities) (stage : Stage) (source : String) :
    (recastStage caps stage source).text.toList =
      (preamble caps).toList ++ ((precision caps stage).toList ++
        ((intrinsicLines caps stage).flatMap (fun line => line.text.toList) ++
          (Body.ofSource caps stage source).text.toList)) := by
  simp [recastStage, header, intrinsics, String.toList_append, List.flatMap_def, Function.comp_def]

theorem errorDirective?_lampText : errorDirective? lampText = none := by
  -- The text is looked through piece by piece.
  rw [lampText, errorDirective?, toList_recastStage]
  decide +kernel

theorem fault?_of_noDirective {text : String} (noDirective : errorDirective? text = none)
    (name : String) (stage : Stage) : fault? name [(stage, text)] = none := by
  apply fault?_eq_none
  intro entry member
  rw [List.mem_singleton] at member
  subst member
  simp [compiledStage, compiled, noDirective]

theorem fault?_lamp (files : FileTree) :
    fault? "lamp" ((lampSession files).recast lampSource none).stages = none := by
  rw [stages_lamp]
  exact fault?_of_noDirective errorDirective?_lampText _ _

theorem short_lamp (files : FileTree) :
    ∀ stage ∈ ((lampSession files).recast lampSource none).stages,
      stage.2.utf8ByteSize < UInt32.size := by
  rw [stages_lamp]
  intro stage member
  rw [List.mem_singleton] at member
  subst member
  change lampText.utf8ByteSize < UInt32.size
  decide +kernel

theorem resolve_lamp (tree : FileTree) :
    tree.resolve "lamp.programbin" = .ok (.name [] "lamp.programbin" false) := by
  have oneSegment : FileTree.splitLast (Path.ofString "lamp.programbin").segments =
      some ([], "lamp.programbin".toList, false) := by decide +kernel
  unfold FileTree.resolve
  rw [if_neg (by decide +kernel), if_neg (by decide), if_neg (by decide +kernel), oneSegment]
  simp only [FileTree.walk]
  rw [if_neg (by decide +kernel), if_neg (by decide +kernel), String.ofList_toList]
  rfl

theorem read_lampFiles (bytes : List UInt8) :
    (lampFiles bytes).read "lamp.programbin" = .ok bytes := by
  unfold FileTree.read
  rw [resolve_lamp]
  rfl

theorem fileAt?_empty (place : FileLocation) : ({} : FileTree).fileAt? place = none := by
  have noFile : ∀ bytes, ({} : FileTree).node? place ≠ some (.file bytes) := by
    intro bytes isNode
    unfold FileTree.node? at isNode
    split at isNode <;> cases isNode
  unfold FileTree.fileAt?
  split
  · next bytes isNode => exact absurd isNode (noFile bytes)
  · rfl

theorem store_lamp_of_write {key : UInt32} {binary : ProgramBinary} {tree final : FileTree}
    (writes : tree.write "lamp.programbin" (CacheEntry.encode ⟨key, binary⟩) = .ok final) :
    ((ProgramCache.store { directory := "" } "lamp" key binary).run tree).value =
        .ok "lamp.programbin" ∧
      ((ProgramCache.store { directory := "" } "lamp" key binary).run tree).state = final := by
  have isPath : ProgramCache.pathFor { directory := "" } "lamp" = .ok "lamp.programbin" := by
    decide +kernel
  have isParent : (Path.ofString "lamp.programbin").parent? = some ⟨false, []⟩ := by
    decide +kernel
  have made : (ProgramCache.makeParent "lamp.programbin").run tree = ⟨.ok (), tree, []⟩ := by
    unfold ProgramCache.makeParent
    rw [isParent]
    simp only
    rw [run_get_bind]
    unfold FileTree.makeDirectories
    rfl
  unfold ProgramCache.store
  rw [isPath]
  simp only
  rw [run_bind, made]
  simp only
  rw [run_get_bind, writes]
  exact ⟨rfl, rfl⟩

theorem store_lamp (key : UInt32) (binary : ProgramBinary) :
    ((ProgramCache.store { directory := "" } "lamp" key binary).run {}).state =
      lampFiles (CacheEntry.encode ⟨key, binary⟩) := by
  refine (store_lamp_of_write ?_).2
  unfold FileTree.write
  rw [resolve_lamp]
  rfl

theorem storesEntry_lamp : StoresEntry "lamp" lampSource none (lampSession {})
    { directory := "" } "lamp.programbin" lampEntry := by
  have stage : HasStage lampSource none := by decide +kernel
  have makes : (lampSession {}).objectAnswer = .ok ⟨1⟩ := rfl
  have unserved : ((restore "lamp" ((lampSession {}).recast lampSource none).key ⟨1⟩).run
      (lampSession {}).withObject).value = false := by
    by_contra served
    rw [Bool.not_eq_false] at served
    obtain ⟨_, _, _, loaded, -⟩ := restore_of_served served
    obtain ⟨place, bytes, -, found, -⟩ := ProgramCache.load_eq_some loaded
    have nothing : (lampSession {}).withObject.files.fileAt? place = none := fileAt?_empty place
    cases nothing.symm.trans found
  obtain ⟨compiled, holds, sameHoldings, sameSettings, fills, isFinal, content⟩ :=
    fill_of_unserved unserved (fault?_lamp _) (stages_ne_nil stage _) rfl (attachedTo_object makes)
  have isCached : compiled.cache = some { directory := "" } :=
    congrArg (·.1.2.2.2.1) sameHoldings
  have noFiles : compiled.files = {} := congrArg (·.2) sameHoldings
  have sameCapabilities : compiled.device.capabilities = .gl33 := congrArg (·.1) sameSettings
  have sameFormat : compiled.device.binaryFormat = 1 := congrArg (·.2.1) sameSettings
  have isBinary : compiled.device.programBinary ⟨1⟩ =
      some ⟨1, encodeStages ((lampSession {}).recast lampSource none).stages⟩ := by
    rw [programBinary_of_content holds, sameCapabilities, sameFormat]
    rfl
  refine ⟨stage, rfl, by decide +kernel, rfl, ⟨⟨1⟩, makes, fills⟩, ?_, ?_⟩
  · rw [(makesWith_of_fill stage makes fills content).2, isFinal, files_keep isCached isBinary,
      noFiles, store_lamp]
    exact read_lampFiles _
  · intro found
    cases (fileAt?_empty _).symm.trans found

theorem findsTorn_lamp {length : Nat} (cut : length < lampEntry.length) :
    FindsTorn (lampSession {}) (lampSession (lampFiles (lampEntry.take length)))
      { directory := "" } "lamp.programbin" lampEntry length :=
  ⟨rfl, rfl, rfl, rfl, read_lampFiles _, cut⟩

theorem lt_length_lampEntry : 12 < lampEntry.length := by
  have isPayload : encodeStages ((lampSession {}).recast lampSource none).stages =
      encodeStage (.vertex, lampText) := by
    rw [stages_lamp]
    exact List.append_nil _
  rw [lampEntry, CacheEntry.length_encode]
  change 12 < 8 + (encodeStages ((lampSession {}).recast lampSource none).stages).length
  rw [isPayload, length_encodeStage]
  omega

/-- The two words at the start of an entry are served as a program without stages. -/
theorem words_served : StoresEntry "lamp" lampSource none (lampSession {}) { directory := "" }
      "lamp.programbin" lampEntry ∧
    FindsTorn (lampSession {}) (lampSession (lampFiles (lampEntry.take 8))) { directory := "" }
      "lamp.programbin" lampEntry 8 ∧
    MakesWith true [] "lamp" lampSource none (lampSession (lampFiles (lampEntry.take 8))) := by
  have cut : 8 < lampEntry.length := Nat.lt_trans (by decide) lt_length_lampEntry
  have torn := findsTorn_lamp cut
  refine ⟨storesEntry_lamp, torn, ?_⟩
  rcases create_of_torn storesEntry_lamp.stage torn.isCached storesEntry_lamp.isPath torn.links
      torn.reads (fault?_lamp _) (short_lamp _) cut with
    ⟨count, inStages, -, makes⟩ | ⟨notBetween, -⟩
  · have isZero : count = 0 := Nat.lt_one_iff.mp inStages
    rw [isZero] at makes
    exact makes
  · exact absurd rfl (notBetween 0 Nat.one_pos)

/-- A cut in the first record of an entry is noticed. -/
theorem torn_record_recompiled :
    MakesWith false ((lampSession {}).recast lampSource none).stages "lamp" lampSource none
      (lampSession (lampFiles (lampEntry.take 12))) := by
  rcases create_from_torn_entry storesEntry_lamp (findsTorn_lamp lt_length_lampEntry)
      (short_lamp _) with
    ⟨count, inStages, isLength, -⟩ | ⟨-, makes⟩
  · have isZero : count = 0 := Nat.lt_one_iff.mp inStages
    rw [isZero] at isLength
    cases isLength
  · exact makes

end Lamp

end Session

end ShaderPipeline
