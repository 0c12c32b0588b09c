import Mathlib.Data.List.Induction
import Mathlib.Data.List.Nodup
import ShaderPipeline.Proofs.Software.Device

/-!
# Runs of the software device

The device is driven by requests in any order, with any numbers, texts and
binaries.  Its tables of uniforms always belong to the texts that were linked
last, its status tells how the last link or load ended, and uploads go to a
program that was linked when it was made current.
-/

namespace ShaderPipeline.Software.Device

open Action

/-- What can be asked of the device.  Queries change nothing and are left out. -/
inductive Request where
  | createStage (stage : Stage)
  | compileStage (id : StageId) (source : String)
  | deleteStage (id : StageId)
  | createProgram
  | deleteProgram (id : ProgramId)
  | attachStage (program : ProgramId) (stage : StageId)
  | bindAttribute (program : ProgramId) (location : UInt32) (name : String)
  | bindFragmentData (program : ProgramId) (location : UInt32) (name : String)
  | linkProgram (program : ProgramId)
  | loadBinary (program : ProgramId) (binary : ProgramBinary)
  | useProgram (program : Option ProgramId)
  | setUniform (location : UniformLocation) (value : UniformValue)
  | bindTexture (unit : UInt32) (texture : TextureId)
  | setFailLinks (fail : Bool)
deriving DecidableEq

inductive Answer where
  | stage (result : Except ShaderError StageId)
  | program (result : Except ShaderError ProgramId)
  | status (succeeded : Bool)
  | nothing
deriving DecidableEq

def Request.perform : Request → Action Device Answer
  | .createStage stage => return .stage (← Device.createStage stage)
  | .compileStage id source => return .status (← Device.compileStage id source)
  | .deleteStage id => do
      Device.deleteStage id
      return .nothing
  | .createProgram => return .program (← Device.createProgram)
  | .deleteProgram id => do
      Device.deleteProgram id
      return .nothing
  | .attachStage program stage => do
      Device.attachStage program stage
      return .nothing
  | .bindAttribute program location name => do
      Device.bindAttribute program location name
      return .nothing
  | .bindFragmentData program location name => do
      Device.bindFragmentData program location name
      return .nothing
  | .linkProgram program => return .status (← Device.linkProgram program)
  | .loadBinary program binary => return .status (← Device.loadBinary program binary)
  | .useProgram program => do
      Device.useProgram program
      return .nothing
  | .setUniform location value => do
      Device.setUniform location value
      return .nothing
  | .bindTexture unit texture => do
      Device.bindTexture unit texture
      return .nothing
  | .setFailLinks fail => do
      Device.setFailLinks fail
      return .nothing

def after (device : Device) (requests : List Request) : Device :=
  requests.foldl (fun device request => (request.perform.run device).state) device

def historyFrom (device : Device) : List Request → List (Request × Answer)
  | [] => []
  | request :: rest =>
      (request, (request.perform.run device).value) ::
        historyFrom (request.perform.run device).state rest

def Request.creates : Request → Bool
  | .createStage _ => true
  | .createProgram => true
  | _ => false

def Answer.madeNumber? : Answer → Option UInt32
  | .stage (.ok id) => some id.number
  | .program (.ok id) => some id.number
  | _ => none

def madeNumbers (history : List (Request × Answer)) : List UInt32 :=
  history.filterMap fun exchange => exchange.2.madeNumber?

/-- How a link of a program or a load into it ended. -/
def linkOutcome? (program : ProgramId) : Request × Answer → Option Bool
  | (.linkProgram id, .status succeeded) => if id = program then some succeeded else none
  | (.loadBinary id _, .status succeeded) => if id = program then some succeeded else none
  | _ => none

/-- How the last link of a program or load into it ended. -/
def lastOutcome? (history : List (Request × Answer)) (program : ProgramId) : Option Bool :=
  (history.filterMap (linkOutcome? program)).getLast?

/-- What the device knows about the link of a program. -/
structure LinkView where
  stages : List (Stage × String)
  linked : Bool
  layout : UniformLayout

def viewOf (object : ProgramObject) : LinkView :=
  ⟨object.linkedStages, object.linked, object.layout⟩

/-- What the device knows about the link of a program, if there is such a program. -/
def linkView? (device : Device) (program : ProgramId) : Option LinkView :=
  (device.programs.find? program).map viewOf

/-- What a request with its answer can do to a program. -/
inductive Fate (program : ProgramId) (next : UInt32) :
    Request × Answer → Option LinkView → Option LinkView → Prop
  | same {exchange : Request × Answer} (view : Option LinkView)
      (quiet : linkOutcome? program exchange = none) : Fate program next exchange view view
  | made {exchange : Request × Answer} (before : Option LinkView) (isNext : program = ⟨next⟩)
      (isMade : exchange.2.madeNumber? = some next)
      (quiet : linkOutcome? program exchange = none) :
      Fate program next exchange before (some ⟨[], false, {}⟩)
  | released (before : Option LinkView) (answer : Answer) :
      Fate program next (.deleteProgram program, answer) before none
  | absent {exchange : Request × Answer} (fails : linkOutcome? program exchange = some false) :
      Fate program next exchange none none
  | refused {exchange : Request × Answer} (view : LinkView)
      (fails : linkOutcome? program exchange = some false) :
      Fate program next exchange (some view) (some { view with linked := false })
  | relinked {exchange : Request × Answer} (view : LinkView) (stages : List (Stage × String))
      (succeeds : linkOutcome? program exchange = some true) :
      Fate program next exchange (some view) (some ⟨stages, true, .ofStages stages⟩)

theorem linkStatus_eq (device : Device) (program : ProgramId) :
    device.linkStatus program = ((device.linkView? program).map (·.linked)).getD false := by
  unfold linkStatus linkView?
  cases device.programs.find? program <;> rfl

theorem isSome_linkView?_of_linkStatus {device : Device} {program : ProgramId}
    (linked : device.linkStatus program) : (device.linkView? program).isSome := by
  rw [linkStatus_eq] at linked
  cases isView : device.linkView? program with
  | none => rw [isView] at linked; cases linked
  | some view => rfl

theorem mem_keys_iff_isSome_linkView? {device : Device} {program : ProgramId} :
    program ∈ device.programs.keys ↔ (device.linkView? program).isSome := by
  rw [Registry.mem_keys_iff, linkView?, Option.isSome_map]

section Fates

variable {program id : ProgramId} {device : Device} {change : ProgramObject → ProgramObject}

theorem linkView?_adjust (sameView : ∀ object, viewOf (change object) = viewOf object) :
    ({ device with programs := device.programs.adjust id change } : Device).linkView? program =
      device.linkView? program := by
  simp only [linkView?, Registry.find?_adjust]
  split
  · cases device.programs.find? program with
    | none => rfl
    | some object => simp [sameView]
  · rfl

theorem link_cases (object : ProgramObject) (failLinks : Bool) :
    (∃ log, object.link failLinks = object.refuse log) ∨
      ∃ stages, object.link failLinks = object.relink stages := by
  unfold ProgramObject.link
  split
  · exact Or.inl ⟨_, rfl⟩
  · exact Or.inr ⟨_, rfl⟩

theorem load_cases (object : ProgramObject) (format : UInt32) (binary : ProgramBinary) :
    (∃ log, object.load format binary = object.refuse log) ∨
      ∃ stages, object.load format binary = object.relink stages := by
  unfold ProgramObject.load
  split
  · exact Or.inl ⟨_, rfl⟩
  · split
    · exact Or.inl ⟨_, rfl⟩
    · exact Or.inr ⟨_, rfl⟩

/-- A program that is linked, or loaded, is refused or gets new texts; the answer is its new
status. -/
theorem fate_adjust {request : Request}
    (outcomes : ∀ object, (∃ log, change object = object.refuse log) ∨
      ∃ stages, change object = object.relink stages)
    (isLink : ∀ succeeded, linkOutcome? program (request, .status succeeded) =
      if id = program then some succeeded else none) :
    Fate program device.nextId
      (request, .status (linkStatus { device with
        programs := device.programs.adjust id change } id))
      (device.linkView? program)
      (linkView? { device with programs := device.programs.adjust id change } program) := by
  by_cases same : id = program
  · subst same
    simp only [linkStatus, linkView?, Registry.find?_adjust]
    cases device.programs.find? id with
    | none => exact .absent (by rw [isLink, if_pos rfl]; rfl)
    | some object =>
        simp only [Option.map_some, if_true, Option.getD_some]
        rcases outcomes object with ⟨log, refuses⟩ | ⟨stages, relinks⟩
        · rw [refuses]
          exact .refused (viewOf object) (by rw [isLink, if_pos rfl]; rfl)
        · rw [relinks]
          exact .relinked (viewOf object) stages (by rw [isLink, if_pos rfl]; rfl)
  · have sameView : linkView? { device with programs := device.programs.adjust id change } program =
        device.linkView? program := by
      simp only [linkView?, Registry.find?_adjust, if_neg (Ne.symm same)]
    rw [sameView]
    exact .same _ (by rw [isLink, if_neg same])

theorem linkView?_of_programs {final : Device} (sameSide : final.programSide = device.programSide) :
    final.linkView? program = device.linkView? program := by
  simp only [programSide, Prod.mk.injEq] at sameSide
  rw [linkView?, linkView?, sameSide.1]

end Fates

section Fate

variable {program : ProgramId} {next : UInt32} {exchange : Request × Answer}
  {before after : Option LinkView}

theorem Fate.isSome (fate : Fate program next exchange before after) (live : before.isSome)
    (kept : exchange.1 ≠ .deleteProgram program) : after.isSome := by
  cases fate with
  | same => exact live
  | made => rfl
  | released => exact absurd rfl kept
  | absent => exact live
  | refused => rfl
  | relinked => rfl

theorem Fate.live_or_made (fate : Fate program next exchange before after) (live : after.isSome) :
    before.isSome ∨ program = ⟨next⟩ ∧ exchange.2.madeNumber? = some next := by
  cases fate with
  | same => exact Or.inl live
  | made _ isNext isMade => exact Or.inr ⟨isNext, isMade⟩
  | released => cases live
  | absent => cases live
  | refused => exact Or.inl rfl
  | relinked => exact Or.inl rfl

/-- Only a program that is there can be linked. -/
theorem Fate.live_of_succeeds (fate : Fate program next exchange before after)
    (succeeds : linkOutcome? program exchange = some true) : before.isSome := by
  cases fate with
  | same _ quiet => rw [quiet] at succeeds; cases succeeds
  | made _ _ _ quiet => rw [quiet] at succeeds; cases succeeds
  | released => cases succeeds
  | absent fails => rw [fails] at succeeds; cases succeeds
  | refused => rfl
  | relinked => rfl

/-- The table of uniforms changes with the linked texts, and only with them. -/
theorem Fate.layout (fate : Fate program next exchange before after)
    (agrees : ∀ view, before = some view → view.layout = .ofStages view.stages) :
    ∀ view, after = some view → view.layout = .ofStages view.stages := by
  cases fate with
  | same => exact agrees
  | made => rintro _ ⟨⟩; rfl
  | released => exact nofun
  | absent => exact nofun
  | refused view => rintro _ ⟨⟩; exact agrees view rfl
  | relinked => rintro _ ⟨⟩; rfl

theorem Fate.status (fate : Fate program next exchange before after) {last : Option Bool}
    (agrees : ∀ view, before = some view → (view.linked = true ↔ last = some true))
    (isNew : program = ⟨next⟩ → last ≠ some true) :
    ∀ view, after = some view →
      (view.linked = true ↔ (linkOutcome? program exchange).or last = some true) := by
  cases fate with
  | same _ quiet => rw [quiet]; exact agrees
  | made _ isNext _ quiet =>
      rw [quiet]
      rintro _ ⟨⟩
      exact ⟨nofun, fun succeeded => absurd succeeded (isNew isNext)⟩
  | released => exact nofun
  | absent => exact nofun
  | refused view fails => rw [fails]; rintro _ ⟨⟩; simp
  | relinked view stages succeeds => rw [succeeds]; rintro _ ⟨⟩; simp

end Fate

theorem deleteProgram_state_of_absent {id : ProgramId} {device : Device}
    (absent : id ∉ device.programs.keys) : ((deleteProgram id).run device).state = device := by
  rw [deleteProgram, run_get_bind,
    if_neg (fun contained => absent (Registry.contains_iff_mem_keys.mp contained))]
  rfl

/-- A request that leaves what is linked as it was has no other effect on it. -/
theorem fate_of_sameView {program : ProgramId} {device : Device} {exchange : Request × Answer}
    (after : Device) (sameView : after.linkView? program = device.linkView? program)
    (quiet : linkOutcome? program exchange = none) :
    Fate program device.nextId exchange (device.linkView? program) (after.linkView? program) := by
  rw [sameView]
  exact .same _ quiet

theorem fate_perform (program : ProgramId) (device : Device) (request : Request) :
    Fate program device.nextId (request, (request.perform.run device).value)
      (device.linkView? program) ((request.perform.run device).state.linkView? program) := by
  cases request with
  | createStage stage => exact .same _ rfl
  | compileStage id source =>
      exact fate_of_sameView _ (linkView?_of_programs (preserves_compileStage id source device)) rfl
  | deleteStage id =>
      exact fate_of_sameView _ (linkView?_of_programs (preserves_deleteStage id device)) rfl
  | createProgram =>
      change Fate program device.nextId _ _ ((withProgram device).linkView? program)
      by_cases isNext : program = ⟨device.nextId⟩
      · have isMade : (withProgram device).linkView? program = some ⟨[], false, {}⟩ := by
          simp only [linkView?, withProgram, Registry.find?_insert, if_pos isNext]
          rfl
        rw [isMade]
        exact .made _ isNext rfl rfl
      · refine fate_of_sameView _ ?_ rfl
        simp only [linkView?, withProgram, Registry.find?_insert, if_neg isNext]
  | deleteProgram id =>
      rw [Request.perform, run_bind, run_pure]
      by_cases present : id ∈ device.programs.keys
      · rw [deleteProgram_state present]
        by_cases same : program = id
        · subst same
          have isReleased : linkView? { device with
              programs := device.programs.erase program
              current := if device.current = some program then none else device.current } program =
                none := by
            simp only [linkView?, Registry.find?_erase, if_pos]
            rfl
          rw [isReleased]
          exact .released _ _
        · refine fate_of_sameView _ ?_ rfl
          simp only [linkView?, Registry.find?_erase, if_neg same]
      · rw [deleteProgram_state_of_absent present]
        exact .same _ rfl
  | attachStage id stage =>
      refine fate_of_sameView ((attachStage id stage).run device).state ?_ rfl
      unfold attachStage
      rw [run_get_bind]
      split
      · exact linkView?_adjust fun _ => rfl
      · rfl
  | bindAttribute id location name =>
      exact fate_of_sameView _ (linkView?_adjust fun _ => rfl) rfl
  | bindFragmentData id location name =>
      exact fate_of_sameView _ (linkView?_adjust fun _ => rfl) rfl
  | linkProgram id => exact fate_adjust (fun object => link_cases object _) fun _ => rfl
  | loadBinary id binary => exact fate_adjust (fun object => load_cases object _ binary) fun _ => rfl
  | useProgram selected =>
      refine fate_of_sameView ((useProgram selected).run device).state ?_ rfl
      unfold useProgram
      split
      · rfl
      · rw [run_get_bind]
        split <;> rfl
  | setUniform location value =>
      refine fate_of_sameView ((setUniform location value).run device).state ?_ rfl
      unfold setUniform
      rw [run_get_bind]
      split
      · rfl
      · exact linkView?_adjust fun _ => rfl
  | bindTexture unit texture => exact .same _ rfl
  | setFailLinks fail => exact .same _ rfl

/-- How the current program of a device comes about. -/
theorem current_perform {device : Device} {request : Request} {program : ProgramId}
    (isCurrent : (request.perform.run device).state.current = some program) :
    (device.current = some program ∧
        (request = .deleteProgram program → program ∉ device.programs.keys)) ∨
      request = .useProgram (some program) ∧ device.linkStatus program := by
  have kept : ∀ {request : Request}, device.current = some program →
      request ≠ .deleteProgram program →
      (device.current = some program ∧
          (request = .deleteProgram program → program ∉ device.programs.keys)) ∨
        request = .useProgram (some program) ∧ device.linkStatus program :=
    fun unchanged notDeleted => Or.inl ⟨unchanged, fun deleted => absurd deleted notDeleted⟩
  cases request with
  | createStage stage => exact kept isCurrent (by simp)
  | compileStage id source =>
      have same := preserves_compileStage id source device
      simp only [programSide, Prod.mk.injEq] at same
      exact kept (same.2.1 ▸ isCurrent) (by simp)
  | deleteStage id =>
      have same := preserves_deleteStage id device
      simp only [programSide, Prod.mk.injEq] at same
      exact kept (same.2.1 ▸ isCurrent) (by simp)
  | createProgram => exact kept isCurrent (by simp)
  | deleteProgram id =>
      rw [Request.perform, run_bind, run_pure] at isCurrent
      by_cases present : id ∈ device.programs.keys
      · rw [deleteProgram_state present] at isCurrent
        dsimp only at isCurrent
        split at isCurrent
        · cases isCurrent
        · next notCurrent =>
            refine Or.inl ⟨isCurrent, ?_⟩
            rintro ⟨⟩
            exact absurd isCurrent notCurrent
      · rw [deleteProgram_state_of_absent present] at isCurrent
        refine Or.inl ⟨isCurrent, ?_⟩
        rintro ⟨⟩
        exact present
  | attachStage id stage =>
      have same := preserves_attachStage id stage device
      simp only [outside, Prod.mk.injEq] at same
      exact kept (same.1.2.2.1 ▸ isCurrent) (by simp)
  | bindAttribute id location name => exact kept isCurrent (by simp)
  | bindFragmentData id location name => exact kept isCurrent (by simp)
  | linkProgram id => exact kept isCurrent (by simp)
  | loadBinary id binary => exact kept isCurrent (by simp)
  | useProgram selected =>
      rw [Request.perform, run_bind, run_pure] at isCurrent
      unfold useProgram at isCurrent
      split at isCurrent
      · cases isCurrent
      · rw [run_get_bind] at isCurrent
        split at isCurrent
        · next linked =>
            cases isCurrent
            exact Or.inr ⟨rfl, linked⟩
        · exact kept isCurrent (by simp)
  | setUniform location value =>
      have same := preserves_setUniform location value device
      simp only [Prod.mk.injEq] at same
      exact kept (same.2 ▸ isCurrent) (by simp)
  | bindTexture unit texture => exact kept isCurrent (by simp)
  | setFailLinks fail => exact kept isCurrent (by simp)

/-- Only requests for new objects take a number, and they answer with it. -/
theorem nextId_perform (device : Device) (request : Request) :
    ((request.perform.run device).state.nextId, (request.perform.run device).value.madeNumber?) =
      if request.creates then (device.nextId + 1, some device.nextId) else (device.nextId, none) := by
  cases request with
  | compileStage id source =>
      have same := preserves_compileStage_keys id source device
      rw [Prod.mk.injEq] at same
      exact Prod.ext same.2 rfl
  | deleteStage id => exact Prod.ext (nextId_deleteStage id device) rfl
  | deleteProgram id =>
      rw [Request.perform, run_bind, run_pure]
      by_cases present : id ∈ device.programs.keys
      · rw [deleteProgram_state present]
        rfl
      · rw [deleteProgram_state_of_absent present]
        rfl
  | attachStage id stage =>
      have same := preserves_attachStage id stage device
      simp only [stageSide, Prod.mk.injEq] at same
      exact Prod.ext same.2.2 rfl
  | useProgram selected =>
      have same := preserves_useProgram selected device
      simp only [linkage, Prod.mk.injEq] at same
      exact Prod.ext same.2.2.2.1 rfl
  | setUniform location value =>
      have same := preserves_setUniform location value device
      simp only [linkage, Prod.mk.injEq] at same
      exact Prod.ext same.1.2.2.2.1 rfl
  | _ => rfl

theorem uploads_perform {device : Device} {request : Request} {upload : Upload}
    (recorded : upload ∈ (request.perform.run device).state.uploads) :
    upload ∈ device.uploads ∨
      request = .setUniform upload.location upload.value ∧
        device.current = some upload.program := by
  cases request with
  | compileStage id source =>
      have same := preserves_compileStage id source device
      simp only [programSide, Prod.mk.injEq] at same
      exact Or.inl (same.2.2.2 ▸ recorded)
  | deleteStage id =>
      have same := preserves_deleteStage id device
      simp only [programSide, Prod.mk.injEq] at same
      exact Or.inl (same.2.2.2 ▸ recorded)
  | deleteProgram id =>
      rw [Request.perform, run_bind, run_pure] at recorded
      by_cases present : id ∈ device.programs.keys
      · rw [deleteProgram_state present] at recorded
        exact Or.inl recorded
      · rw [deleteProgram_state_of_absent present] at recorded
        exact Or.inl recorded
  | attachStage id stage =>
      have same := preserves_attachStage id stage device
      simp only [outside, Prod.mk.injEq] at same
      exact Or.inl (same.1.2.2.2.2 ▸ recorded)
  | useProgram selected =>
      rw [Request.perform, run_bind, run_pure] at recorded
      unfold useProgram at recorded
      split at recorded
      · exact Or.inl recorded
      · rw [run_get_bind] at recorded
        split at recorded <;> exact Or.inl recorded
  | setUniform location value =>
      rw [Request.perform, run_bind, run_pure] at recorded
      unfold setUniform at recorded
      rw [run_get_bind] at recorded
      split at recorded
      · exact Or.inl recorded
      · next program isCurrent =>
          have recorded : upload ∈ device.uploads ++ [⟨program, location, value⟩] := recorded
          rcases List.mem_append.mp recorded with early | isNew
          · exact Or.inl early
          · rw [List.mem_singleton] at isNew
            subst isNew
            exact Or.inr ⟨rfl, isCurrent⟩
  | _ => exact Or.inl recorded

section Histories

variable {device : Device} {history : List (Request × Answer)} {program : ProgramId}

theorem after_concat (device : Device) (requests : List Request) (request : Request) :
    device.after (requests ++ [request]) =
      (request.perform.run (device.after requests)).state := by
  rw [after, List.foldl_append]
  rfl

theorem historyFrom_concat (device : Device) (requests : List Request) (request : Request) :
    device.historyFrom (requests ++ [request]) =
      device.historyFrom requests ++
        [(request, (request.perform.run (device.after requests)).value)] := by
  induction requests generalizing device with
  | nil => rfl
  | cons first rest ih => rw [List.cons_append, historyFrom, ih]; rfl

theorem madeNumbers_concat (history : List (Request × Answer)) (exchange : Request × Answer) :
    madeNumbers (history ++ [exchange]) = madeNumbers history ++ exchange.2.madeNumber?.toList := by
  rw [madeNumbers, List.filterMap_append, madeNumbers]
  cases isMade : exchange.2.madeNumber? <;> simp [isMade]

theorem lastOutcome?_concat (history : List (Request × Answer)) (exchange : Request × Answer)
    (program : ProgramId) :
    lastOutcome? (history ++ [exchange]) program =
      (linkOutcome? program exchange).or (lastOutcome? history program) := by
  rw [lastOutcome?, List.filterMap_append]
  cases outcome : linkOutcome? program exchange with
  | none => simp [outcome, lastOutcome?]
  | some succeeded => simp [outcome]

/-- The bookkeeping of a device is right after the requests of a history. -/
structure Sound (history : List (Request × Answer)) (device : Device) : Prop where
  current_live : ∀ program, device.current = some program → (device.linkView? program).isSome
  numbered : madeNumbers history =
    (List.range (madeNumbers history).length).map fun index => UInt32.ofNat (index + 1)
  next : device.nextId = UInt32.ofNat ((madeNumbers history).length + 1)
  live_made : ∀ program, (device.linkView? program).isSome → program.number ∈ madeNumbers history
  layout : ∀ program view, device.linkView? program = some view →
    view.layout = .ofStages view.stages
  status : ∀ program view, device.linkView? program = some view →
    (view.linked = true ↔ lastOutcome? history program = some true)
  unmade : ∀ program, program.number ∉ madeNumbers history →
    lastOutcome? history program ≠ some true

theorem sound_fresh (caps : Capabilities) (format : UInt32) (failLinks : Bool) :
    Sound [] (fresh caps format failLinks) where
  current_live := nofun
  numbered := rfl
  next := rfl
  live_made := nofun
  layout := nofun
  status := nofun
  unmade _ _ := nofun

theorem ofNat_succ_injective {first second : Nat} (small : first + 1 < UInt32.size)
    (small' : second + 1 < UInt32.size)
    (same : UInt32.ofNat (first + 1) = UInt32.ofNat (second + 1)) : first = second := by
  have values := congrArg UInt32.toNat same
  rw [UInt32.toNat_ofNat_of_lt' small, UInt32.toNat_ofNat_of_lt' small'] at values
  omega

theorem Sound.nextId_notMem (sound : Sound history device)
    (few : (madeNumbers history).length < UInt32.size - 1) :
    device.nextId ∉ madeNumbers history := by
  rw [sound.numbered, sound.next]
  intro member
  obtain ⟨index, inRange, same⟩ := List.mem_map.mp member
  rw [List.mem_range] at inRange
  have equal := ofNat_succ_injective (by omega) (by omega) same
  omega

theorem sound_perform (sound : Sound history device)
    (few : (madeNumbers history).length < UInt32.size - 1) (request : Request) :
    Sound (history ++ [(request, (request.perform.run device).value)])
      (request.perform.run device).state := by
  have numbers := nextId_perform device request
  have fates := fun program => fate_perform program device request
  have currents := fun program => @current_perform device request program
  generalize (request.perform.run device).state = final at numbers fates currents ⊢
  generalize (request.perform.run device).value = answer at numbers fates ⊢
  have made := madeNumbers_concat history (request, answer)
  have isMade : answer.madeNumber? = if request.creates then some device.nextId else none := by
    have second := congrArg Prod.snd numbers
    split at second <;> simp_all
  constructor
  case current_live =>
    intro program isCurrent
    rcases currents program isCurrent with ⟨wasCurrent, notReleased⟩ | ⟨rfl, linked⟩
    · have live := sound.current_live program wasCurrent
      apply (fates program).isSome live
      rintro rfl
      exact notReleased rfl (mem_keys_iff_isSome_linkView?.mpr live)
    · exact (fates program).isSome (isSome_linkView?_of_linkStatus linked) nofun
  case numbered =>
    rw [made, isMade]
    split
    · rw [Option.toList_some, List.length_append, List.length_singleton, List.range_succ,
        List.map_append, ← sound.numbered, sound.next]
      rfl
    · simpa using sound.numbered
  case next =>
    have first := congrArg Prod.fst numbers
    rw [made, isMade]
    split at first
    · next creates =>
        have isNext : final.nextId = device.nextId + 1 := first
        rw [isNext, if_pos creates, sound.next, Option.toList_some, List.length_append,
          List.length_singleton]
        exact (UInt32.ofNat_add _ 1).symm
    · next idle =>
        have isNext : final.nextId = device.nextId := first
        rw [isNext, if_neg idle, sound.next, Option.toList_none, List.append_nil]
  case live_made =>
    intro program live
    rw [made]
    rcases (fates program).live_or_made live with wasLive | ⟨rfl, isNew⟩
    · exact List.mem_append_left _ (sound.live_made program wasLive)
    · rw [isNew]
      exact List.mem_append_right _ List.mem_cons_self
  case layout => exact fun program => (fates program).layout (sound.layout program)
  case status =>
    intro program
    rw [lastOutcome?_concat]
    apply (fates program).status (sound.status program)
    rintro rfl
    exact sound.unmade _ (sound.nextId_notMem few)
  case unmade =>
    intro program notMade
    rw [made] at notMade
    have wasNotMade : program.number ∉ madeNumbers history :=
      fun member => notMade (List.mem_append_left _ member)
    rw [lastOutcome?_concat]
    intro succeeds
    cases outcome : linkOutcome? program (request, answer) with
    | none =>
        rw [outcome] at succeeds
        exact sound.unmade program wasNotMade succeeds
    | some succeeded =>
        rw [outcome] at succeeds
        cases succeeds
        exact wasNotMade (sound.live_made program ((fates program).live_of_succeeds outcome))

theorem length_madeNumbers (device : Device) (requests : List Request) :
    (madeNumbers (device.historyFrom requests)).length = requests.countP Request.creates := by
  induction requests using List.reverseRecOn with
  | nil => rfl
  | append_singleton requests request ih =>
      have isMade := congrArg Prod.snd (nextId_perform (device.after requests) request)
      rw [historyFrom_concat, madeNumbers_concat, List.length_append, ih, List.countP_append]
      split at isMade
      · next creates => simp_all
      · next idle => simp_all

theorem sound_after {device : Device} (start : Sound [] device) (requests : List Request)
    (few : requests.countP Request.creates < UInt32.size - 1) :
    Sound (device.historyFrom requests) (device.after requests) := by
  induction requests using List.reverseRecOn with
  | nil => exact start
  | append_singleton requests request ih =>
      rw [List.countP_append] at few
      rw [historyFrom_concat, after_concat]
      apply sound_perform (ih (by omega))
      rw [length_madeNumbers]
      omega

/-- A request made the program current when it was there and linked, and it has been current
since then. -/
def MadeCurrent (device : Device) (requests : List Request) (program : ProgramId) : Prop :=
  ∃ before between, requests = before ++ .useProgram (some program) :: between ∧
    program ∈ (device.after before).programs.keys ∧ (device.after before).linkStatus program ∧
    ∀ early, early <+: between →
      (device.after (before ++ .useProgram (some program) :: early)).current = some program

theorem madeCurrent_of_current {device : Device} (start : device.current = none)
    {requests : List Request} {program : ProgramId}
    (isCurrent : (device.after requests).current = some program) :
    device.MadeCurrent requests program := by
  induction requests using List.reverseRecOn with
  | nil =>
      rw [after, List.foldl_nil, start] at isCurrent
      cases isCurrent
  | append_singleton requests request ih =>
      have step := isCurrent
      rw [after_concat] at step
      rcases current_perform step with ⟨wasCurrent, -⟩ | ⟨rfl, linked⟩
      · obtain ⟨before, between, rfl, live, linked, kept⟩ := ih wasCurrent
        refine ⟨before, between ++ [request], by simp, live, linked, ?_⟩
        intro early isPrefix
        rcases List.prefix_concat_iff.mp isPrefix with rfl | shorter
        · simpa using isCurrent
        · exact kept early shorter
      · refine ⟨requests, [], rfl, ?_, linked, ?_⟩
        · exact mem_keys_iff_isSome_linkView?.mpr (isSome_linkView?_of_linkStatus linked)
        · intro early isPrefix
          rw [List.prefix_nil.mp isPrefix]
          exact isCurrent

/-- Every upload was asked for while a program was current that had been made so. -/
theorem madeCurrent_of_upload {device : Device} (start : device.current = none)
    (noUploads : device.uploads = []) {requests : List Request} {upload : Upload}
    (recorded : upload ∈ (device.after requests).uploads) :
    ∃ before behind, requests = before ++ .setUniform upload.location upload.value :: behind ∧
      device.MadeCurrent before upload.program := by
  induction requests using List.reverseRecOn with
  | nil =>
      rw [after, List.foldl_nil, noUploads] at recorded
      cases recorded
  | append_singleton requests request ih =>
      rw [after_concat] at recorded
      rcases uploads_perform recorded with early | ⟨rfl, isCurrent⟩
      · obtain ⟨before, behind, rfl, madeCurrent⟩ := ih early
        exact ⟨before, behind ++ [request], by simp, madeCurrent⟩
      · exact ⟨requests, [], rfl, madeCurrent_of_current start isCurrent⟩

theorem Sound.nodup (sound : Sound history device)
    (few : (madeNumbers history).length < UInt32.size - 1) : (madeNumbers history).Nodup := by
  rw [sound.numbered]
  apply List.Nodup.map_on _ List.nodup_range
  intro first inRange second inRange' same
  rw [List.mem_range] at inRange inRange'
  exact ofNat_succ_injective (by omega) (by omega) same

/-- Whatever is asked of a new device: its current program is there; all objects that were made
have different numbers; the uniforms and locations of every program are those of the texts it was
linked from; a program's status is that of the last link or load; and every upload names a program
that was there and linked when it was made current. -/
theorem invariants_after (caps : Capabilities) (format : UInt32) (failLinks : Bool)
    (requests : List Request) (few : requests.countP Request.creates < UInt32.size - 1) :
    let start := fresh caps format failLinks
    let device := start.after requests
    (∀ program, device.current = some program → program ∈ device.programs.keys) ∧
    (madeNumbers (start.historyFrom requests)).Nodup ∧
    (∀ program object, device.programs.find? program = some object →
      device.activeUniforms program = (UniformLayout.ofStages object.linkedStages).uniforms ∧
        ∀ name, device.uniformLocation program name =
          (UniformLayout.ofStages object.linkedStages).location? name) ∧
    (∀ program, device.linkStatus program = true ↔
      program ∈ device.programs.keys ∧
        lastOutcome? (start.historyFrom requests) program = some true) ∧
    ∀ upload ∈ device.uploads, ∃ before behind,
      requests = before ++ .setUniform upload.location upload.value :: behind ∧
        start.MadeCurrent before upload.program := by
  intro start device
  have sound : Sound (start.historyFrom requests) device :=
    sound_after (sound_fresh caps format failLinks) requests few
  rw [← length_madeNumbers start] at few
  refine ⟨?_, sound.nodup few, ?_, ?_, ?_⟩
  · intro program isCurrent
    exact mem_keys_iff_isSome_linkView?.mpr (sound.current_live program isCurrent)
  · intro program object found
    have isView : device.linkView? program = some (viewOf object) := by
      rw [linkView?, found]
      rfl
    have agrees : object.layout = .ofStages object.linkedStages :=
      sound.layout program (viewOf object) isView
    rw [activeUniforms, found, ← agrees]
    refine ⟨rfl, fun name => ?_⟩
    rw [uniformLocation, found]
    rfl
  · intro program
    rw [mem_keys_iff_isSome_linkView?, linkStatus_eq]
    cases isView : device.linkView? program with
    | none => simp
    | some view => simpa using sound.status program view isView
  · intro upload recorded
    exact madeCurrent_of_upload rfl rfl recorded

/-- A program is linked and made current, then a second link fails, and a value is uploaded. -/
def relinkRequests : List Request :=
  [.createProgram, .createStage .vertex, .compileStage ⟨2⟩ "uniform vec2 a[2];",
    .attachStage ⟨1⟩ ⟨2⟩, .linkProgram ⟨1⟩, .useProgram (some ⟨1⟩), .setFailLinks true,
    .linkProgram ⟨1⟩, .setUniform ⟨1⟩ (.int 2 [1, 2]), .createProgram]

theorem invariants_after_relinkRequests :
    relinkRequests.countP Request.creates < UInt32.size - 1 ∧
    (madeNumbers ((fresh .gl33 7 false).historyFrom relinkRequests)).Nodup ∧
    ((fresh .gl33 7 false).after relinkRequests).uniformLocation ⟨1⟩ "a[1]" = some ⟨1⟩ ∧
    ((fresh .gl33 7 false).after relinkRequests).linkStatus ⟨1⟩ = false ∧
    ∃ before behind, relinkRequests = before ++ .setUniform ⟨1⟩ (.int 2 [1, 2]) :: behind ∧
      (fresh .gl33 7 false).MadeCurrent before ⟨1⟩ := by
  have few : relinkRequests.countP Request.creates < UInt32.size - 1 := by decide
  obtain ⟨-, distinct, tables, status, uploads⟩ :=
    invariants_after .gl33 7 false relinkRequests few
  refine ⟨few, distinct, ?_, ?_, ?_⟩
  · have linkedTexts : (((fresh .gl33 7 false).after relinkRequests).programs.find? ⟨1⟩).map
        (·.linkedStages) = some [(.vertex, "uniform vec2 a[2];")] := by decide +kernel
    obtain ⟨object, found, isText⟩ := Option.map_eq_some_iff.mp linkedTexts
    rw [(tables ⟨1⟩ object found).2, isText]
    decide +kernel
  · rw [← Bool.not_eq_true, status]
    rintro ⟨-, succeeded⟩
    have failed : lastOutcome? ((fresh .gl33 7 false).historyFrom relinkRequests) ⟨1⟩ =
        some false := by decide +kernel
    rw [failed] at succeeded
    cases succeeded
  · exact uploads ⟨⟨1⟩, ⟨1⟩, .int 2 [1, 2]⟩ (by decide +kernel)

end Histories

end ShaderPipeline.Software.Device
