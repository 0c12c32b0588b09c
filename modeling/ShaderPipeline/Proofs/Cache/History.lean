import ShaderPipeline.Proofs.Cache.Store
import ShaderPipeline.Proofs.Files.Persistence

/-!
# The cache over any sequence of calls

The calls to a cache are kept with their answers.  Of those that changed the file
of a program only the last one matters: its entry is handed out, under its key and
under no other, until the next such call.  Calls that fail change no file.
-/

namespace ShaderPipeline.ProgramCache

open Action FileTree FileLocation

inductive Call where
  | load (name : String) (expected : UInt32)
  | store (name : String) (key : UInt32) (binary : ProgramBinary)
  | remove (name : String)
deriving DecidableEq

inductive Answer where
  | loaded (result : Except CacheError (Option ProgramBinary))
  | stored (result : Except CacheError String)
  | removed (result : Except CacheError Bool)
deriving DecidableEq

def Answer.failure? : Answer → Option CacheError
  | .loaded (.error failure) => some failure
  | .stored (.error failure) => some failure
  | .removed (.error failure) => some failure
  | _ => none

def Call.perform (settings : CacheSettings) : Call → Action FileTree Answer
  | .load name expected => return .loaded (← ProgramCache.load settings name expected)
  | .store name key binary => return .stored (← ProgramCache.store settings name key binary)
  | .remove name => return .removed (← ProgramCache.remove settings name)

/-- Makes calls one after another.  The answer is the list of them with their answers. -/
def performAll (settings : CacheSettings) : List Call → Action FileTree (List (Call × Answer))
  | [] => return []
  | call :: rest => do
      let answer ← call.perform settings
      return (call, answer) :: (← performAll settings rest)

/-- The place of the file that a call changed, with the entry that it left there. -/
def touch? (settings : CacheSettings) : Call × Answer → Option (FileLocation × Option CacheEntry)
  | (.store name key binary, .stored (.ok _)) =>
      (placeFor? settings name).map fun place => (place, some ⟨key, binary⟩)
  | (.remove name, .removed (.ok true)) =>
      (placeFor? settings name).map fun place => (place, none)
  | _ => none

/-- None of the calls changed the file at a place. -/
def Untouched (settings : CacheSettings) (history : List (Call × Answer)) (place : FileLocation) :
    Prop :=
  ∀ call ∈ history, ∀ entry, touch? settings call ≠ some (place, entry)

/-- The last call that changed the file at a place left `entry` there. -/
def LastTouch (settings : CacheSettings) (history : List (Call × Answer)) (place : FileLocation)
    (entry : Option CacheEntry) : Prop :=
  ∃ before call behind, history = before ++ call :: behind ∧
    touch? settings call = some (place, entry) ∧ Untouched settings behind place

section Calls

variable {settings : CacheSettings} {name path : String} {tree : FileTree}

theorem binaryUnder_encode (path : String) (expected : UInt32) (entry : CacheEntry) :
    binaryUnder path expected entry.encode =
      if entry.key = expected then .ok entry.binary
      else .error (.keyMismatch path entry.key expected) := by
  rw [binaryUnder, CacheEntry.decode?_encode]

theorem state_load (settings : CacheSettings) (name : String) (expected : UInt32)
    (tree : FileTree) : ((load settings name expected).run tree).state = tree := by
  unfold load
  split
  · rfl
  · rw [run_get_bind]
    split
    · rfl
    · rfl
    · split <;> rfl

theorem decode?_of_truncated {bytes : List UInt8} {expected : UInt32} {file : String}
    {length : Nat} (fails : binaryUnder path expected bytes = .error (.truncated file length)) :
    CacheEntry.decode? bytes = none := by
  unfold binaryUnder at fails
  split at fails
  · next short => exact short
  · split at fails <;> cases fails

theorem load_eq_truncated {expected : UInt32} {file : String} {length : Nat}
    (fails : ((load settings name expected).run tree).value = .error (.truncated file length)) :
    ∃ place bytes, tree.fileAt? place = some bytes ∧ CacheEntry.decode? bytes = none := by
  unfold load at fails
  split at fails
  · next failure noPath =>
      unfold pathFor at noPath
      split at noPath <;> cases noPath
      cases fails
  · next path isPath =>
      rw [run_get_bind] at fails
      split at fails
      · cases fails
      · cases fails
      · next bytes reads =>
          split at fails
          · next short =>
              cases fails
              exact ⟨_, bytes, fileAt?_of_read reads, decode?_of_truncated short⟩
          · cases fails

theorem extends_makeParent (path : String) (tree : FileTree) :
    Extends tree ((makeParent path).run tree).state := by
  unfold makeParent
  split
  · exact .refl tree
  · next directory isParent =>
      have grows := extends_makeDirectories tree directory
      rw [run_get_bind]
      generalize tree.makeDirectories directory = result at grows
      obtain ⟨final, failure⟩ := result
      cases failure with
      | none => exact grows
      | some cause => exact grows

/-- A store makes directories, and if it succeeds it writes its entry after that. -/
theorem store_cases (settings : CacheSettings) (name : String) (key : UInt32)
    (binary : ProgramBinary) (tree : FileTree) :
    ∃ made, Extends tree made ∧ NoNewFiles tree made ∧
      ((∃ failure, ((store settings name key binary).run tree).value = .error failure) ∧
          ((store settings name key binary).run tree).state = made ∨
        ∃ path, pathFor settings name = .ok path ∧
          ((store settings name key binary).run tree).value = .ok path ∧
          made.write path (CacheEntry.encode ⟨key, binary⟩) =
            .ok ((store settings name key binary).run tree).state) := by
  unfold store
  split
  · next failure noPath => exact ⟨tree, .refl tree, .refl tree, Or.inl ⟨⟨failure, rfl⟩, rfl⟩⟩
  · next path isPath =>
      have noNew := noNewFiles_makeParent path tree
      have grows := extends_makeParent path tree
      rw [run_bind]
      generalize (makeParent path).run tree = made at noNew grows
      obtain ⟨result, state, events⟩ := made
      refine ⟨state, grows, noNew, ?_⟩
      cases result with
      | error failure => exact Or.inl ⟨⟨failure, rfl⟩, rfl⟩
      | ok done =>
          simp only [run_get_bind]
          split
          · next cause fails => exact Or.inl ⟨⟨_, rfl⟩, rfl⟩
          · next final writes => exact Or.inr ⟨path, isPath, rfl, writes⟩

/-- A removal takes the program's file away, or it changes nothing. -/
theorem remove_cases (settings : CacheSettings) (name : String) (tree : FileTree) :
    (((remove settings name).run tree).value ≠ .ok true ∧
        ((remove settings name).run tree).state = tree) ∨
      ∃ path, pathFor settings name = .ok path ∧
        ((remove settings name).run tree).value = .ok true ∧
        tree.remove path = .ok ((remove settings name).run tree).state := by
  unfold remove
  split
  · exact Or.inl ⟨by simp, rfl⟩
  · next path isPath =>
      rw [run_get_bind]
      split
      · exact Or.inl ⟨by simp, rfl⟩
      · exact Or.inl ⟨by simp, rfl⟩
      · next final removes => exact Or.inr ⟨path, isPath, rfl, removes⟩

/-- What one call does to the files: only the one that it touched changes. -/
theorem fileAt?_perform (settings : CacheSettings) (call : Call) (tree : FileTree)
    (location : FileLocation) :
    ((call.perform settings).run tree).state.fileAt? location =
      match touch? settings (call, ((call.perform settings).run tree).value) with
      | some (place, entry) =>
          if location = place then entry.map CacheEntry.encode else tree.fileAt? location
      | none => tree.fileAt? location := by
  cases call with
  | load name expected =>
      rw [Call.perform, run_bind, run_pure, state_load]
      rfl
  | store name key binary =>
      obtain ⟨made, grows, noNew, outcome⟩ := store_cases settings name key binary tree
      have sameFiles := fileAt?_of_extends grows noNew location
      rw [Call.perform, run_bind, run_pure]
      generalize (store settings name key binary).run tree = done at outcome
      obtain ⟨result, state, events⟩ := done
      rcases outcome with ⟨⟨failure, fails⟩, isMade⟩ | ⟨path, isPath, succeeds, writes⟩
      · dsimp only at fails isMade ⊢
        rw [fails, isMade, sameFiles]
        rfl
      · dsimp only at succeeds writes ⊢
        obtain ⟨-, notDirectory, rfl⟩ := of_write writes
        rw [succeeds, fileAt?_put_file notDirectory, sameFiles]
        simp only [touch?, pathFor_eq_ok isPath, Option.map_some]
  | remove name =>
      rw [Call.perform, run_bind, run_pure]
      have outcome := remove_cases settings name tree
      generalize (remove settings name).run tree = done at outcome
      obtain ⟨result, state, events⟩ := done
      rcases outcome with ⟨notTrue, rfl⟩ | ⟨path, isPath, succeeds, removes⟩
      · dsimp only at notTrue ⊢
        unfold touch?
        split <;> simp_all
      · dsimp only at succeeds removes ⊢
        obtain ⟨notDirectory, rfl⟩ := of_remove removes
        rw [succeeds, fileAt?_erase notDirectory]
        simp only [touch?, pathFor_eq_ok isPath, Option.map_some, Option.map_none]

theorem keepsDirectories_perform (settings : CacheSettings) (call : Call) (tree : FileTree) :
    KeepsDirectories tree ((call.perform settings).run tree).state := by
  cases call with
  | load name expected =>
      rw [Call.perform, run_bind, run_pure, state_load]
      exact .refl tree
  | store name key binary =>
      obtain ⟨made, grows, -, outcome⟩ := store_cases settings name key binary tree
      rw [Call.perform, run_bind, run_pure]
      rcases outcome with ⟨-, isMade⟩ | ⟨path, -, -, writes⟩
      · rw [isMade]
        exact grows.keepsDirectories
      · obtain ⟨-, notDirectory, isPut⟩ := of_write writes
        rw [isPut]
        exact grows.keepsDirectories.trans (keepsDirectories_put_file notDirectory _)
  | remove name =>
      rw [Call.perform, run_bind, run_pure]
      rcases remove_cases settings name tree with ⟨-, same⟩ | ⟨path, -, -, removes⟩
      · rw [same]
        exact .refl tree
      · obtain ⟨notDirectory, isErased⟩ := of_remove removes
        rw [isErased]
        exact keepsDirectories_erase notDirectory

end Calls

section Histories

variable {settings : CacheSettings}

theorem keepsDirectories_performAll (settings : CacheSettings) (calls : List Call)
    (tree : FileTree) :
    KeepsDirectories tree ((performAll settings calls).run tree).state := by
  induction calls generalizing tree with
  | nil => exact .refl tree
  | cons call rest ih => exact (keepsDirectories_perform settings call tree).trans (ih _)

/-- A file holds what the last call that touched it left there. -/
theorem fileAt?_performAll (settings : CacheSettings) (calls : List Call) (tree : FileTree)
    (place : FileLocation) :
    (∃ entry, LastTouch settings ((performAll settings calls).run tree).value place entry ∧
        ((performAll settings calls).run tree).state.fileAt? place =
          entry.map CacheEntry.encode) ∨
      Untouched settings ((performAll settings calls).run tree).value place ∧
        ((performAll settings calls).run tree).state.fileAt? place = tree.fileAt? place := by
  induction calls generalizing tree with
  | nil => exact Or.inr ⟨by simp [Untouched, performAll], rfl⟩
  | cons call rest ih =>
      have here := fileAt?_perform settings call tree place
      rw [performAll, run_bind, run_bind, run_pure]
      generalize (call.perform settings).run tree = done at here
      obtain ⟨answer, state, events⟩ := done
      dsimp only at here ⊢
      rcases ih state with ⟨entry, ⟨before, last, behind, isSplit, touches, untouched⟩, found⟩ |
        ⟨untouched, found⟩
      · refine Or.inl ⟨entry, ⟨(call, answer) :: before, last, behind, ?_, touches, untouched⟩, found⟩
        rw [isSplit]
        rfl
      · rw [found, here]
        by_cases touches : ∃ entry, touch? settings (call, answer) = some (place, entry)
        · obtain ⟨entry, touches⟩ := touches
          refine Or.inl ⟨entry, ⟨[], (call, answer), _, rfl, touches, untouched⟩, ?_⟩
          rw [touches]
          exact if_pos rfl
        · refine Or.inr ⟨?_, ?_⟩
          · intro other member entry
            rcases List.mem_cons.mp member with rfl | later
            · exact fun isTouch => touches ⟨entry, isTouch⟩
            · exact untouched other later entry
          · split
            · next other entry isTouch =>
                refine if_neg ?_
                rintro rfl
                exact touches ⟨entry, isTouch⟩
            · rfl

/-- A call of a history was made in some tree, and the calls behind it went on from there. -/
theorem performAll_split {calls : List Call} {tree : FileTree} {before behind : List (Call × Answer)}
    {call : Call} {answer : Answer}
    (isHistory : ((performAll settings calls).run tree).value = before ++ (call, answer) :: behind) :
    ∃ middle rest, ((call.perform settings).run middle).value = answer ∧
      ((performAll settings rest).run ((call.perform settings).run middle).state).value = behind ∧
      ((performAll settings rest).run ((call.perform settings).run middle).state).state =
        ((performAll settings calls).run tree).state := by
  induction before generalizing calls tree with
  | nil =>
      cases calls with
      | nil => cases isHistory
      | cons first rest =>
          obtain ⟨isFirst, isBehind⟩ := List.cons.inj isHistory
          obtain ⟨rfl, isAnswer⟩ := Prod.mk.inj isFirst
          exact ⟨tree, rest, isAnswer, isBehind, rfl⟩
  | cons earlier before ih =>
      cases calls with
      | nil => cases isHistory
      | cons first rest =>
          obtain ⟨-, isRest⟩ := List.cons.inj isHistory
          exact @ih rest _ isRest

/-- A stored file is found again, as it was stored, until a later call touches it. -/
theorem read_after_store {calls : List Call} {tree : FileTree}
    {before behind : List (Call × Answer)} {name path : String} {key : UInt32}
    {binary : ProgramBinary}
    (isHistory : ((performAll settings calls).run tree).value =
      before ++ (.store name key binary, .stored (.ok path)) :: behind)
    (untouched : Untouched settings behind (named path)) :
    pathFor settings name = .ok path ∧
      Reaches ((performAll settings calls).run tree).state path ∧
      ((performAll settings calls).run tree).state.fileAt? (named path) =
        some (CacheEntry.encode ⟨key, binary⟩) := by
  obtain ⟨middle, rest, answers, isBehind, isFinal⟩ := performAll_split isHistory
  obtain ⟨made, -, -, outcome⟩ := store_cases settings name key binary middle
  rw [← isFinal]
  rw [← isBehind] at untouched
  rw [Call.perform, run_bind, run_pure] at answers untouched ⊢
  generalize (store settings name key binary).run middle = done at outcome answers untouched
  obtain ⟨result, state, events⟩ := done
  dsimp only at outcome answers untouched ⊢
  cases answers
  rcases outcome with ⟨⟨failure, fails⟩, -⟩ | ⟨path', isPath, succeeds, writes⟩
  · cases fails
  · cases succeeds
    obtain ⟨reaches, notDirectory, isPut⟩ := of_write writes
    have stays : KeepsDirectories made state := by
      rw [isPut]
      exact keepsDirectories_put_file notDirectory _
    have stays := stays.trans (keepsDirectories_performAll settings rest state)
    refine ⟨isPath, reaches.of_keepsDirectories stays, ?_⟩
    rcases fileAt?_performAll settings rest state (named path) with
      ⟨entry, ⟨early, last, late, isSplit, touches, -⟩, -⟩ | ⟨-, same⟩
    · have member : last ∈ ((performAll settings rest).run state).value := by
        rw [isSplit]
        simp
      exact absurd touches (untouched last member entry)
    · rw [same, isPut, fileAt?_put_file notDirectory, if_pos rfl]

end Histories

theorem touch?_of_failure {call : Call} {answer : Answer} {failure : CacheError}
    (settings : CacheSettings) (fails : answer.failure? = some failure) :
    touch? settings (call, answer) = none := by
  unfold touch?
  split
  · next isStored =>
      obtain ⟨-, rfl⟩ := Prod.mk.inj isStored
      cases fails
  · next isRemoved =>
      obtain ⟨-, rfl⟩ := Prod.mk.inj isRemoved
      cases fails
  · rfl

/-- The calls to a cache in an empty tree, with their answers. -/
def historyOf (settings : CacheSettings) (calls : List Call) : List (Call × Answer) :=
  ((performAll settings calls).run {}).value

/-- The tree that calls to a cache make of an empty one. -/
def treeAfter (settings : CacheSettings) (calls : List Call) : FileTree :=
  ((performAll settings calls).run {}).state

/-- Every file in a tree of the cache's making is an entry. -/
theorem exists_lastTouch {settings : CacheSettings} {calls : List Call} {place : FileLocation}
    {bytes : List UInt8} (found : (treeAfter settings calls).fileAt? place = some bytes) :
    ∃ entry, LastTouch settings (historyOf settings calls) place (some entry) ∧
      CacheEntry.decode? bytes = some entry := by
  unfold treeAfter at found
  unfold historyOf
  rcases fileAt?_performAll settings calls {} place with ⟨entry, last, holds⟩ | ⟨-, nothing⟩
  · rw [found] at holds
    obtain ⟨entry, rfl, rfl⟩ := Option.map_eq_some_iff.mp holds.symm
    exact ⟨entry, last, CacheEntry.decode?_encode entry⟩
  · have empty : ({} : FileTree).fileAt? place = none := by
      unfold fileAt? node?
      split <;> simp_all
    rw [found, empty] at nothing
    cases nothing

/-- After any calls to a cache in an empty tree, a binary is handed out only if the last call
that touched the program's file stored it under the key asked for; an entry that was stored and
not touched since is handed out under its key, refused under every other key, and can be removed;
no file is too short to be an entry; and a call that fails leaves all files as they were. -/
theorem serves_last_store (settings : CacheSettings) (calls : List Call) :
    (∀ name key binary,
      ((load settings name key).run (treeAfter settings calls)).value = .ok (some binary) →
        ∃ place, placeFor? settings name = some place ∧
          LastTouch settings (historyOf settings calls) place (some ⟨key, binary⟩)) ∧
    (∀ before name key binary path behind,
      historyOf settings calls =
          before ++ (.store name key binary, .stored (.ok path)) :: behind →
        Untouched settings behind (named path) →
          ((load settings name key).run (treeAfter settings calls)).value = .ok (some binary) ∧
            (∀ other, other ≠ key →
              ((load settings name other).run (treeAfter settings calls)).value =
                .error (.keyMismatch path key other)) ∧
            ((remove settings name).run (treeAfter settings calls)).value = .ok true) ∧
    (∀ name key path length,
      ((load settings name key).run (treeAfter settings calls)).value ≠
        .error (.truncated path length)) ∧
    ∀ (call : Call) failure,
      ((call.perform settings).run (treeAfter settings calls)).value.failure? = some failure →
        ∀ location,
          ((call.perform settings).run (treeAfter settings calls)).state.fileAt? location =
            (treeAfter settings calls).fileAt? location := by
  refine ⟨?_, ?_, ?_, ?_⟩
  · intro name key binary loads
    obtain ⟨place, bytes, isPlace, found, decodes⟩ := load_eq_some loads
    obtain ⟨entry, last, decodes'⟩ := exists_lastTouch found
    rw [decodes, Option.some.injEq] at decodes'
    subst decodes'
    exact ⟨place, isPlace, last⟩
  · intro before name key binary path behind isHistory untouched
    obtain ⟨isPath, reaches, found⟩ := read_after_store isHistory untouched
    have reads : (treeAfter settings calls).read path = .ok (CacheEntry.encode ⟨key, binary⟩) :=
      reaches.read_eq found
    have removes : (treeAfter settings calls).remove path =
        .ok ((treeAfter settings calls).erase (named path)) := reaches.remove_eq found
    refine ⟨?_, fun other differs => ?_, ?_⟩
    · rw [load_of_read (pathFor_eq_ok_iff.mp isPath) reads, binaryUnder_encode, if_pos rfl]
      rfl
    · rw [load_of_read (pathFor_eq_ok_iff.mp isPath) reads, binaryUnder_encode,
        if_neg (Ne.symm differs)]
      rfl
    · simp only [remove, isPath, run_get_bind, removes]
      rfl
  · intro name key path length fails
    obtain ⟨place, bytes, found, short⟩ := load_eq_truncated fails
    obtain ⟨entry, -, decodes⟩ := exists_lastTouch found
    rw [short] at decodes
    cases decodes
  · intro call failure fails location
    rw [fileAt?_perform, touch?_of_failure settings fails]

def lampSettings : CacheSettings where
  directory := "c"
  extension := "p"

/-- Two names of one file, and a name that needs this file to be a directory. -/
def crossedCalls : List Call :=
  [.store "a/x" 1 ⟨7, [1, 2, 3]⟩, .store "a//x" 2 ⟨9, [5]⟩, .store "a/x.p/y" 3 ⟨9, []⟩,
    .load "a/x" 1, .remove "b"]

theorem serves_crossedCalls :
    (((load lampSettings "a//x" 2).run (treeAfter lampSettings crossedCalls)).value =
          .ok (some ⟨9, [5]⟩) ∧
        ((load lampSettings "a//x" 1).run (treeAfter lampSettings crossedCalls)).value =
          .error (.keyMismatch "c/a//x.p" 2 1) ∧
        ((remove lampSettings "a//x").run (treeAfter lampSettings crossedCalls)).value =
          .ok true) ∧
      LastTouch lampSettings (historyOf lampSettings crossedCalls) ["c", "a", "x.p"]
        (some ⟨2, ⟨9, [5]⟩⟩) := by
  obtain ⟨onlyLast, keepsLast, -, -⟩ := serves_last_store lampSettings crossedCalls
  refine ⟨?_, ?_⟩
  · have isHistory : historyOf lampSettings crossedCalls =
        (historyOf lampSettings crossedCalls).take 1 ++
          (.store "a//x" 2 ⟨9, [5]⟩, .stored (.ok "c/a//x.p")) ::
            (historyOf lampSettings crossedCalls).drop 2 := by
      decide +kernel
    have noTouch : ∀ call ∈ (historyOf lampSettings crossedCalls).drop 2,
        touch? lampSettings call = none := by
      decide +kernel
    have untouched : Untouched lampSettings ((historyOf lampSettings crossedCalls).drop 2)
        (named "c/a//x.p") := by
      intro call member entry
      rw [noTouch call member]
      exact (Option.some_ne_none _).symm
    obtain ⟨loads, refuses, removes⟩ := keepsLast _ _ _ _ _ _ isHistory untouched
    exact ⟨loads, refuses 1 (by decide), removes⟩
  · -- The entry is found under the other name of the file too.
    obtain ⟨place, isPlace, last⟩ := onlyLast "a/x" 2 ⟨9, [5]⟩ (by decide +kernel)
    have isPlace' : placeFor? lampSettings "a/x" = some ["c", "a", "x.p"] := by decide +kernel
    rw [isPlace, Option.some.injEq] at isPlace'
    exact isPlace' ▸ last

end ShaderPipeline.ProgramCache
