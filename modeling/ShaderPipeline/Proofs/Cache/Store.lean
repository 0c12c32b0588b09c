import ShaderPipeline.Cache.Store
import ShaderPipeline.Proofs.Action.Frame
import ShaderPipeline.Proofs.Cache.Codec
import ShaderPipeline.Proofs.Files.Tree

/-!
# What the cache hands out

A binary is handed out only if the file of its program holds an entry with it
under the right key, and the only file that storing writes is the program's own.
-/

namespace ShaderPipeline.ProgramCache

open Action FileTree FileLocation

def placeFor? (settings : CacheSettings) (name : String) : Option FileLocation :=
  (settings.pathFor? name).map named

theorem pathFor_eq_ok_iff {settings : CacheSettings} {name path : String} :
    pathFor settings name = .ok path ↔ settings.pathFor? name = some path := by
  unfold pathFor
  cases settings.pathFor? name <;> simp

theorem pathFor_eq_ok {settings : CacheSettings} {name path : String}
    (isPath : pathFor settings name = .ok path) : placeFor? settings name = some (named path) := by
  rw [placeFor?, pathFor_eq_ok_iff.mp isPath]
  rfl

theorem load_of_read {settings : CacheSettings} {name path : String}
    {tree : FileTree} {bytes : List UInt8} (isPath : settings.pathFor? name = some path)
    (reads : tree.read path = .ok bytes) (expected : UInt32) :
    ((load settings name expected).run tree).value =
      (binaryUnder path expected bytes).map some := by
  unfold load pathFor
  rw [isPath]
  simp only
  rw [run_get_bind, reads]
  simp only
  cases binaryUnder path expected bytes <;> rfl

theorem decode?_of_binaryUnder {path : String} {expected : UInt32} {bytes : List UInt8}
    {binary : ProgramBinary} (holds : binaryUnder path expected bytes = .ok binary) :
    CacheEntry.decode? bytes = some ⟨expected, binary⟩ := by
  unfold binaryUnder at holds
  split at holds
  · cases holds
  · next entry decoded =>
      split at holds
      · next sameKey =>
          cases holds
          rw [decoded, ← sameKey]
      · cases holds

theorem load_eq_some {settings : CacheSettings} {name : String} {expected : UInt32}
    {tree : FileTree} {binary : ProgramBinary}
    (loads : ((load settings name expected).run tree).value = .ok (some binary)) :
    ∃ place bytes, placeFor? settings name = some place ∧ tree.fileAt? place = some bytes ∧
      CacheEntry.decode? bytes = some ⟨expected, binary⟩ := by
  unfold load at loads
  split at loads
  · cases loads
  · next path isPath =>
      rw [run_get_bind] at loads
      split at loads
      · cases loads
      · cases loads
      · next bytes reads =>
          split at loads
          · cases loads
          · next holds =>
              cases loads
              exact ⟨_, bytes, pathFor_eq_ok isPath, fileAt?_of_read reads,
                decode?_of_binaryUnder holds⟩

theorem noNewFiles_makeParent (path : String) (tree : FileTree) :
    NoNewFiles tree ((makeParent path).run tree).state := by
  unfold makeParent
  split
  · exact .refl tree
  · next directory isParent =>
      have made := noNewFiles_makeDirectories tree directory
      rw [run_get_bind]
      generalize tree.makeDirectories directory = result at made
      obtain ⟨final, failure⟩ := result
      cases failure with
      | none => exact made
      | some cause => exact made

/-- Every file was there before a store, or it is the one that was stored. -/
theorem fileAt?_store {settings : CacheSettings} {name : String} {key : UInt32}
    {binary : ProgramBinary} {tree : FileTree} {location : FileLocation} {content : List UInt8}
    (found : ((store settings name key binary).run tree).state.fileAt? location = some content) :
    tree.fileAt? location = some content ∨
      (placeFor? settings name = some location ∧ content = CacheEntry.encode ⟨key, binary⟩) := by
  unfold store at found
  split at found
  · exact Or.inl found
  · next path isPath =>
      have noNew := noNewFiles_makeParent path tree
      rw [run_bind] at found
      generalize (makeParent path).run tree = made at noNew found
      obtain ⟨result, state, events⟩ := made
      cases result with
      | error failure => exact Or.inl (noNew _ _ found)
      | ok done =>
          simp only [run_get_bind] at found
          split at found
          · exact Or.inl (noNew _ _ found)
          · next final writes =>
              have written := write_eq writes
              have found : final.fileAt? location = some content := found
              rw [written] at found
              rcases fileAt?_put found with ⟨isPlace, isFile⟩ | old
              · cases isFile
                rw [pathFor_eq_ok isPath, isPlace]
                exact Or.inr ⟨rfl, rfl⟩
              · exact Or.inl (noNew _ _ old)

end ShaderPipeline.ProgramCache
