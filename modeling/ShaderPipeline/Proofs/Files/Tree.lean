import ShaderPipeline.Files.Tree
import Mathlib.Data.List.TakeWhile

/-!
# Where the files of a tree come from

The place that a path names does not depend on the tree: walking through
directories can fail, but it leads nowhere else.  So a file that is found under
a path was written there, and making directories brings no file about.
-/

namespace ShaderPipeline

namespace FileLocation

/-- One step by name or by dots, whatever the tree holds. -/
def step (location : FileLocation) (segment : List Char) : FileLocation :=
  if segment = [] ∨ segment = ['.'] then location
  else if segment = ['.', '.'] then location.up
  else location ++ [String.ofList segment]

def named (text : String) : FileLocation :=
  (Path.ofString text).segments.foldl step (start (Path.ofString text))

theorem foldl_step_of_empty {segments : List (List Char)}
    (empty : ∀ segment ∈ segments, segment = []) (location : FileLocation) :
    segments.foldl step location = location := by
  induction segments generalizing location with
  | nil => rfl
  | cons segment rest ih =>
      rw [List.foldl_cons, empty segment List.mem_cons_self]
      exact ih (fun other member => empty other (List.mem_cons_of_mem _ member)) location

end FileLocation

namespace FileTree

open FileLocation

def fileAt? (tree : FileTree) (location : FileLocation) : Option (List UInt8) :=
  match tree.node? location with
  | some (.file content) => some content
  | _ => none

theorem stepInto_eq {tree : FileTree} {location next : FileLocation} {segment : List Char}
    (steps : tree.stepInto location segment = .ok next) : next = location.step segment := by
  unfold stepInto at steps
  unfold step
  split at steps
  · next silent =>
      cases steps
      rw [if_pos silent]
  · next loud =>
      rw [if_neg loud]
      split at steps
      · next isUp =>
          cases steps
          rw [if_pos isUp]
      · next notUp =>
          rw [if_neg notUp]
          split at steps
          · cases steps
          · cases steps
            rfl
          · cases steps
          · cases steps

theorem walk_eq {tree : FileTree} {location final : FileLocation} {segments : List (List Char)}
    (walks : tree.walk location segments = .ok final) :
    final = segments.foldl step location := by
  induction segments generalizing location with
  | nil =>
      cases walks
      rfl
  | cons segment rest ih =>
      unfold walk at walks
      split at walks
      · cases walks
      · next next stepped =>
          rw [List.foldl_cons, ← stepInto_eq stepped]
          exact ih walks

/-- Only empty segments stand behind the last one. -/
theorem splitLast_eq {segments before : List (List Char)} {last : List Char} {slash : Bool}
    (split : splitLast segments = some (before, last, slash)) :
    last ≠ [] ∧ ∃ trailing, segments = before ++ last :: trailing ∧
      ∀ segment ∈ trailing, segment = [] := by
  unfold splitLast at split
  have parts := List.takeWhile_append_dropWhile (p := (· == [])) (l := segments.reverse)
  have first := List.head?_dropWhile_not (· == []) segments.reverse
  generalize dropped : segments.reverse.dropWhile (· == []) = kept at split parts first
  cases kept with
  | nil => cases split
  | cons segment earlier =>
      cases split
      refine ⟨by simpa using first, (segments.reverse.takeWhile (· == [])).reverse, ?_, ?_⟩
      · have whole := congrArg List.reverse parts
        rw [List.reverse_append, List.reverse_cons, List.append_assoc,
          List.reverse_reverse] at whole
        exact whole.symm
      · intro segment member
        have isEmpty := List.mem_takeWhile_imp (List.mem_reverse.mp member)
        simpa using isEmpty

/-- A path that is resolved to a name leads to the place that it names. -/
theorem named_of_resolve {tree : FileTree} {text name : String} {parent : FileLocation}
    {slash : Bool} (resolves : tree.resolve text = .ok (.name parent name slash)) :
    named text = parent ++ [name] := by
  unfold resolve at resolves
  split at resolves
  · cases resolves
  · split at resolves
    · cases resolves
    · split at resolves
      · cases resolves
      · split at resolves
        · cases resolves
        · next before last slash isSplit =>
            obtain ⟨notEmpty, trailing, segments, empty⟩ := splitLast_eq isSplit
            split at resolves
            · cases resolves
            · next parent walked =>
                split at resolves
                · cases resolves
                · next notDot =>
                    split at resolves
                    · cases resolves
                    · next notUp =>
                        cases resolves
                        rw [named, segments, List.foldl_append, List.foldl_cons, ← walk_eq walked,
                          foldl_step_of_empty empty, step, if_neg (by simp [notEmpty, notDot]),
                          if_neg notUp]

theorem fileAt?_of_read {tree : FileTree} {path : String} {content : List UInt8}
    (reads : tree.read path = .ok content) : tree.fileAt? (named path) = some content := by
  unfold read at reads
  split at reads
  · cases reads
  · cases reads
  · next parent name slash resolved =>
      split at reads
      · cases reads
      · cases reads
      · cases reads
      · next content found =>
          split at reads
          · cases reads
          · cases reads
            unfold lookUp at found
            split at found
            · cases found
            · rw [Except.ok.injEq] at found
              rw [named_of_resolve resolved, fileAt?, found]

theorem write_eq {tree final : FileTree} {path : String} {content : List UInt8}
    (writes : tree.write path content = .ok final) :
    final = tree.put (named path) (.file content) := by
  unfold write at writes
  split at writes
  · cases writes
  · cases writes
  · next parent name slash resolved =>
      split at writes
      · cases writes
      · split at writes
        · cases writes
        · cases writes
        · cases writes
          rw [named_of_resolve resolved]

theorem makeDirectory_eq {tree final : FileTree} {path : String}
    (makes : tree.makeDirectory path = .ok final) :
    ∃ location, final = tree.put location .directory := by
  unfold makeDirectory at makes
  split at makes
  · cases makes
  · cases makes
  · split at makes
    · cases makes
    · cases makes
    · cases makes
      exact ⟨_, rfl⟩

theorem fileAt?_put {tree : FileTree} {location other : FileLocation} {node : FileNode}
    {content : List UInt8} (found : (tree.put location node).fileAt? other = some content) :
    (other = location ∧ node = .file content) ∨ tree.fileAt? other = some content := by
  unfold fileAt? at found ⊢
  by_cases below : other.isAbove ∨ other = .root
  · rw [node?, if_pos below] at found
    cases found
  · rw [node?_put _ _ _ _ below] at found
    by_cases same : other = location
    · rw [if_pos same] at found
      left
      cases node with
      | file bytes =>
          cases found
          exact ⟨same, rfl⟩
      | directory => cases found
    · rw [if_neg same] at found
      exact Or.inr found

/-- All files of a tree were in another one. -/
def NoNewFiles (before after : FileTree) : Prop :=
  ∀ location content, after.fileAt? location = some content →
    before.fileAt? location = some content

theorem NoNewFiles.refl (tree : FileTree) : NoNewFiles tree tree :=
  fun _ _ found => found

theorem NoNewFiles.trans {first second third : FileTree} (early : NoNewFiles first second)
    (late : NoNewFiles second third) : NoNewFiles first third :=
  fun location content found => early location content (late location content found)

theorem noNewFiles_makeDirectory {tree final : FileTree} {path : String}
    (makes : tree.makeDirectory path = .ok final) : NoNewFiles tree final := by
  obtain ⟨place, rfl⟩ := makeDirectory_eq makes
  intro location content found
  rcases fileAt?_put found with ⟨-, isFile⟩ | old
  · cases isFile
  · exact old

theorem noNewFiles_ensureDirectory {tree final : FileTree} {path : String}
    (makes : tree.ensureDirectory path = .ok final) : NoNewFiles tree final := by
  unfold ensureDirectory at makes
  split at makes
  · next made =>
      cases makes
      exact noNewFiles_makeDirectory made
  · split at makes
    · cases makes
      exact .refl _
    · cases makes

theorem noNewFiles_makeDirectories (tree : FileTree) (path : Path) :
    NoNewFiles tree (tree.makeDirectories path).1 := by
  fun_induction makeDirectories tree path with
  | case1 => exact .refl _
  | case2 path notHere made makes => exact noNewFiles_makeDirectory makes
  | case3 => exact .refl _
  | case4 path notHere missing above isAbove made failure makes ih =>
      rw [makes] at ih
      exact ih
  | case5 path notHere missing above isAbove made makes final ensures ih =>
      rw [makes] at ih
      exact ih.trans (noNewFiles_ensureDirectory ensures)
  | case6 path notHere missing above isAbove made makes failure ensures ih =>
      rw [makes] at ih
      exact ih
  | case7 => exact .refl _
  | case8 => exact .refl _

end FileTree

end ShaderPipeline
