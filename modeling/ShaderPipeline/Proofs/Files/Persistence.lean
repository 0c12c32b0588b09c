import ShaderPipeline.Proofs.Files.Tree

/-!
# What stays in a file tree

No operation takes a directory away, and making directories changes nothing that
was there before.  So a path that once led to a file leads there for good, and
what it finds at its end is what was last written there.
-/

namespace ShaderPipeline.FileTree

open FileLocation

section Nodes

variable {tree : FileTree} {location other : FileLocation} {node : FileNode}

theorem node?_put_of_ne (differs : other ≠ location) :
    (tree.put location node).node? other = tree.node? other := by
  by_cases below : other.isAbove ∨ other = .root
  · rw [node?, node?, if_pos below, if_pos below]
  · rw [node?_put _ _ _ _ below, if_neg differs]

theorem node?_erase_of_ne (differs : other ≠ location) :
    (tree.erase location).node? other = tree.node? other := by
  by_cases below : other.isAbove ∨ other = .root
  · rw [node?, node?, if_pos below, if_pos below]
  · rw [node?_erase _ _ _ below, if_neg differs]

/-- Only the working directory, those above it and the root are not kept as nodes. -/
theorem below_of_node?_ne (notDirectory : tree.node? location ≠ some .directory) :
    ¬ (location.isAbove ∨ location = .root) := by
  intro above
  rw [node?, if_pos above] at notDirectory
  exact notDirectory rfl

theorem fileAt?_eq_some_iff {content : List UInt8} :
    tree.fileAt? location = some content ↔ tree.node? location = some (.file content) := by
  unfold fileAt?
  cases tree.node? location with
  | none => simp
  | some node => cases node <;> simp

theorem fileAt?_put_file {content : List UInt8}
    (notDirectory : tree.node? location ≠ some .directory) (other : FileLocation) :
    (tree.put location (.file content)).fileAt? other =
      if other = location then some content else tree.fileAt? other := by
  by_cases same : other = location
  · subst same
    rw [fileAt?, node?_put _ _ _ _ (below_of_node?_ne notDirectory), if_pos rfl, if_pos rfl]
  · rw [fileAt?, node?_put_of_ne same, if_neg same, fileAt?]

theorem fileAt?_erase (notDirectory : tree.node? location ≠ some .directory)
    (other : FileLocation) :
    (tree.erase location).fileAt? other =
      if other = location then none else tree.fileAt? other := by
  by_cases same : other = location
  · subst same
    rw [fileAt?, node?_erase _ _ _ (below_of_node?_ne notDirectory), if_pos rfl, if_pos rfl]
  · rw [fileAt?, node?_erase_of_ne same, if_neg same, fileAt?]

end Nodes

/-- What one tree holds, another one holds at the same places. -/
structure Extends (before after : FileTree) : Prop where
  node : ∀ {location node}, before.node? location = some node → after.node? location = some node

/-- The directories of one tree are directories of another one. -/
structure KeepsDirectories (before after : FileTree) : Prop where
  directory : ∀ {location}, before.node? location = some .directory →
    after.node? location = some .directory

theorem Extends.refl (tree : FileTree) : Extends tree tree :=
  ⟨fun found => found⟩

theorem Extends.trans {first second third : FileTree} (early : Extends first second)
    (late : Extends second third) : Extends first third :=
  ⟨fun found => late.node (early.node found)⟩

theorem Extends.keepsDirectories {before after : FileTree} (grows : Extends before after) :
    KeepsDirectories before after :=
  ⟨fun found => grows.node found⟩

theorem KeepsDirectories.refl (tree : FileTree) : KeepsDirectories tree tree :=
  ⟨fun found => found⟩

theorem KeepsDirectories.trans {first second third : FileTree}
    (early : KeepsDirectories first second) (late : KeepsDirectories second third) :
    KeepsDirectories first third :=
  ⟨fun found => late.directory (early.directory found)⟩

theorem extends_put {tree : FileTree} {location : FileLocation} (free : tree.node? location = none)
    (node : FileNode) : Extends tree (tree.put location node) := by
  constructor
  intro other found isFound
  have differs : other ≠ location := by
    rintro rfl
    rw [free] at isFound
    cases isFound
  rw [node?_put_of_ne differs]
  exact isFound

theorem lookUp_eq_ok {tree : FileTree} {parent : FileLocation} {name : String}
    {found : Option FileNode} (looks : tree.lookUp parent name = .ok found) :
    ¬ nameLimit < name.utf8ByteSize ∧ tree.node? (parent ++ [name]) = found := by
  unfold lookUp at looks
  split at looks
  · cases looks
  · next short =>
      cases looks
      exact ⟨short, rfl⟩

theorem lookUp_of_short {name : String} (short : ¬ nameLimit < name.utf8ByteSize)
    (tree : FileTree) (parent : FileLocation) :
    tree.lookUp parent name = .ok (tree.node? (parent ++ [name])) := by
  rw [lookUp, if_neg short]

theorem extends_makeDirectory {tree final : FileTree} {path : String}
    (makes : tree.makeDirectory path = .ok final) : Extends tree final := by
  unfold makeDirectory at makes
  split at makes
  · cases makes
  · cases makes
  · split at makes
    · cases makes
    · cases makes
    · next free =>
        cases makes
        exact extends_put (lookUp_eq_ok free).2 _

theorem extends_ensureDirectory {tree final : FileTree} {path : String}
    (makes : tree.ensureDirectory path = .ok final) : Extends tree final := by
  unfold ensureDirectory at makes
  split at makes
  · next made =>
      cases makes
      exact extends_makeDirectory made
  · split at makes
    · cases makes
      exact .refl _
    · cases makes

theorem extends_makeDirectories (tree : FileTree) (path : Path) :
    Extends tree (tree.makeDirectories path).1 := by
  fun_induction makeDirectories tree path with
  | case1 => exact .refl _
  | case2 path notHere made makes => exact extends_makeDirectory makes
  | case3 => exact .refl _
  | case4 path notHere missing above isAbove made failure makes ih =>
      rw [makes] at ih
      exact ih
  | case5 path notHere missing above isAbove made makes final ensures ih =>
      rw [makes] at ih
      exact ih.trans (extends_ensureDirectory ensures)
  | case6 path notHere missing above isAbove made makes failure ensures ih =>
      rw [makes] at ih
      exact ih
  | case7 => exact .refl _
  | case8 => exact .refl _

/-- Making directories changes no file. -/
theorem fileAt?_of_extends {before after : FileTree} (grows : Extends before after)
    (noNew : NoNewFiles before after) (location : FileLocation) :
    after.fileAt? location = before.fileAt? location := by
  apply Option.ext
  intro content
  refine ⟨noNew location content, fun found => ?_⟩
  rw [fileAt?_eq_some_iff] at found ⊢
  exact grows.node found

theorem keepsDirectories_put_file {tree : FileTree} {location : FileLocation}
    (notDirectory : tree.node? location ≠ some .directory) (content : List UInt8) :
    KeepsDirectories tree (tree.put location (.file content)) := by
  constructor
  intro other found
  rw [node?_put_of_ne]
  · exact found
  · rintro rfl
    exact notDirectory found

theorem keepsDirectories_erase {tree : FileTree} {location : FileLocation}
    (notDirectory : tree.node? location ≠ some .directory) :
    KeepsDirectories tree (tree.erase location) := by
  constructor
  intro other found
  rw [node?_erase_of_ne]
  · exact found
  · rintro rfl
    exact notDirectory found

section Walking

variable {before after : FileTree}

theorem KeepsDirectories.stepInto (keeps : KeepsDirectories before after)
    {location next : FileLocation} {segment : List Char}
    (steps : before.stepInto location segment = .ok next) :
    after.stepInto location segment = .ok next := by
  unfold FileTree.stepInto at steps ⊢
  split
  · next silent => rwa [if_pos silent] at steps
  · next loud =>
      rw [if_neg loud] at steps
      split
      · next isUp => rwa [if_pos isUp] at steps
      · next notUp =>
          rw [if_neg notUp] at steps
          split at steps
          · cases steps
          · next found =>
              obtain ⟨short, isDirectory⟩ := lookUp_eq_ok found
              rw [lookUp_of_short short, keeps.directory isDirectory]
              exact steps
          · cases steps
          · cases steps

theorem KeepsDirectories.walk (keeps : KeepsDirectories before after)
    {location final : FileLocation} {segments : List (List Char)}
    (walks : before.walk location segments = .ok final) :
    after.walk location segments = .ok final := by
  induction segments generalizing location with
  | nil => exact walks
  | cons segment rest ih =>
      unfold FileTree.walk at walks ⊢
      split at walks
      · cases walks
      · next next steps =>
          rw [keeps.stepInto steps]
          exact ih walks

/-- A path that leads to a name does so as long as the directories are there. -/
theorem KeepsDirectories.resolve (keeps : KeepsDirectories before after) {text : String}
    {target : Target} (resolves : before.resolve text = .ok target) :
    after.resolve text = .ok target := by
  unfold FileTree.resolve at resolves ⊢
  split at resolves
  · cases resolves
  · next noNul =>
      rw [if_neg noNul]
      split at resolves
      · cases resolves
      · next notEmpty =>
          rw [if_neg notEmpty]
          split at resolves
          · cases resolves
          · next short =>
              rw [if_neg short]
              split at resolves
              · exact resolves
              · split at resolves
                · cases resolves
                · next parent walks =>
                    rw [keeps.walk walks]
                    exact resolves

end Walking

/-- A path leads to a name that a directory can hold, with no slash behind it. -/
structure Reaches (tree : FileTree) (path : String) : Prop where
  target : ∃ parent name, tree.resolve path = .ok (.name parent name false) ∧
    ¬ nameLimit < name.utf8ByteSize

theorem Reaches.of_keepsDirectories {before after : FileTree} {path : String}
    (reaches : Reaches before path) (keeps : KeepsDirectories before after) :
    Reaches after path := by
  obtain ⟨parent, name, resolves, short⟩ := reaches.target
  exact ⟨parent, name, keeps.resolve resolves, short⟩

/-- What a write does: it needs a way to the file and puts the content there. -/
theorem of_write {tree final : FileTree} {path : String} {content : List UInt8}
    (writes : tree.write path content = .ok final) :
    Reaches tree path ∧ tree.node? (named path) ≠ some .directory ∧
      final = tree.put (named path) (.file content) := by
  have isFinal := write_eq writes
  unfold write at writes
  split at writes
  · cases writes
  · cases writes
  · next parent name slash resolved =>
      split at writes
      · cases writes
      · next noSlash =>
          rw [Bool.not_eq_true] at noSlash
          subst noSlash
          split at writes
          · cases writes
          · cases writes
          · next found notDirectory looks =>
              obtain ⟨short, isFound⟩ := lookUp_eq_ok looks
              refine ⟨⟨parent, name, resolved, short⟩, ?_, isFinal⟩
              rw [named_of_resolve resolved, isFound]
              exact notDirectory

/-- What a removal does: it needs a file and takes it away. -/
theorem of_remove {tree final : FileTree} {path : String}
    (removes : tree.remove path = .ok final) :
    tree.node? (named path) ≠ some .directory ∧ final = tree.erase (named path) := by
  unfold remove at removes
  split at removes
  · cases removes
  · cases removes
  · next parent name slash resolved =>
      split at removes
      · cases removes
      · cases removes
      · cases removes
      · next looks =>
          obtain ⟨-, isFile⟩ := lookUp_eq_ok looks
          split at removes
          · cases removes
          · cases removes
            rw [named_of_resolve resolved, isFile]
            exact ⟨by simp, rfl⟩

section Reaching

variable {tree : FileTree} {path : String} {content : List UInt8}

theorem Reaches.read_eq (reaches : Reaches tree path)
    (isFile : tree.fileAt? (named path) = some content) : tree.read path = .ok content := by
  obtain ⟨parent, name, resolves, short⟩ := reaches.target
  rw [fileAt?_eq_some_iff, named_of_resolve resolves] at isFile
  simp only [read, resolves, lookUp_of_short short, isFile]
  rfl

theorem Reaches.remove_eq (reaches : Reaches tree path)
    (isFile : tree.fileAt? (named path) = some content) :
    tree.remove path = .ok (tree.erase (named path)) := by
  obtain ⟨parent, name, resolves, short⟩ := reaches.target
  rw [fileAt?_eq_some_iff, named_of_resolve resolves] at isFile
  simp only [remove, resolves, lookUp_of_short short, isFile, named_of_resolve resolves]
  rfl

end Reaching

end ShaderPipeline.FileTree
