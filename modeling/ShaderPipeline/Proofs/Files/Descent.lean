import ShaderPipeline.Proofs.Files.Tree
import ShaderPipeline.Proofs.Text.Words

/-!
# Places below a directory

A relative text leads somewhere below a directory as long as it never steps up more
often than it stepped down.  `walkBelow?` follows a text by the names below the
directory alone and fails at the first step that leads out of it.  Where it succeeds,
the text leads from every directory to the place with these names.
-/

namespace ShaderPipeline

namespace Path

/-- A name that a directory can hold. -/
structure IsName (name : String) : Prop where
  ne_empty : name ≠ ""
  ne_here : name ≠ "."
  ne_up : name ≠ ".."
  noSlash : '/' ∉ name.toList

/-- One step among the names below a directory.  Stepping up from the directory itself
leads out of it. -/
def stepBelow? (names : List String) (segment : List Char) : Option (List String) :=
  if segment = [] ∨ segment = ['.'] then some names
  else if segment = ['.', '.'] then if names = [] then none else some names.dropLast
  else some (names ++ [String.ofList segment])

/-- The names below a directory that segments lead to, if no step leads out of it. -/
def walkBelow? (names : List String) : List (List Char) → Option (List String)
  | [] => some names
  | segment :: rest => (stepBelow? names segment).bind (walkBelow? · rest)

theorem walkBelow?_append (names : List String) (before behind : List (List Char)) :
    walkBelow? names (before ++ behind) =
      (walkBelow? names before).bind (walkBelow? · behind) := by
  induction before generalizing names with
  | nil => rfl
  | cons segment before ih =>
      rw [List.cons_append, walkBelow?, walkBelow?, Option.bind_assoc]
      exact Option.bind_congr fun next _ => ih next

/-- A way that stays inside is inside at every step. -/
theorem exists_walkBelow?_of_prefix {names final : List String} {walked segments : List (List Char)}
    (isPrefix : walked <+: segments) (walks : walkBelow? names segments = some final) :
    ∃ reached, walkBelow? names walked = some reached := by
  obtain ⟨behind, rfl⟩ := isPrefix
  rw [walkBelow?_append] at walks
  obtain ⟨reached, walks, -⟩ := Option.bind_eq_some_iff.mp walks
  exact ⟨reached, walks⟩

/-- Without a step up no name is lost. -/
theorem walkBelow?_of_noUp {segments : List (List Char)} (noUp : ['.', '.'] ∉ segments)
    (names : List String) :
    ∃ more, walkBelow? names segments = some (names ++ more) := by
  induction segments generalizing names with
  | nil => exact ⟨[], by rw [walkBelow?, List.append_nil]⟩
  | cons segment segments ih =>
      rw [List.mem_cons, not_or] at noUp
      obtain ⟨notUp, noUp⟩ := noUp
      rw [walkBelow?, stepBelow?]
      split
      · exact ih noUp names
      · rw [if_neg (Ne.symm notUp)]
        obtain ⟨more, walks⟩ := ih noUp (names ++ [String.ofList segment])
        exact ⟨String.ofList segment :: more, by simpa using walks⟩

/-- There is room for a step up below every name. -/
theorem exists_stepBelow? {names : List String} (notEmpty : names ≠ []) (segment : List Char) :
    ∃ next, stepBelow? names segment = some next := by
  unfold stepBelow?
  split
  · exact ⟨_, rfl⟩
  · split
    · exact ⟨_, rfl⟩
    · exact ⟨_, rfl⟩

theorem isName_of_stepBelow? {names next : List String} {segment : List Char}
    (areNames : ∀ name ∈ names, IsName name) (noSlash : '/' ∉ segment)
    (steps : stepBelow? names segment = some next) : ∀ name ∈ next, IsName name := by
  unfold stepBelow? at steps
  split at steps
  · cases steps
    exact areNames
  · next loud =>
      split at steps
      · split at steps
        · cases steps
        · cases steps
          exact fun name member => areNames name (List.dropLast_subset _ member)
      · next notUp =>
          cases steps
          intro name member
          rcases List.mem_append.mp member with old | new
          · exact areNames name old
          · rw [List.mem_singleton.mp new]
            rw [not_or] at loud
            constructor
            · exact fun isEmpty => loud.1 (String.ofList_eq_empty_iff.mp isEmpty)
            · exact fun isHere => loud.2 (by simpa using congrArg String.toList isHere)
            · exact fun isUp => notUp (by simpa using congrArg String.toList isUp)
            · rwa [String.toList_ofList]

end Path

namespace FileLocation

open Path

theorem up_append {names : List String} (areNames : ∀ name ∈ names, IsName name)
    (notEmpty : names ≠ []) (directory : FileLocation) :
    up (directory ++ names) = directory ++ names.dropLast := by
  have last := areNames _ (List.getLast_mem notEmpty)
  have notRoot : directory ++ names ≠ root := by
    intro isRoot
    have isLast : (directory ++ names).getLast? = some "/" := by rw [isRoot]; rfl
    rw [List.getLast?_append_of_ne_nil _ notEmpty, List.getLast?_eq_some_getLast notEmpty] at isLast
    refine last.noSlash ?_
    rw [Option.some.inj isLast]
    exact List.mem_singleton_self '/'
  have notAbove : isAbove (directory ++ names) = false := by
    rw [isAbove, List.all_eq_false]
    exact ⟨_, List.mem_append_right _ (List.getLast_mem notEmpty), by simpa using last.ne_up⟩
  rw [up, if_neg notRoot, if_neg (by simp [notAbove]), List.dropLast_append_of_ne_nil notEmpty]

/-- A step that stays inside does the same below every directory. -/
theorem step_append {names next : List String} {segment : List Char}
    (areNames : ∀ name ∈ names, IsName name) (steps : stepBelow? names segment = some next)
    (directory : FileLocation) : step (directory ++ names) segment = directory ++ next := by
  unfold stepBelow? at steps
  unfold step
  split at steps
  · next silent =>
      cases steps
      rw [if_pos silent]
  · next loud =>
      rw [if_neg loud]
      split at steps
      · next isUp =>
          rw [if_pos isUp]
          split at steps
          · cases steps
          · next notEmpty =>
              cases steps
              exact up_append areNames notEmpty directory
      · next notUp =>
          cases steps
          rw [if_neg notUp, List.append_assoc]

/-- A way that stays inside leads to the same names below every directory. -/
theorem foldl_step_of_walkBelow? {names final : List String} {segments : List (List Char)}
    (areNames : ∀ name ∈ names, IsName name) (noSlash : ∀ segment ∈ segments, '/' ∉ segment)
    (walks : walkBelow? names segments = some final) (directory : FileLocation) :
    segments.foldl step (directory ++ names) = directory ++ final ∧
      ∀ name ∈ final, IsName name := by
  induction segments generalizing names with
  | nil =>
      cases walks
      exact ⟨rfl, areNames⟩
  | cons segment segments ih =>
      obtain ⟨next, steps, walks⟩ := Option.bind_eq_some_iff.mp walks
      obtain ⟨noSlashHere, noSlash⟩ := List.forall_mem_cons.mp noSlash
      rw [List.foldl_cons, step_append areNames steps]
      exact ih (isName_of_stepBelow? areNames noSlashHere steps) noSlash walks

/-- The place that a text leads to from a directory, slash by slash. -/
def walkText (location : FileLocation) (text : List Char) : FileLocation :=
  (Text.splitAt (· == '/') text).foldl step location

theorem walkText_slash (location : FileLocation) (before behind : List Char) :
    walkText location (before ++ '/' :: behind) = walkText (walkText location before) behind := by
  rw [walkText, Text.splitAt_append_cut rfl, List.foldl_append]
  rfl

theorem walkText_eq_foldl_segmentsOf (location : FileLocation) (text : List Char) :
    walkText location text = (segmentsOf text).foldl step location := by
  unfold segmentsOf
  split
  · next isEmpty =>
      rw [isEmpty]
      rfl
  · rfl

theorem named_eq_walkText (text : String) :
    named text = walkText (start (Path.ofString text)) text.toList := by
  unfold named Path.ofString
  split
  · next rest isText =>
      rw [isText, ← walkText_eq_foldl_segmentsOf]
      exact (walkText_slash _ [] rest).symm
  · rw [← walkText_eq_foldl_segmentsOf]

theorem absolute_ofString (text : String) :
    (Path.ofString text).absolute = (text.toList.head? == some '/') := by
  unfold Path.ofString
  split
  · next rest isText => rw [isText]; rfl
  · next notAbsolute =>
      cases isText : text.toList with
      | nil => rfl
      | cons first rest =>
          have notSlash : first ≠ '/' := by
            rintro rfl
            exact notAbsolute rest isText
          simpa using notSlash

/-- Joining a directory and a relative text goes on from the directory. -/
theorem named_join (directory : String) {relative : String}
    (isRelative : (Path.ofString relative).absolute = false) :
    named (Path.join directory relative) = walkText (named directory) relative.toList := by
  have sameStart : ∀ {text : String} (rest : List Char), directory.toList ≠ [] →
      text.toList = directory.toList ++ rest →
      start (Path.ofString text) = start (Path.ofString directory) := by
    intro text rest notEmpty isText
    rw [start, start, absolute_ofString, absolute_ofString, isText,
      List.head?_append_of_ne_nil _ notEmpty]
  rw [named_eq_walkText, named_eq_walkText directory]
  unfold Path.join
  split
  · next open' =>
      by_cases isEmpty : directory.toList = []
      · have isDirectory : directory = "" := String.toList_eq_nil_iff.mp isEmpty
        rw [isDirectory, String.empty_append, start, if_neg (by simp [isRelative])]
        rfl
      · obtain ⟨before, isDirectory⟩ : ∃ before, directory.toList = before ++ ['/'] :=
          List.getLast?_eq_some_iff.mp (open'.resolve_left isEmpty)
        rw [sameStart relative.toList isEmpty (String.toList_append ..), String.toList_append,
          isDirectory, List.append_assoc, List.singleton_append, walkText_slash, walkText_slash]
        rfl
  · next closed =>
      have notEmpty : directory.toList ≠ [] := fun isEmpty => closed (Or.inl isEmpty)
      have isText : (directory ++ "/" ++ relative).toList =
          directory.toList ++ '/' :: relative.toList := by simp
      rw [sameStart _ notEmpty isText, isText, walkText_slash]

end FileLocation

end ShaderPipeline
