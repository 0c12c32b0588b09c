import ShaderPipeline.Text.Blank

/-!
# File paths

A path is kept as it was written: its segments between slashes, empty ones
included, so that its text can be given back unchanged.  The components of a
path are what the segments mean.
-/

namespace ShaderPipeline

/-- A path as it was written. -/
structure Path where
  /-- The path starts with a slash. -/
  absolute : Bool
  /-- The text between the slashes. -/
  segments : List (List Char)
deriving Repr, DecidableEq

/-- What one step of a path means. -/
inductive PathComponent where
  | root
  | here
  | up
  | normal (name : String)
deriving Repr, DecidableEq

namespace Path

/-- The segments of a text between slashes; an empty text has none. -/
def segmentsOf (text : List Char) : List (List Char) :=
  if text = [] then [] else Text.splitAt (· == '/') text

def ofString (text : String) : Path :=
  match text.toList with
  | '/' :: rest => ⟨true, segmentsOf rest⟩
  | characters => ⟨false, segmentsOf characters⟩

def text (path : Path) : String :=
  String.ofList ((if path.absolute then ['/'] else []) ++ ['/'].intercalate path.segments)

/-- What a segment means behind the start of a path.  Empty segments and single
dots mean nothing there. -/
def componentOf? (segment : List Char) : Option PathComponent :=
  if segment = [] ∨ segment = ['.'] then none
  else if segment = ['.', '.'] then some .up
  else some (.normal (String.ofList segment))

/-- The components of a path.  A single dot counts only at the very start. -/
def components (path : Path) : List PathComponent :=
  if path.absolute then .root :: path.segments.filterMap componentOf?
  else
    match path.segments with
    | ['.'] :: rest => .here :: rest.filterMap componentOf?
    | segments => segments.filterMap componentOf?

/-- Drops the segments at the end that mean nothing. -/
def dropEmptyTail : List (List Char) → List (List Char)
  | [] => []
  | segment :: rest =>
      match dropEmptyTail rest with
      | [] => if (componentOf? segment).isSome then [segment] else []
      | kept => segment :: kept

/-- Drops the segments at the end of a path that mean nothing.  A leading dot
is kept. -/
def trimEnd (path : Path) : Path :=
  match path.absolute, path.segments with
  | false, ['.'] :: rest => ⟨false, ['.'] :: dropEmptyTail rest⟩
  | absolute, segments => ⟨absolute, dropEmptyTail segments⟩

/-- The path without its last component.  The root and the empty path have
none to drop. -/
def parent? (path : Path) : Option Path :=
  let trimmed := path.trimEnd
  if trimmed.segments = [] then none
  else some (trimEnd ⟨trimmed.absolute, trimmed.segments.dropLast⟩)

/-- The last component, if it is a name. -/
def fileName? (path : Path) : Option String :=
  match path.components.getLast? with
  | some (.normal name) => some name
  | _ => none

/-- The last name without its extension, which starts at the last dot.  A name
whose only dot comes first has no extension. -/
def fileStem? (path : Path) : Option String :=
  path.fileName?.map fun name =>
    match (name.toList.reverse.dropWhile (· != '.')) with
    | '.' :: [] => name
    | '.' :: before => String.ofList before.reverse
    | _ => name

/-- A directory's text with a relative text behind it. -/
def join (directory relative : String) : String :=
  if directory.toList = [] ∨ directory.toList.getLast? = some '/' then directory ++ relative
  else directory ++ "/" ++ relative

/-- Dropping segments never makes a path longer. -/
theorem length_dropEmptyTail_le (segments : List (List Char)) :
    (dropEmptyTail segments).length ≤ segments.length := by
  induction segments with
  | nil => exact Nat.le_refl _
  | cons segment rest ih =>
      unfold dropEmptyTail
      split
      · split <;> simp
      · next kept _ =>
          simp only [List.length_cons]
          omega

/-- Trimming never makes a path longer. -/
theorem length_trimEnd_le (path : Path) :
    path.trimEnd.segments.length ≤ path.segments.length := by
  unfold trimEnd
  split
  · next rest _ atStart =>
      have shorter := length_dropEmptyTail_le rest
      rw [atStart]
      simp only [List.length_cons]
      omega
  · exact length_dropEmptyTail_le _

/-- A parent has fewer segments. -/
theorem length_parent?_lt {path above : Path} (found : path.parent? = some above) :
    above.segments.length < path.segments.length := by
  unfold parent? at found
  dsimp only at found
  split at found
  · cases found
  · next notEmpty =>
      cases found
      have outer := length_trimEnd_le path
      have inner := length_trimEnd_le
        ⟨path.trimEnd.absolute, path.trimEnd.segments.dropLast⟩
      have positive := List.length_pos_iff.mpr notEmpty
      simp only [List.length_dropLast] at inner
      omega

end Path

end ShaderPipeline
