import ShaderPipeline.Files.Path
import ShaderPipeline.Registry

/-!
# File trees

A file tree holds the files and directories below a working directory.  Paths
are resolved component by component, as an operating system does, and an operation
fails if its path or what lies at it calls for that.  A write is all or nothing:
no disk is full, no device fails, and nothing is cut short on its way to a file.
-/

namespace ShaderPipeline

/-- Why a file operation failed. -/
inductive FileError where
  | notFound
  | alreadyExists
  | notADirectory
  | isADirectory
  | nameTooLong
  /-- A path holds the character with code zero. -/
  | nulInPath
  /-- A text file is not in UTF-8. -/
  | notText
deriving Repr, DecidableEq

def FileError.message : FileError → String
  | .notFound => "No such file or directory (os error 2)"
  | .alreadyExists => "File exists (os error 17)"
  | .notADirectory => "Not a directory (os error 20)"
  | .isADirectory => "Is a directory (os error 21)"
  | .nameTooLong => "File name too long (os error 36)"
  | .nulInPath => "file name contained an unexpected NUL byte"
  | .notText => "stream did not contain valid UTF-8"

/-- What a place in a tree holds. -/
inductive FileNode where
  | file (content : List UInt8)
  | directory
deriving Repr, DecidableEq

/-- A place in a tree: the names on the way to it from the working directory.
A way that leaves the working directory starts with steps up or at the root. -/
abbrev FileLocation := List String

namespace FileLocation

def root : FileLocation := ["/"]

/-- The working directory or a directory above it. -/
def isAbove (location : FileLocation) : Bool :=
  location.all (· == "..")

/-- The place that a path starts from. -/
def start (path : Path) : FileLocation :=
  if path.absolute then root else []

/-- One step up.  The root has nothing above it. -/
def up (location : FileLocation) : FileLocation :=
  if location = root then root
  else if isAbove location then location ++ [".."]
  else location.dropLast

/-- The place lies in the working directory. -/
def isInside (location : FileLocation) : Bool :=
  location.head? != some "/" && location.head? != some ".."

end FileLocation

/-- The files and directories below a working directory. -/
structure FileTree where
  nodes : Registry FileLocation FileNode := {}
deriving Repr, DecidableEq

namespace FileTree

/-- What a place holds.  The working directory and those above it are always
there. -/
def node? (tree : FileTree) (location : FileLocation) : Option FileNode :=
  if location.isAbove ∨ location = .root then some .directory else tree.nodes.find? location

def put (tree : FileTree) (location : FileLocation) (node : FileNode) : FileTree :=
  ⟨tree.nodes.insert location node⟩

def erase (tree : FileTree) (location : FileLocation) : FileTree :=
  ⟨tree.nodes.erase location⟩

theorem node?_put (tree : FileTree) (location other : FileLocation) (node : FileNode)
    (below : ¬ (other.isAbove ∨ other = .root)) :
    (tree.put location node).node? other =
      if other = location then some node else tree.node? other := by
  simp only [node?, put, if_neg below, Registry.find?_insert]

theorem node?_erase (tree : FileTree) (location other : FileLocation)
    (below : ¬ (other.isAbove ∨ other = .root)) :
    (tree.erase location).node? other =
      if other = location then none else tree.node? other := by
  simp only [node?, erase, if_neg below, Registry.find?_erase]

/-- The longest name in bytes that a directory can hold. -/
def nameLimit : Nat := 255

/-- The length in bytes from which a path is refused. -/
def pathLimit : Nat := 4096

/-- What a directory holds under a name.  A name that no directory can hold fails. -/
def lookUp (tree : FileTree) (parent : FileLocation) (name : String) :
    Except FileError (Option FileNode) :=
  if nameLimit < name.utf8ByteSize then .error .nameTooLong
  else .ok (tree.node? (parent ++ [name]))

/-- One step from a directory by name or by dots. -/
def stepInto (tree : FileTree) (location : FileLocation) (segment : List Char) :
    Except FileError FileLocation :=
  if segment = [] ∨ segment = ['.'] then .ok location
  else if segment = ['.', '.'] then .ok location.up
  else
    match tree.lookUp location (String.ofList segment) with
    | .error failure => .error failure
    | .ok (some .directory) => .ok (location ++ [String.ofList segment])
    | .ok (some (.file _)) => .error .notADirectory
    | .ok none => .error .notFound

def walk (tree : FileTree) (location : FileLocation) :
    List (List Char) → Except FileError FileLocation
  | [] => .ok location
  | segment :: rest =>
      match tree.stepInto location segment with
      | .error failure => .error failure
      | .ok next => tree.walk next rest

/-- What the end of a path names. -/
inductive Target where
  /-- A directory that is reached by dots, or the root. -/
  | directory (location : FileLocation)
  /-- A name in a directory, which may have a slash behind it. -/
  | name (parent : FileLocation) (name : String) (slash : Bool)
deriving Repr, DecidableEq

/-- Splits off the last segment that is not empty, and tells whether a slash
follows it. -/
def splitLast (segments : List (List Char)) : Option (List (List Char) × List Char × Bool) :=
  match segments.reverse.dropWhile (· == []) with
  | [] => none
  | last :: before => some (before.reverse, last, segments.getLast? == some [])

/-- Finds the directory that a path leads to and the name at its end. -/
def resolve (tree : FileTree) (text : String) : Except FileError Target :=
  if '\x00' ∈ text.toList then .error .nulInPath
  else if text = "" then .error .notFound
  else if pathLimit ≤ text.utf8ByteSize then .error .nameTooLong
  else
    match splitLast (Path.ofString text).segments with
    | none => .ok (.directory (.start (Path.ofString text)))
    | some (before, last, slash) =>
        match tree.walk (.start (Path.ofString text)) before with
        | .error failure => .error failure
        | .ok parent =>
            if last = ['.'] then .ok (.directory parent)
            else if last = ['.', '.'] then .ok (.directory parent.up)
            else .ok (.name parent (String.ofList last) slash)

def read (tree : FileTree) (path : String) : Except FileError (List UInt8) :=
  match tree.resolve path with
  | .error failure => .error failure
  | .ok (.directory _) => .error .isADirectory
  | .ok (.name parent name slash) =>
      match tree.lookUp parent name with
      | .error failure => .error failure
      | .ok none => .error .notFound
      | .ok (some .directory) => .error .isADirectory
      | .ok (some (.file content)) => if slash then .error .notADirectory else .ok content

def readText (tree : FileTree) (path : String) : Except FileError String :=
  match tree.read path with
  | .error failure => .error failure
  | .ok content =>
      match String.fromUTF8? content.toByteArray with
      | some text => .ok text
      | none => .error .notText

/-- Writes a whole file; an old content is replaced.  A path with a slash behind it
is refused before its last name is looked up. -/
def write (tree : FileTree) (path : String) (content : List UInt8) :
    Except FileError FileTree :=
  match tree.resolve path with
  | .error failure => .error failure
  | .ok (.directory _) => .error .isADirectory
  | .ok (.name parent name slash) =>
      if slash then .error .isADirectory
      else
        match tree.lookUp parent name with
        | .error failure => .error failure
        | .ok (some .directory) => .error .isADirectory
        | .ok _ => .ok (tree.put (parent ++ [name]) (.file content))

def remove (tree : FileTree) (path : String) : Except FileError FileTree :=
  match tree.resolve path with
  | .error failure => .error failure
  | .ok (.directory _) => .error .isADirectory
  | .ok (.name parent name slash) =>
      match tree.lookUp parent name with
      | .error failure => .error failure
      | .ok none => .error .notFound
      | .ok (some .directory) => .error .isADirectory
      | .ok (some (.file _)) =>
          if slash then .error .notADirectory else .ok (tree.erase (parent ++ [name]))

def makeDirectory (tree : FileTree) (path : String) : Except FileError FileTree :=
  match tree.resolve path with
  | .error failure => .error failure
  | .ok (.directory _) => .error .alreadyExists
  | .ok (.name parent name _) =>
      match tree.lookUp parent name with
      | .error failure => .error failure
      | .ok (some _) => .error .alreadyExists
      | .ok none => .ok (tree.put (parent ++ [name]) .directory)

def isDirectory (tree : FileTree) (path : String) : Bool :=
  match tree.resolve path with
  | .error _ => false
  | .ok (.directory _) => true
  | .ok (.name parent name _) => tree.node? (parent ++ [name]) == some .directory

/-- Makes a directory that may be there already. -/
def ensureDirectory (tree : FileTree) (path : String) : Except FileError FileTree :=
  match tree.makeDirectory path with
  | .ok made => .ok made
  | .error failure => if tree.isDirectory path then .ok tree else .error failure

/-- Makes a directory with all directories above it.  Only where one of these
is missing does the work go on above.  The result is the tree with what was
made before a failure. -/
def makeDirectories (tree : FileTree) (path : Path) : FileTree × Option FileError :=
  if path.segments = [] ∧ path.absolute = false then (tree, none)
  else
    match tree.makeDirectory path.text with
    | .ok made => (made, none)
    | .error .notFound =>
        match _found : path.parent? with
        | none => (tree, some .notFound)
        | some above =>
            match tree.makeDirectories above with
            | (made, some failure) => (made, some failure)
            | (made, none) =>
                match made.ensureDirectory path.text with
                | .ok final => (final, none)
                | .error failure => (made, some failure)
    | .error failure => if tree.isDirectory path.text then (tree, none) else (tree, some failure)
termination_by path.segments.length
decreasing_by exact Path.length_parent?_lt _found

/-- The path of a place, with a slash behind a directory. -/
def entryText (entry : FileLocation × FileNode) : String :=
  String.intercalate "/" entry.1 ++
    (match entry.2 with
    | .file _ => ""
    | .directory => "/")

def nodeSize : FileNode → Nat
  | .file content => content.length
  | .directory => 0

/-- Everything in the working directory with its size, sorted by path. -/
def listing (tree : FileTree) : List (String × Nat) :=
  ((tree.nodes.entries.filter fun entry => entry.1.isInside).map fun entry =>
    (entryText entry, nodeSize entry.2)).mergeSort
      fun first second => decide (first.1 ≤ second.1)

end FileTree

end ShaderPipeline
