import ShaderPipeline.Files.Path

/-!
# Settings of the program cache

Where the cache keeps its files, and which names it takes for programs.
-/

namespace ShaderPipeline

/-- Where linked programs are kept. -/
structure CacheSettings where
  /-- The directory with one file per program. -/
  directory : String := "cache/programs"
  /-- What file names end in, without the dot. -/
  extension : String := "programbin"
  /-- Without this switch nothing is read or written. -/
  enabled : Bool := true
deriving Repr, DecidableEq, Inhabited

namespace CacheSettings

/-- The default settings with another directory. -/
def inDirectory (directory : String) : CacheSettings :=
  { directory := directory }

def isPlain : PathComponent → Bool
  | .normal _ => true
  | _ => false

/-- Program names that have at least one component and only plain ones, so that
they stay below the directory. -/
def accepts (name : String) : Bool :=
  let components := (Path.ofString name).components
  !components.isEmpty && components.all isPlain

def pathFor? (settings : CacheSettings) (name : String) : Option String :=
  if accepts name then
    some (Path.join settings.directory (name ++ "." ++ settings.extension))
  else none

end CacheSettings

end ShaderPipeline
