import ShaderPipeline.Action
import ShaderPipeline.Cache.Entry
import ShaderPipeline.Cache.Settings
import ShaderPipeline.Files.Tree
import ShaderPipeline.Text.Hex

/-!
# The program cache

The cache keeps one file per program name.  An entry is handed out only under
the key that it was stored with, and every store replaces the whole file.
-/

namespace ShaderPipeline

/-- Why a cache entry could not be used or written. -/
inductive CacheError where
  /-- The program name would leave the cache directory. -/
  | invalidName (name : String)
  | file (path : String) (cause : FileError)
  /-- The file is shorter than the numbers at its start. -/
  | truncated (path : String) (length : Nat)
  /-- The file was stored under another key. -/
  | keyMismatch (path : String) (stored expected : UInt32)
deriving Repr, DecidableEq

def CacheError.message : CacheError → String
  | .invalidName name => "program name '" ++ name ++ "' cannot be used as a cache file name"
  | .file path cause => "program cache I/O failed for " ++ path ++ ": " ++ cause.message
  | .truncated path length =>
      "program cache file " ++ path ++ " is truncated (" ++ Nat.repr length ++ " bytes)"
  | .keyMismatch path stored expected =>
      "program cache file " ++ path ++ " holds key " ++ Text.hexPadded stored ++
        ", expected " ++ Text.hexPadded expected

namespace ProgramCache

def pathFor (settings : CacheSettings) (name : String) : Except CacheError String :=
  match settings.pathFor? name with
  | some path => .ok path
  | none => .error (.invalidName name)

/-- The binary that a file's bytes hold under the key `expected`. -/
def binaryUnder (path : String) (expected : UInt32) (bytes : List UInt8) :
    Except CacheError ProgramBinary :=
  match CacheEntry.decode? bytes with
  | none => .error (.truncated path bytes.length)
  | some entry =>
      if entry.key = expected then .ok entry.binary
      else .error (.keyMismatch path entry.key expected)

/-- Looks an entry up.  Without a file there is no entry. -/
def load (settings : CacheSettings) (name : String) (expected : UInt32) :
    Action FileTree (Except CacheError (Option ProgramBinary)) := do
  match pathFor settings name with
  | .error failure => return .error failure
  | .ok path =>
      match (← Action.get).read path with
      | .error .notFound => return .ok none
      | .error cause => return .error (.file path cause)
      | .ok bytes =>
          match binaryUnder path expected bytes with
          | .error failure => return .error failure
          | .ok binary =>
              Action.note .trace
                ("ProgramCache: read " ++ Nat.repr bytes.length ++ " bytes from " ++ path)
              return .ok (some binary)

def makeParent (path : String) : Action FileTree (Except CacheError Unit) := do
  match (Path.ofString path).parent? with
  | none => return .ok ()
  | some directory =>
      let (tree, failure) := (← Action.get).makeDirectories directory
      Action.set tree
      match failure with
      | some cause => return .error (.file directory.text cause)
      | none => return .ok ()

/-- Stores an entry, in place of an older one.  The answer is the file's path. -/
def store (settings : CacheSettings) (name : String) (key : UInt32) (binary : ProgramBinary) :
    Action FileTree (Except CacheError String) := do
  match pathFor settings name with
  | .error failure => return .error failure
  | .ok path =>
      match ← makeParent path with
      | .error failure => return .error failure
      | .ok _ =>
          let bytes := CacheEntry.encode ⟨key, binary⟩
          match (← Action.get).write path bytes with
          | .error cause => return .error (.file path cause)
          | .ok tree =>
              Action.set tree
              Action.note .debug
                ("ProgramCache: wrote " ++ Nat.repr bytes.length ++ " bytes for '" ++ name ++
                  "' to " ++ path)
              return .ok path

/-- Removes an entry.  The answer tells whether there was one. -/
def remove (settings : CacheSettings) (name : String) :
    Action FileTree (Except CacheError Bool) := do
  match pathFor settings name with
  | .error failure => return .error failure
  | .ok path =>
      match (← Action.get).remove path with
      | .error .notFound => return .ok false
      | .error cause => return .error (.file path cause)
      | .ok tree =>
          Action.set tree
          return .ok true

end ProgramCache

end ShaderPipeline
