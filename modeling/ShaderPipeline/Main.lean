import ShaderPipeline.CommandLine.Run

/-!
# The command line tool

The tool loads the files that a run looks at, runs, and writes the cache entry
back.
-/

namespace ShaderPipeline.CommandLine

/-- The place in a tree that a path leads to. -/
def placeOf (path : String) : FileLocation :=
  (Path.ofString path).segments.foldl
    (fun location segment =>
      if segment = [] ∨ segment = ['.'] then location
      else if segment = ['.', '.'] then location.up
      else location ++ [String.ofList segment])
    (.start (Path.ofString path))

/-- Puts a node at a place, with the directories above it. -/
def putWithParents (tree : FileTree) (location : FileLocation) (node : FileNode) : FileTree :=
  let parents := (List.range location.length).map location.take
  (parents.foldl (fun tree parent => tree.put parent .directory) tree).put location node

/-- Loads what a path leads to into a tree.  What cannot be read is left out. -/
def loadPath (tree : FileTree) (path : String) : IO FileTree := do
  try
    let bytes ← IO.FS.readBinFile path
    return putWithParents tree (placeOf path) (.file bytes.toList)
  catch
    | .inappropriateType .. => return putWithParents tree (placeOf path) .directory
    | _ => return tree

/-- The file that a run keeps its cache entry in. -/
def cacheFile? (tree : FileTree) (options : Options) : Option String :=
  match ((loadConfig options).run tree).value with
  | .ok config => config.cache.pathFor? (programName options)
  | .error _ => none

def loadFiles (options : Options) : IO FileTree := do
  let named := options.config :: (options.vertex.toList ++ options.fragment.toList)
  let tree ← named.foldlM loadPath {}
  match cacheFile? tree options with
  | some path => loadPath tree path
  | none => return tree

/-- Writes the cache entry that a run has changed. -/
def writeBack (before after : FileTree) (path : String) : IO Unit := do
  match after.read path with
  | .error _ => return ()
  | .ok bytes =>
      if (before.read path).toOption ≠ some bytes then
        match (Path.ofString path).parent? with
        | some above => if above.text ≠ "" then IO.FS.createDirAll above.text
        | none => return ()
        IO.FS.writeBinFile path bytes.toByteArray

/-- Runs the tool on the files of the system. -/
def runSystem (arguments : List String) : IO UInt32 := do
  let options :=
    match Request.ofArguments arguments with
    | .run options => some options
    | _ => none
  let before ← match options with
    | some options => loadFiles options
    | none => pure {}
  let done := (run arguments).run before
  for event in (LogFilter.atLeast .info).apply done.events do
    IO.eprintln ("[" ++ event.level.label ++ "] " ++ event.message)
  match options.bind (cacheFile? before) with
  | some path =>
      try writeBack before done.state path
      catch failure => IO.eprintln ("[WARN] " ++ toString failure)
  | none => pure ()
  IO.print done.value.output
  IO.eprint done.value.errors
  return done.value.exitCode.toUInt32

end ShaderPipeline.CommandLine

def main (arguments : List String) : IO UInt32 :=
  ShaderPipeline.CommandLine.runSystem arguments
