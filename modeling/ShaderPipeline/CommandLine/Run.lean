import ShaderPipeline.CommandLine.Failure
import ShaderPipeline.CommandLine.Options
import ShaderPipeline.CommandLine.Report

/-!
# Runs of the command line

A run makes one program on the software device and prints what was found.  It
works on a tree of files, in which the cache lasts from run to run.
-/

namespace ShaderPipeline.CommandLine

/-- What a run leaves behind besides files. -/
structure RunResult where
  exitCode : UInt8 := 0
  output : String := ""
  errors : String := ""
deriving Repr, DecidableEq

/-- The exit code of arguments that are not well formed. -/
def usageCode : UInt8 := 2

/-- Reads the text of a stage, if a file is named for it. -/
def readStage (path : Option String) : Action FileTree (Except Failure (Option String)) :=
  match path with
  | none => return .ok none
  | some path => Action.read fun files =>
      match files.readText path with
      | .ok text => .ok (some text)
      | .error cause => .error (.unreadableShader path cause)

/-- The settings after the options: a preset replaces the capabilities. -/
def adjustConfig (options : Options) (config : Config) : Except Failure Config :=
  let cache := if options.noCache then { config.cache with enabled := false } else config.cache
  match options.preset with
  | none => .ok { config with cache := cache }
  | some preset =>
      match Capabilities.preset? preset with
      | some caps => .ok ⟨caps, cache⟩
      | none => .error (.unknownPreset preset)

def loadConfig (options : Options) : Action FileTree (Except Failure Config) := do
  match ← Config.load options.config with
  | .error cause => return .error (.config cause)
  | .ok config => return adjustConfig options config

/-- The name of the program: as given, or as its first file is called. -/
def programName (options : Options) : String :=
  options.name.getD <|
    ((options.vertex.or options.fragment).bind fun path =>
      (Path.ofString path).fileStem?).getD "program"

/-- Makes the program and reports on it. -/
def build (options : Options) (config : Config) (vertex fragment : Option String) :
    Action FileTree (Except Failure String) := do
  let name := programName options
  Action.note .info
    (toolName ++ ": building '" ++ name ++ "' for GLSL '" ++ config.capabilities.versionText ++
      "'")
  let device : Software.Device := { capabilities := config.capabilities }
  Action.report [Software.Device.creationEvent config.capabilities]
  Action.report (Session.startEvents device config.cache)
  let made := (Session.create name vertex fragment).run
    (Session.start device (← Action.get) config.cache)
  Action.set made.state.files
  Action.report made.events
  match made.value with
  | .error cause => return .error (.build name cause)
  | .ok handle =>
      match made.state.program? handle with
      | none => return .ok ""
      | some program => return .ok (programReport made.state handle program options.quiet)

def runOptions (options : Options) : Action FileTree (Except Failure String) := do
  match ← loadConfig options with
  | .error failure => return .error failure
  | .ok config =>
      match ← readStage options.vertex with
      | .error failure => return .error failure
      | .ok vertex =>
          match ← readStage options.fragment with
          | .error failure => return .error failure
          | .ok fragment =>
              if vertex.isNone && fragment.isNone then return .error .noStages
              else build options config vertex fragment

def run (arguments : List String) : Action FileTree RunResult := do
  match Request.ofArguments arguments with
  | .help => return { output := helpText }
  | .usage =>
      return { exitCode := usageCode, errors := "Usage: " ++ toolName ++ " [OPTIONS]\n" }
  | .run options =>
      match ← runOptions options with
      | .ok report => return { output := report }
      | .error failure => return { exitCode := 1, errors := failure.text }

end ShaderPipeline.CommandLine
