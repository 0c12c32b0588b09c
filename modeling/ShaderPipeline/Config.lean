import ShaderPipeline.Action
import ShaderPipeline.Cache.Settings
import ShaderPipeline.Capabilities
import ShaderPipeline.Config.Document
import ShaderPipeline.Files.Tree

/-!
# Settings of the pipeline

The settings tell what the driver accepts and where the program cache lives.
They are read from a document in which every field may be left out and fields
that are not known are skipped.
-/

namespace ShaderPipeline

/-- The settings of the pipeline. -/
structure Config where
  capabilities : Capabilities := .gl33
  cache : CacheSettings := {}
deriving Repr, DecidableEq, Inhabited

/-- Why settings could not be loaded. -/
inductive ConfigError where
  | file (path : String) (cause : FileError)
  | malformed (path : String)
deriving Repr, DecidableEq

namespace Config

/-- The name of a record is the expected one, or left out where it may be. -/
def hasName (extensions : Extensions) (expected : String) (name : Option String) : Bool :=
  name == some expected || (name == none && !extensions.explicitNames)

/-- The fields of a record with a given name, which may be left out unless the
document asks for names. -/
def fields? (extensions : Extensions) (expected : String) :
    Value → Option (List (String × Value))
  | .record name fields => if hasName extensions expected name then some fields else none
  | .tuple name [] => if hasName extensions expected name then some [] else none
  | _ => none

/-- The field called `name`, read by `read`; it is left as `default` when it is
missing, and fails when it is there twice. -/
def field? {α : Type} (fields : List (String × Value)) (name : String) (default : α)
    (read : Value → Option α) : Option α :=
  match fields.filter (·.1 == name) with
  | [] => some default
  | [(_, value)] => read value
  | _ => none

def boolean? : Value → Option Bool
  | .boolean value => some value
  | _ => none

def text? : Value → Option String
  | .text value => some value
  | _ => none

/-- A number of 32 bits without a sign; a suffix has to say just that. -/
def word? : Value → Option UInt32
  | .number (.integer value suffix) =>
      if (suffix = none ∨ suffix = some .u32) ∧ 0 ≤ value ∧ value < 4294967296 then
        some value.toNat.toUInt32
      else none
  | _ => none

def capabilities? (extensions : Extensions) (value : Value) : Option Capabilities := do
  let fields ← fields? extensions "DriverCapabilities" value
  let start := Capabilities.gl33
  let version ← field? fields "glsl_version" start.version word?
  let versionText ← field? fields "glsl_version_string" start.versionText text?
  let gpuShader5 ← field? fields "gpu_shader5" start.gpuShader5 boolean?
  let gpuShader4 ← field? fields "gpu_shader4" start.gpuShader4 boolean?
  let textureLod ← field? fields "shader_texture_lod" start.textureLod boolean?
  let textureLodExt ← field? fields "ext_shader_texture_lod" start.textureLodExt boolean?
  let programBinary ← field? fields "program_binary" start.programBinary boolean?
  return ⟨version, versionText, gpuShader5, gpuShader4, textureLod, textureLodExt, programBinary⟩

def cache? (extensions : Extensions) (value : Value) : Option CacheSettings := do
  let fields ← fields? extensions "ProgramCacheSettings" value
  let start : CacheSettings := {}
  let directory ← field? fields "directory" start.directory text?
  let extension ← field? fields "extension" start.extension text?
  let enabled ← field? fields "enabled" start.enabled boolean?
  return ⟨directory, extension, enabled⟩

def ofDocument? (document : Document) : Option Config := do
  let fields ← fields? document.extensions "GlintConfig" document.value
  let start : Config := {}
  let capabilities ←
    field? fields "capabilities" start.capabilities (capabilities? document.extensions)
  let cache ← field? fields "cache" start.cache (cache? document.extensions)
  return ⟨capabilities, cache⟩

def parse? (source : String) : Option Config :=
  (Document.parse? source).bind ofDocument?

/-- Loads settings from a file.  Without the file the defaults hold. -/
def load (path : String) : Action FileTree (Except ConfigError Config) := do
  match (← Action.get).readText path with
  | .error .notFound =>
      Action.note .info ("Config: " ++ path ++ " not found, using defaults")
      return .ok {}
  | .error cause => return .error (.file path cause)
  | .ok source =>
      match parse? source with
      | none => return .error (.malformed path)
      | some config =>
          Action.note .debug
            ("Config: loaded " ++ path ++ " (GLSL " ++
              Nat.repr config.capabilities.version.toNat ++ ", cache " ++
              (if config.cache.enabled then "on" else "off") ++ ")")
          return .ok config

end Config

/-- The wording of a failure to load settings; a malformed document is named by
its path. -/
def ConfigError.message : ConfigError → String
  | .file path cause => "failed to read config " ++ path ++ ": " ++ cause.message
  | .malformed path => "failed to parse config " ++ path

end ShaderPipeline
