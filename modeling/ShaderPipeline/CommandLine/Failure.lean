import ShaderPipeline.Config
import ShaderPipeline.ShaderError

/-!
# Failures of the command line

Why a run failed, and how that is printed: a message and the chain of its
causes.
-/

namespace ShaderPipeline.CommandLine

/-- Why a run failed. -/
inductive Failure where
  | config (cause : ConfigError)
  | unknownPreset (name : String)
  | unreadableShader (path : String) (cause : FileError)
  | noStages
  | build (name : String) (cause : ProgramError)
deriving Repr, DecidableEq

namespace Failure

def message : Failure → String
  | .config cause => cause.message
  | .unknownPreset name => "Unknown driver preset '" ++ name ++ "'"
  | .unreadableShader path _ => "Failed to read shader '" ++ path ++ "'"
  | .noStages => "Pass at least one of --vertex or --fragment"
  | .build name _ => "Failed to build program '" ++ name ++ "'"

/-- The messages of the causes, the nearest first. -/
def causes : Failure → List String
  | .config (.file _ cause) => [cause.message]
  | .unreadableShader _ cause => [cause.message]
  | .build _ cause => cause.message :: (cause.cause?.map (·.message)).toList
  | _ => []

/-- A text whose lines behind the first one are indented. -/
def indented (width : Nat) (text : String) : String :=
  String.ofList (text.toList.flatMap fun character =>
    if character = '\n' then '\n' :: List.replicate width ' ' else [character])

/-- Causes on lines of their own, with their numbers. -/
def numberedFrom (number : Nat) : List String → String
  | [] => ""
  | cause :: rest =>
      "    " ++ Nat.repr number ++ ": " ++ indented 7 cause ++ "\n" ++
        numberedFrom (number + 1) rest

/-- The causes as they are printed; a single one has no number. -/
def causesText : List String → String
  | [] => ""
  | [cause] => "\nCaused by:\n    " ++ indented 4 cause ++ "\n"
  | causes => "\nCaused by:\n" ++ numberedFrom 0 causes

def text (failure : Failure) : String :=
  "Error: " ++ failure.message ++ "\n" ++ causesText failure.causes

end Failure

end ShaderPipeline.CommandLine
