/-!
# Options of the command line

An option has a name behind two hyphens.  Its value is the next argument, or
stands behind an equals sign.  No option may be given twice, and there are no
arguments without a name.
-/

namespace ShaderPipeline.CommandLine

def toolName : String := "shader-lab"

/-- What the arguments ask for. -/
structure Options where
  vertex : Option String := none
  fragment : Option String := none
  /-- The program's name. -/
  name : Option String := none
  /-- The name of a driver preset, in place of the settings. -/
  preset : Option String := none
  /-- The file with the settings. -/
  config : String := "shader-lab.ron"
  noCache : Bool := false
  quiet : Bool := false
deriving Repr, DecidableEq

/-- What becomes of the arguments. -/
inductive Request where
  | run (options : Options)
  | help
  /-- The arguments are not well formed. -/
  | usage
deriving Repr, DecidableEq

/-- The options that have a value. -/
inductive ValueOption where
  | vertex
  | fragment
  | name
  | preset
  | config
deriving Repr, DecidableEq

/-- The options without a value. -/
inductive Switch where
  | noCache
  | quiet
  | help
deriving Repr, DecidableEq

def ValueOption.ofName? (name : String) : Option ValueOption :=
  [("vertex", vertex), ("fragment", fragment), ("name", .name), ("preset", preset),
    ("config", config)].lookup name

def Switch.ofName? (name : String) : Option Switch :=
  [("no-cache", noCache), ("quiet", quiet), ("help", help)].lookup name

/-- Options that name a file do not take an empty text. -/
def ValueOption.accepts (option : ValueOption) (value : String) : Bool :=
  match option with
  | .vertex | .fragment | .config => value ≠ ""
  | .name | .preset => true

def Options.set (options : Options) (option : ValueOption) (value : String) : Options :=
  match option with
  | .vertex => { options with vertex := some value }
  | .fragment => { options with fragment := some value }
  | .name => { options with name := some value }
  | .preset => { options with preset := some value }
  | .config => { options with config := value }

def Options.turnOn (options : Options) : Switch → Options
  | .noCache => { options with noCache := true }
  | .quiet => { options with quiet := true }
  | .help => options

/-- An argument by its form. -/
inductive Argument where
  /-- Two hyphens alone: no option follows. -/
  | separator
  /-- A name behind two hyphens, and the text behind an equals sign. -/
  | long (name : String) (value : Option String)
  /-- Letters behind one hyphen. -/
  | short (letters : List Char)
  | plain (text : String)
deriving Repr, DecidableEq

def Argument.ofString (text : String) : Argument :=
  match text.toList with
  | ['-', '-'] => .separator
  | '-' :: '-' :: rest =>
      .long (String.ofList (rest.takeWhile (· != '=')))
        (match rest.dropWhile (· != '=') with
        | _ :: value => some (String.ofList value)
        | [] => none)
  | '-' :: letter :: rest => .short (letter :: rest)
  | _ => .plain text

/-- What was read so far. -/
structure Reading where
  options : Options := {}
  /-- The options that were given. -/
  given : List ValueOption := []
  switches : List Switch := []
  /-- The option whose value comes next. -/
  pending : Option ValueOption := none
deriving Repr, DecidableEq

namespace Reading

def take (reading : Reading) (option : ValueOption) (value : String) : Except Request Reading :=
  if option ∈ reading.given ∨ option.accepts value = false then .error .usage
  else
    .ok { reading with
      options := reading.options.set option value
      given := option :: reading.given
      pending := none }

def switch (reading : Reading) (switch : Switch) : Except Request Reading :=
  if switch = .help then .error .help
  else if switch ∈ reading.switches then .error .usage
  else
    .ok { reading with
      options := reading.options.turnOn switch
      switches := switch :: reading.switches }

/-- Takes in a name behind two hyphens. -/
def long (reading : Reading) (name : String) (value : Option String) :
    Except Request Reading :=
  match ValueOption.ofName? name, Switch.ofName? name, value with
  | some option, _, some value => reading.take option value
  | some option, _, none => .ok { reading with pending := some option }
  | none, some switch, none => reading.switch switch
  | none, _, _ => .error .usage

/-- Takes in an argument.  It fails with the request that is decided then. -/
def argument (reading : Reading) (text : String) : Except Request Reading :=
  match reading.pending, Argument.ofString text with
  | some option, .plain value => reading.take option value
  | none, .long name value => reading.long name value
  | none, .short letters => .error (if letters.head? = some 'h' then .help else .usage)
  | _, _ => .error .usage

/-- Takes in all arguments.  Nothing may follow a separator. -/
def all (reading : Reading) : List String → Request
  | [] => if reading.pending.isSome then .usage else .run reading.options
  | text :: rest =>
      if Argument.ofString text = .separator then
        if reading.pending.isSome ∨ rest ≠ [] then .usage else .run reading.options
      else
        match reading.argument text with
        | .error request => request
        | .ok next => next.all rest

end Reading

def Request.ofArguments (arguments : List String) : Request :=
  Reading.all {} arguments

def helpText : String :=
  "Transpile and reflect a shader pair\n\n" ++
  "Usage: " ++ toolName ++ " [OPTIONS]\n\n" ++
  "Options:\n" ++
  "      --vertex <VERTEX>      Vertex stage source\n" ++
  "      --fragment <FRAGMENT>  Fragment stage source\n" ++
  "      --name <NAME>          Program name, used for diagnostics and the cache file\n" ++
  "      --preset <PRESET>      Driver preset: gl21, gl33, gl41, gles2 or gles3. " ++
    "Overrides the config\n" ++
  "      --config <CONFIG>      RON configuration file [default: shader-lab.ron]\n" ++
  "      --no-cache             Never read or write the binary cache\n" ++
  "      --quiet                Print only the reflection summary, not the rewritten text\n" ++
  "  -h, --help                 Print help\n"

end ShaderPipeline.CommandLine
