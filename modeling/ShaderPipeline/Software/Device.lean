import ShaderPipeline.Device
import ShaderPipeline.Registry
import ShaderPipeline.Software.Binary
import ShaderPipeline.Software.Source
import ShaderPipeline.Text.Hex

/-!
# The software device

A shader device that needs no graphics hardware.  A stage compiles unless it
holds an `#error` directive, and the uniforms of a program are those that its
linked texts declare.  A binary is the linked text.  Uploads and texture
bindings are recorded, so that they can be looked at.
-/

namespace ShaderPipeline.Software

/-- The tag of the binaries that the device writes and reads by default. -/
def defaultBinaryFormat : UInt32 := 0x474C0001

/-- An upload that the device accepted. -/
structure Upload where
  /-- The program that was current. -/
  program : ProgramId
  location : UniformLocation
  value : UniformValue
deriving Repr, DecidableEq

structure StageObject where
  stage : Stage
  source : String := ""
  compiled : Bool := false
  log : String := ""
deriving Repr, DecidableEq

/-- A stage as it was when it was attached to a program. -/
structure AttachedStage where
  stage : Stage
  source : String
  compiled : Bool
deriving Repr, DecidableEq

/-- The uniforms of linked texts and their locations. -/
structure UniformLayout where
  uniforms : List ActiveUniform := []
  locations : List (String × UniformLocation) := []
  /-- The first location that is not taken. -/
  next : UInt32 := 0
deriving Repr, DecidableEq

namespace UniformLayout

def location? (layout : UniformLayout) (name : String) : Option UniformLocation :=
  layout.locations.lookup name

def elementName (name : String) (element : Nat) : String :=
  name ++ "[" ++ Nat.repr element ++ "]"

/-- The names of the elements of an array with their locations; without an
array there are none. -/
def elementLocations (declared : DeclaredUniform) (start : UInt32) :
    List (String × UniformLocation) :=
  if 1 < declared.size then
    (List.range declared.size.toNat).map fun element =>
      (elementName declared.name element, ⟨start + element.toUInt32⟩)
  else []

/-- Adds a declared uniform, unless its name is taken.  An array takes one
location per element and is reported by its first one. -/
def add (layout : UniformLayout) (declared : DeclaredUniform) : UniformLayout :=
  if (layout.location? declared.name).isSome then layout
  else
    { uniforms := layout.uniforms ++
        [{ name :=
            if 1 < declared.size then elementName declared.name 0 else declared.name
           size := declared.size.toInt32
           type := declared.type }]
      locations := layout.locations ++
        ((declared.name, ⟨layout.next⟩) :: elementLocations declared layout.next)
      next := layout.next + declared.size }

/-- The layout of linked texts: uniforms in the order of their declarations. -/
def ofStages (stages : List (Stage × String)) : UniformLayout :=
  (stages.flatMap fun stage => declaredUniforms stage.2).foldl add {}

end UniformLayout

structure ProgramObject where
  attached : List AttachedStage := []
  attributes : List (UInt32 × String) := []
  fragmentData : List (UInt32 × String) := []
  /-- The texts that the program was last linked from. -/
  linkedStages : List (Stage × String) := []
  linked : Bool := false
  log : String := ""
  layout : UniformLayout := {}
  values : Registry UniformLocation UniformValue := {}
deriving Repr, DecidableEq

namespace ProgramObject

/-- Replaces the program's texts; values that were uploaded before are gone. -/
def relink (program : ProgramObject) (stages : List (Stage × String)) : ProgramObject :=
  { program with
    linkedStages := stages
    linked := true
    log := ""
    layout := .ofStages stages
    values := {} }

/-- The program after a link or load that failed. -/
def refuse (program : ProgramObject) (log : String) : ProgramObject :=
  { program with linked := false, log := log }

/-- Why the attached stages cannot be linked. -/
def linkFault? (program : ProgramObject) (failLinks : Bool) : Option String :=
  if failLinks then some "error: link rejected by the headless driver"
  else if program.attached.isEmpty then some "error: no shader stages attached"
  else if program.attached.any (!·.compiled) then
    some "error: an attached stage was not compiled"
  else none

def link (program : ProgramObject) (failLinks : Bool) : ProgramObject :=
  match program.linkFault? failLinks with
  | some fault => program.refuse fault
  | none => program.relink (program.attached.map fun stage => (stage.stage, stage.source))

/-- Takes the texts out of a binary. -/
def load (program : ProgramObject) (expected : UInt32) (binary : ProgramBinary) :
    ProgramObject :=
  if binary.format ≠ expected then
    program.refuse ("error: binary format " ++ Text.hex binary.format ++
      " is not supported (expected " ++ Text.hex expected ++ ")")
  else
    match decodeStages? binary.payload with
    | none => program.refuse "error: corrupt program binary"
    | some stages => program.relink stages

end ProgramObject

structure Device where
  capabilities : Capabilities := .gl33
  binaryFormat : UInt32 := defaultBinaryFormat
  /-- Every link fails. -/
  failLinks : Bool := false
  nextId : UInt32 := 1
  stages : Registry StageId StageObject := {}
  programs : Registry ProgramId ProgramObject := {}
  current : Option ProgramId := none
  /-- How often a stage was compiled. -/
  compileCount : Nat := 0
  uploads : List Upload := []
  textures : List (UInt32 × TextureId) := []
deriving Repr, DecidableEq

namespace Device

def creationEvent (caps : Capabilities) : LogEvent :=
  ⟨.trace, "HeadlessDevice: created for GLSL '" ++ caps.versionText ++ "'"⟩

/-- The attribute bindings of a program, in call order. -/
def attributesOf (device : Device) (program : ProgramId) : List (UInt32 × String) :=
  ((device.programs.find? program).map (·.attributes)).getD []

/-- The fragment data bindings of a program, in call order. -/
def fragmentDataOf (device : Device) (program : ProgramId) : List (UInt32 × String) :=
  ((device.programs.find? program).map (·.fragmentData)).getD []

def linkedSource? (device : Device) (program : ProgramId) (stage : Stage) : Option String :=
  (device.programs.find? program).bind fun object =>
    (object.linkedStages.find? (·.1 == stage)).map (·.2)

/-- The last value uploaded to a uniform. -/
def uniformValue? (device : Device) (program : ProgramId) (name : String) :
    Option UniformValue :=
  (device.programs.find? program).bind fun object =>
    (object.layout.location? name).bind object.values.find?

/-- The recorded uploads, which are then forgotten. -/
def takeUploads : Action Device (List Upload) := do
  let uploads ← Action.read (·.uploads)
  Action.modify fun device => { device with uploads := [] }
  return uploads

/-- Lets every following link fail, or no longer. -/
def setFailLinks (fail : Bool) : Action Device Unit :=
  Action.modify fun device => { device with failLinks := fail }

/-- A number that no object has had. -/
def allocate : Action Device UInt32 := do
  let id ← Action.read (·.nextId)
  Action.modify fun device => { device with nextId := id + 1 }
  return id

def adjustProgram (program : ProgramId) (change : ProgramObject → ProgramObject) :
    Action Device Unit :=
  Action.modify fun device =>
    { device with programs := device.programs.adjust program change }

def createStage (stage : Stage) : Action Device (Except ShaderError StageId) := do
  let id : StageId := ⟨← allocate⟩
  Action.modify fun device =>
    { device with stages := device.stages.insert id { stage := stage } }
  return .ok id

/-- A stage object with its text compiled. -/
def compiled (object : StageObject) (source : String) : StageObject :=
  match errorDirective? source with
  | some (line, message) =>
      { object with
        source := source
        compiled := false
        log := "ERROR: 0:" ++ Nat.repr line ++ ": '#error' : " ++ message }
  | none => { object with source := source, compiled := true, log := "" }

/-- Gives a stage object its text and compiles it. -/
def compileStage (id : StageId) (source : String) : Action Device Bool := do
  Action.modify fun device => { device with compileCount := device.compileCount + 1 }
  match (← Action.get).stages.find? id with
  | none =>
      Action.note .warn ("HeadlessDevice: compile of unknown stage " ++ id.label)
      return false
  | some object =>
      let result := compiled object source
      Action.modify fun device => { device with stages := device.stages.adjust id fun _ => result }
      Action.note .trace
        ("HeadlessDevice: compiled " ++ result.stage.word ++ " stage " ++ id.label ++ ": " ++
          (if result.compiled then "true" else "false"))
      return result.compiled

def stageLog (device : Device) (id : StageId) : String :=
  ((device.stages.find? id).map (·.log)).getD ""

def deleteStage (id : StageId) : Action Device Unit := do
  if (← Action.get).stages.contains id then
    Action.modify fun device => { device with stages := device.stages.erase id }
    Action.note .trace ("HeadlessDevice: deleted stage " ++ id.label)

def createProgram : Action Device (Except ShaderError ProgramId) := do
  let id : ProgramId := ⟨← allocate⟩
  Action.modify fun device => { device with programs := device.programs.insert id {} }
  return .ok id

/-- Releases a program object.  The current program is then none. -/
def deleteProgram (id : ProgramId) : Action Device Unit := do
  if (← Action.get).programs.contains id then
    Action.modify fun device =>
      { device with
        programs := device.programs.erase id
        current := if device.current = some id then none else device.current }
    Action.note .trace ("HeadlessDevice: deleted program " ++ id.label)

/-- Adds a stage, as it is now, to a program. -/
def attachStage (program : ProgramId) (stage : StageId) : Action Device Unit := do
  let device ← Action.get
  match device.programs.find? program, device.stages.find? stage with
  | some _, some object =>
      adjustProgram program fun entry =>
        { entry with
          attached := entry.attached ++ [⟨object.stage, object.source, object.compiled⟩] }
  | _, _ =>
      Action.note .warn ("HeadlessDevice: attach of unknown object to " ++ program.label)

def bindAttribute (program : ProgramId) (location : UInt32) (name : String) :
    Action Device Unit :=
  adjustProgram program fun entry =>
    { entry with attributes := entry.attributes ++ [(location, name)] }

def bindFragmentData (program : ProgramId) (location : UInt32) (name : String) :
    Action Device Unit :=
  adjustProgram program fun entry =>
    { entry with fragmentData := entry.fragmentData ++ [(location, name)] }

def linkStatus (device : Device) (program : ProgramId) : Bool :=
  ((device.programs.find? program).map (·.linked)).getD false

def linkProgram (program : ProgramId) : Action Device Bool := do
  let failLinks ← Action.read (·.failLinks)
  adjustProgram program (·.link failLinks)
  Action.read (linkStatus · program)

def programLog (device : Device) (program : ProgramId) : String :=
  ((device.programs.find? program).map (·.log)).getD ""

/-- The texts of a linked program in exported form. -/
def programBinary (device : Device) (program : ProgramId) : Option ProgramBinary :=
  if device.capabilities.programBinary then
    match device.programs.find? program with
    | some object =>
        if object.linked then some ⟨device.binaryFormat, encodeStages object.linkedStages⟩
        else none
    | none => none
  else none

def loadBinary (program : ProgramId) (binary : ProgramBinary) : Action Device Bool := do
  let format ← Action.read (·.binaryFormat)
  adjustProgram program (·.load format binary)
  Action.read (linkStatus · program)

def activeUniforms (device : Device) (program : ProgramId) : List ActiveUniform :=
  ((device.programs.find? program).map (·.layout.uniforms)).getD []

/-- The location of a uniform by its full name. -/
def uniformLocation (device : Device) (program : ProgramId) (name : String) :
    Option UniformLocation :=
  (device.programs.find? program).bind (·.layout.location? name)

/-- Makes a program the current one.  A program that is not linked is ignored. -/
def useProgram (program : Option ProgramId) : Action Device Unit := do
  match program with
  | none => Action.modify fun device => { device with current := none }
  | some id =>
      if linkStatus (← Action.get) id then
        Action.modify fun device => { device with current := some id }
      else
        Action.note .warn ("HeadlessDevice: use of unlinked program " ++ id.label ++ " ignored")

def setUniform (location : UniformLocation) (value : UniformValue) : Action Device Unit := do
  match (← Action.get).current with
  | none => Action.note .warn "HeadlessDevice: uniform upload with no program in use"
  | some program =>
      adjustProgram program fun entry =>
        { entry with values := entry.values.insert location value }
      Action.modify fun device =>
        { device with uploads := device.uploads ++ [⟨program, location, value⟩] }

def bindTexture (unit : UInt32) (texture : TextureId) : Action Device Unit :=
  Action.modify fun device => { device with textures := device.textures ++ [(unit, texture)] }

instance : ShaderDevice Device where
  capabilities := capabilities
  createStage := createStage
  compileStage := compileStage
  stageLog := stageLog
  deleteStage := deleteStage
  createProgram := createProgram
  deleteProgram := deleteProgram
  attachStage := attachStage
  bindAttribute := bindAttribute
  bindFragmentData := bindFragmentData
  linkProgram := linkProgram
  linkStatus := linkStatus
  programLog := programLog
  programBinary := programBinary
  loadBinary := loadBinary
  activeUniforms := activeUniforms
  uniformLocation := uniformLocation
  useProgram := useProgram
  setUniform := setUniform
  bindTexture := bindTexture

end Device

end ShaderPipeline.Software
