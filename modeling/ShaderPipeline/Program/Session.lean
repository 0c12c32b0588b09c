import ShaderPipeline.BuiltIn
import ShaderPipeline.Cache.Store
import ShaderPipeline.Digest
import ShaderPipeline.Program.Link
import ShaderPipeline.Program.Statistics
import ShaderPipeline.Program.Table
import ShaderPipeline.Program.Upload

/-!
# Sessions

A session owns the programs of a device.  It makes them from source or from the
cache, binds one of them at a time, and routes constants to the bound one.
-/

namespace ShaderPipeline

/-- A linked program and all that was resolved about it when it was made. -/
structure LinkedProgram where
  name : String
  object : ProgramId
  interface : ProgramInterface
  /-- Declaration problems that were recovered from, the vertex stage first. -/
  diagnostics : List Diagnostic
  reflection : Reflection
  builtIns : BuiltInSlots
  /-- The driver took a cached binary. -/
  fromCache : Bool

structure Session (δ : Type) where
  device : δ
  /-- The files that cache entries are kept in. -/
  files : FileTree
  capabilities : Capabilities
  /-- Where binaries are cached; there is no cache if it is disabled or if the
  driver does not export binaries. -/
  cache : Option CacheSettings
  programs : ProgramTable LinkedProgram := {}
  bound : Option ProgramHandle := none
  statistics : Statistics := {}

namespace Session

variable {δ : Type}

def onDevice {α : Type} (action : Action δ α) : Action (Session δ) α :=
  Action.onPart (·.device) (fun session device => { session with device := device }) action

def onFiles {α : Type} (action : Action FileTree α) : Action (Session δ) α :=
  Action.onPart (·.files) (fun session files => { session with files := files }) action

def count (change : Statistics → Statistics) : Action (Session δ) Unit :=
  Action.modify fun session => { session with statistics := change session.statistics }

/-- Counts the programs that are there. -/
def countLive : Action (Session δ) Unit :=
  Action.modify fun session =>
    { session with
      statistics := { session.statistics with live := session.programs.live } }

def boundProgram? (session : Session δ) : Option LinkedProgram :=
  session.bound.bind session.programs.get?

def program? (session : Session δ) (handle : ProgramHandle) : Option LinkedProgram :=
  session.programs.get? handle

def constantSlot? (session : Session δ) (handle : ProgramHandle) (name : String) :
    Option ConstantSlot :=
  (session.program? handle).bind (·.reflection.findUniform? name)

def samplerUnit? (session : Session δ) (handle : ProgramHandle) (name : String) :
    Option UInt32 :=
  (session.program? handle).bind (·.reflection.samplerUnit? name)

/-- The built-in slots of a program, of which a stale handle has none. -/
def builtIns (session : Session δ) (handle : ProgramHandle) : BuiltInSlots :=
  ((session.program? handle).map (·.builtIns)).getD .unresolved

variable [ShaderDevice δ]

def canCache (device : δ) (cache : CacheSettings) : Bool :=
  cache.enabled && (ShaderDevice.capabilities device).programBinary

/-- A session over a device, for the dialect that the device reports. -/
def start (device : δ) (files : FileTree) (cache : CacheSettings) : Session δ where
  device := device
  files := files
  capabilities := ShaderDevice.capabilities device
  cache := if canCache device cache then some cache else none

def startEvents (device : δ) (cache : CacheSettings) : List LogEvent :=
  (if canCache device cache then [] else [⟨.debug, "ProgramAgent: binary cache disabled"⟩]) ++
    [Dialect.targetEvent (ShaderDevice.capabilities device)]

/-- Puts a cached binary into a program object.  Any failure is a miss. -/
def restore (name : String) (key : UInt32) (object : ProgramId) : Action (Session δ) Bool := do
  match ← Action.read (·.cache) with
  | none => return false
  | some settings =>
      match ← onFiles (ProgramCache.load settings name key) with
      | .error failure =>
          Action.note .debug
            ("ProgramAgent: cache miss for '" ++ name ++ "': " ++ failure.message)
          return false
      | .ok none =>
          Action.note .debug ("ProgramAgent: no cached binary for '" ++ name ++ "'")
          return false
      | .ok (some binary) =>
          let loaded ← onDevice (ShaderDevice.loadBinary object binary)
          if loaded && ShaderDevice.linkStatus (← Action.read (·.device)) object then
            Action.note .debug ("ProgramAgent: restored '" ++ name ++ "' from the binary cache")
            return true
          else
            Action.note .debug
              ("ProgramAgent: driver rejected the cached binary of '" ++ name ++ "'")
            return false

/-- Caches the binary of a program object, if there is one. -/
def keep (name : String) (key : UInt32) (object : ProgramId) : Action (Session δ) Unit := do
  match ← Action.read (·.cache) with
  | none => return ()
  | some settings =>
      match ShaderDevice.programBinary (← Action.read (·.device)) object with
      | none =>
          Action.note .debug ("ProgramAgent: driver returned no binary for '" ++ name ++ "'")
      | some binary =>
          match ← onFiles (ProgramCache.store settings name key binary) with
          | .ok _ => return ()
          | .error failure =>
              Action.note .warn
                ("ProgramAgent: failed to cache '" ++ name ++ "': " ++ failure.message)

/-- The counters after a creation that failed while compiling or linking. -/
def countFailure (failure : ShaderError) (statistics : Statistics) : Statistics :=
  match failure with
  | .compilationFailed .. =>
      { statistics with compileFailures := statistics.compileFailures + 1 }
  | .linkFailed .. => { statistics with linkFailures := statistics.linkFailures + 1 }
  | _ => statistics

/-- Compiles a program into a program object, which is released if that fails. -/
def compile (name : String) (program : Dialect.RecastProgram) (object : ProgramId) :
    Action (Session δ) (Except ShaderError Unit) := do
  let caps ← Action.read (·.capabilities)
  match ← onDevice (program.compileAndLink caps name object) with
  | .ok _ => return .ok ()
  | .error failure =>
      count (countFailure failure)
      onDevice (ShaderDevice.deleteProgram object)
      return .error failure

/-- Fills a program object from the cache or from source.  The answer tells
whether the cache served. -/
def fill (name : String) (program : Dialect.RecastProgram) (object : ProgramId) :
    Action (Session δ) (Except ShaderError Bool) := do
  let key := programKey program.vertex program.fragment
  if ← restore name key object then
    count fun statistics => { statistics with cacheHits := statistics.cacheHits + 1 }
    return .ok true
  else
    count fun statistics => { statistics with cacheMisses := statistics.cacheMisses + 1 }
    match ← compile name program object with
    | .error failure => return .error failure
    | .ok _ =>
        keep name key object
        return .ok false

/-- Takes a linked program object into the table.  The program that was current
stays so. -/
def adopt (name : String) (program : Dialect.RecastProgram) (object : ProgramId)
    (fromCache : Bool) : Action (Session δ) ProgramHandle := do
  let reflection ← onDevice (Reflection.build object)
  let current := (← Action.get).boundProgram?.map (·.object)
  onDevice (ShaderDevice.useProgram current)
  let linked : LinkedProgram :=
    { name := name
      object := object
      interface := program.interface
      diagnostics := program.diagnostics
      reflection := reflection
      builtIns := .resolve reflection.findUniform? reflection.samplerUnit?
      fromCache := fromCache }
  let inserted := (← Action.read (·.programs)).insert linked
  Action.modify fun session => { session with programs := inserted.2 }
  count fun statistics => { statistics with created := statistics.created + 1 }
  countLive
  Action.note .debug
    ("ProgramAgent: created '" ++ name ++ "' as " ++ inserted.1.label ++ " (" ++
      (if fromCache then "cached" else "compiled") ++ ")")
  return inserted.1

def hasText (text : String) : Bool :=
  text.toList.any (!Text.isBlank ·)

/-- Makes a program.  A stage whose text is blank counts as absent. -/
def create (name : String) (vertex fragment : Option String) :
    Action (Session δ) (Except ProgramError ProgramHandle) := do
  let vertex := vertex.filter hasText
  let fragment := fragment.filter hasText
  if vertex.isNone && fragment.isNone then
    return .error (.shader (.emptySource name))
  else
    let caps ← Action.read (·.capabilities)
    Action.report (Dialect.programEvents caps name vertex fragment)
    let program := Dialect.recastProgram caps vertex fragment
    match ← onDevice ShaderDevice.createProgram with
    | .error failure => return .error (.shader failure)
    | .ok object =>
        match ← fill name program object with
        | .error failure => return .error (.shader failure)
        | .ok fromCache => return .ok (← adopt name program object fromCache)

/-- Makes a program the bound one, or none.  Binding the bound program again
does nothing. -/
def bind (handle : Option ProgramHandle) : Action (Session δ) (Except ProgramError Unit) := do
  if (← Action.read (·.bound)) = handle then
    return .ok ()
  else
    match handle with
    | none =>
        onDevice (ShaderDevice.useProgram none)
        Action.modify fun session => { session with bound := none }
        return .ok ()
    | some handle =>
        match (← Action.read (·.programs)).get? handle with
        | none => return .error (.invalidHandle handle)
        | some program =>
            onDevice (ShaderDevice.useProgram (some program.object))
            Action.modify fun session => { session with bound := some handle }
            return .ok ()

/-- Deletes a program.  The bound program is unbound first. -/
def delete (handle : ProgramHandle) : Action (Session δ) (Except ProgramError Unit) := do
  if (← Action.read (·.bound)) = some handle then
    let _ ← bind none
  match (← Action.read (·.programs)).remove? handle with
  | none => return .error (.invalidHandle handle)
  | some (program, programs) =>
      Action.modify fun session => { session with programs := programs }
      onDevice (ShaderDevice.deleteProgram program.object)
      countLive
      Action.note .debug
        ("ProgramAgent: deleted '" ++ program.name ++ "' (" ++ handle.label ++ ")")
      return .ok ()

/-- Deletes a program and warns if that fails. -/
def deleteOrWarn (handle : ProgramHandle) : Action (Session δ) Unit := do
  match ← delete handle with
  | .ok _ => return ()
  | .error failure => Action.note .warn ("ProgramAgent: " ++ failure.message)

def clear : Action (Session δ) Unit := do
  Action.forEach deleteOrWarn (← Action.read (·.programs)).handles

/-- Uploads `count` elements to a slot of the bound program.  A negative slot,
or no bound program, is not an error. -/
def setConstant (slot : ConstantSlot) (data : ConstantData) (count : UInt64)
    (rowMajor : Bool) : Action (Session δ) (Except Abort Unit) := do
  if slot.isValid then
    match (← Action.get).boundProgram? with
    | none =>
        Action.note .trace "ProgramAgent: constant set with no program bound"
        return .ok ()
    | some program =>
        match program.reflection.uniform? slot with
        | none =>
            Action.note .warn
              ("ProgramAgent: slot " ++ slot.text ++ " is out of range for '" ++
                program.name ++ "'")
            return .ok ()
        | some uniform => onDevice (uniform.upload data count rowMajor)
  else return .ok ()

/-- Uploads as many elements as a buffer covers to a uniform of the bound
program.  The answer is false if there is no such uniform. -/
def setConstantByName (name : String) (data : ConstantData) :
    Action (Session δ) (Except Abort Bool) := do
  let found := (← Action.get).boundProgram?.bind fun program =>
    (program.reflection.findUniform? name).bind fun slot =>
      ((program.reflection.uniform? slot).bind (·.elementsIn? data.length)).map fun count =>
        (slot, count)
  match found with
  | none => return .ok false
  | some (slot, count) =>
      let outcome ← setConstant slot data count.toUInt64 false
      return outcome.map fun _ => true

/-- Sets an integer or a vector of integers. -/
def setInts (slot : ConstantSlot) (values : List Int32) :
    Action (Session δ) (Except Abort Unit) :=
  setConstant slot (.ints values) 1 false

/-- Sets a number or a vector of numbers. -/
def setFloats (slot : ConstantSlot) (values : List Binary32) :
    Action (Session δ) (Except Abort Unit) :=
  setConstant slot (.floats values) 1 false

def setMatrix (slot : ConstantSlot) (rowMajor : Bool) (values : List Binary32) :
    Action (Session δ) (Except Abort Unit) :=
  setConstant slot (.floats values) 1 rowMajor

def setIntArray (slot : ConstantSlot) (count : UInt64) (values : List Int32) :
    Action (Session δ) (Except Abort Unit) :=
  setConstant slot (.ints values) count false

def setFloatArray (slot : ConstantSlot) (count : UInt64) (values : List Binary32) :
    Action (Session δ) (Except Abort Unit) :=
  setConstant slot (.floats values) count false

def setMatrixArray (slot : ConstantSlot) (rowMajor : Bool) (count : UInt64)
    (values : List Binary32) : Action (Session δ) (Except Abort Unit) :=
  setConstant slot (.floats values) count rowMajor

def bindTexture (unit : UInt32) (texture : TextureId) : Action (Session δ) Unit :=
  onDevice (ShaderDevice.bindTexture unit texture)

end Session

end ShaderPipeline
