import ShaderPipeline.Device
import ShaderPipeline.SortedNames

/-!
# Reflection

What a program's uniforms are is known after linking.  Samplers get texture
units in the order in which the driver reports them; the other uniforms get
slots in the order of their names.
-/

namespace ShaderPipeline

/-- A sampler and the texture unit that it reads. -/
structure SamplerEntry where
  name : String
  unit : UInt32
deriving Repr, DecidableEq

/-- A uniform that takes uploads. -/
structure UniformEntry where
  /-- The name without an array suffix. -/
  name : String
  location : UniformLocation
  type : UniformType
  /-- The number of array elements, one without an array. -/
  count : Int32
deriving Repr, DecidableEq

/-- The samplers and the other uniforms of a linked program. -/
structure Reflection where
  samplers : List SamplerEntry := []
  uniforms : List UniformEntry := []
deriving Repr, DecidableEq

namespace Reflection

def findUniform? (table : Reflection) (name : String) : Option ConstantSlot :=
  (SortedNames.position? UniformEntry.name table.uniforms name).map fun position =>
    ⟨Int32.ofNat position⟩

def uniform? (table : Reflection) (slot : ConstantSlot) : Option UniformEntry :=
  slot.index?.bind fun index => table.uniforms[index]?

def samplerUnit? (table : Reflection) (name : String) : Option UInt32 :=
  (SortedNames.position? SamplerEntry.name table.samplers name).bind fun position =>
    table.samplers[position]?.map (·.unit)

/-- Both tables in the order of their names. -/
def sorted (table : Reflection) : Reflection :=
  { samplers := SortedNames.sort SamplerEntry.name table.samplers
    uniforms := SortedNames.sort UniformEntry.name table.uniforms }

/-- Names with this beginning belong to the driver. -/
def isReserved (name : String) : Bool :=
  "gl_".toList.isPrefixOf name.toList

/-- The suffix by which an array is reported. -/
def firstElement : List Char := "[0]".toList

/-- The name of an array that is reported by its first element. -/
def arrayName? (name : String) : Option String :=
  let characters := name.toList
  if firstElement.isSuffixOf characters then
    some (String.ofList (characters.take (characters.length - firstElement.length)))
  else none

/-- The samplers that a reported one stands for: every element of an array. -/
def samplerNames (uniform : ActiveUniform) : List String :=
  match arrayName? uniform.name with
  | some base =>
      if 1 < uniform.size then
        (List.range uniform.size.toInt.toNat).map fun element =>
          base ++ "[" ++ Nat.repr element ++ "]"
      else [uniform.name]
  | none => [uniform.name]

/-- The name of a uniform without the suffix of a first element.  Names with
any other bracket have none. -/
def baseName? (name : String) : Option String :=
  let suffix := name.toList.dropWhile (· != '[')
  if suffix = [] then some name
  else if suffix = firstElement then
    some (String.ofList (name.toList.takeWhile (· != '[')))
  else none

variable {δ : Type} [ShaderDevice δ]

/-- Gives a sampler the next texture unit. -/
def addSampler (program : ProgramId) (table : Reflection) (name : String) :
    Action δ Reflection := do
  let unit := table.samplers.length.toUInt32
  match ShaderDevice.uniformLocation (← Action.get) program name with
  | some location => ShaderDevice.setUniform location (.int 1 [unit.toInt32])
  | none => Action.note .debug ("ReflectionTable: sampler '" ++ name ++ "' has no location")
  return { table with samplers := table.samplers ++ [⟨name, unit⟩] }

/-- Adds a uniform that is not a sampler. -/
def addUniform (program : ProgramId) (table : Reflection) (uniform : ActiveUniform) :
    Action δ Reflection := do
  match baseName? uniform.name with
  | none => return table
  | some name =>
      match ShaderDevice.uniformLocation (← Action.get) program name with
      | some location =>
          return { table with
            uniforms := table.uniforms ++ [⟨name, location, uniform.type, uniform.size⟩] }
      | none =>
          Action.note .debug ("ReflectionTable: uniform '" ++ name ++ "' has no location")
          return table

/-- Adds what the driver reports as one uniform. -/
def addActive (program : ProgramId) (table : Reflection) (uniform : ActiveUniform) :
    Action δ Reflection :=
  if isReserved uniform.name then return table
  else if uniform.type.isSampler then
    Action.foldl (addSampler program) table (samplerNames uniform)
  else addUniform program table uniform

/-- Enumerates the uniforms of a linked program and sets its samplers to their
units.  The program is current afterwards. -/
def build (program : ProgramId) : Action δ Reflection := do
  ShaderDevice.useProgram (some program)
  let uniforms ← Action.read (ShaderDevice.activeUniforms · program)
  let table := (← Action.foldl (addActive program) {} uniforms).sorted
  Action.note .trace
    ("ReflectionTable: " ++ Nat.repr table.samplers.length ++ " samplers, " ++
      Nat.repr table.uniforms.length ++ " uniforms")
  return table

end Reflection

end ShaderPipeline
