import ShaderWeave.Program.Linked

/-!
# Binding values to a program

Before a program is used, the values of its properties are handed to the device: uniforms first, then
textures, uniform blocks and storage blocks.  A property without a value is passed over.  Each value goes
through the setter of its type, which does with the device what it likes.  The first value that cannot be
bound ends the work; **what was bound before it stays bound.**

Values may come from two sources.  A material goes before the environment (`Binding.all`), and the two
can be bound apart: `Binding.material` binds what the material has, `Binding.environment` what only
the environment has.
-/

namespace ShaderWeave

/-- A source of values, by property name. -/
abbrev ValueSource := String → Option Value

/-- Values of the material, else of the environment. -/
def ValueSource.preferring (material environment : ValueSource) : ValueSource := fun name =>
  (material name).or (environment name)

/-- Values of the environment for what the material does not have. -/
def ValueSource.without (environment material : ValueSource) : ValueSource := fun name =>
  if (material name).isSome then none else environment name

/-- Work on a device that binds values. -/
abbrev Binding (σ : Type) := EStateM BindError σ

namespace Binding

variable {σ : Type} [Device σ]

/-- Tells the device what to use. -/
def call (call : BindCall) : Binding σ Unit := fun device => .ok () (ask (.bind call) device).2

/-- Lets a setter do its work. -/
def perform (name : String) (action : DeviceAction (Except SetterError Unit)) : Binding σ Unit :=
  fun device =>
    match action.run device with
    | (.ok _, device) => .ok () device
    | (.error reason, device) => .error (.property name reason) device

/-- Binds a value through a setter, which has to be there. -/
def bindValue (name : String) (cls : StorageClass) (setter : Option Setter) (place : Nat)
    (value : Value) : Binding σ Unit :=
  match setter with
  | none => throw (.missingSetter name cls)
  | some setter => perform name (setter place value)

/-- Binds a uniform. -/
def bindUniform (registry : Registry) (values : ValueSource) (record : UniformRecord) :
    Binding σ Unit :=
  match values record.property.name with
  | none => pure ()
  | some value =>
    let setter := (registry.lookup? record.property.type).bind Conversion.uniform
    bindValue record.property.name .uniform setter record.location value

/-- Binds a property through a binding point. -/
def bindRecord (registry : Registry) (values : ValueSource) (cls : StorageClass)
    (setter : Conversion → Option Setter) (record : BindingRecord) : Binding σ Unit :=
  match values record.property.name with
  | none => pure ()
  | some value =>
    let setter := (registry.lookup? record.property.type).bind setter
    bindValue record.property.name cls setter record.binding value

/-- Binds all values that a source has. -/
def bindValues (program : Program) (registry : Registry) (values : ValueSource) :
    Binding σ Unit := do
  let storage := program.storage
  storage.uniforms.forM (bindUniform registry values)
  storage.samplers.forM (bindRecord registry values .sampler Conversion.sampler)
  storage.uniformBlocks.forM (bindRecord registry values .uniformBlock Conversion.uniformBlock)
  storage.storageBlocks.forM (bindRecord registry values .storageBlock Conversion.storageBlock)

/-- Makes a program the one in use and binds all its properties, those of the material first. -/
def all (program : Program) (registry : Registry) (environment : ValueSource)
    (material : Option ValueSource) : Binding σ Unit := do
  call (.program (some program.name))
  let values := match material with
    | some material => material.preferring environment
    | none => environment
  bindValues program registry values

/-- Binds what the material has; the program has to be in use. -/
def material (program : Program) (registry : Registry) (material : ValueSource) :
    Binding σ Unit :=
  bindValues program registry material

/-- Binds what the environment has and the material has not; the program has to be in use. -/
def environment (program : Program) (registry : Registry) (environment material : ValueSource) :
    Binding σ Unit :=
  bindValues program registry (environment.without material)

end Binding

end ShaderWeave
