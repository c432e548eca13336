import ShaderWeave.Device.Basic
import ShaderWeave.Program.Blueprint

/-!
# Linked programs

A device makes a program from the texts of its stages: each is compiled, all are attached and
linked, and **the shaders are given back in every case.**  The linked program is asked where its
uniforms and blocks are.  A resource the device does not know was optimized out: it has no record,
and nothing needs to be bound for it.

* `Program` — a linked program and what has to be bound before it is used.
* `build` — from texts to a linked program object.
* `query` — the places of the resources.
* `SourceLists.collect` — what the program needs from outside: used up, changed, or read.
-/

namespace ShaderWeave

/-- A plain uniform, and where it is. -/
structure UniformRecord where
  property : Property
  location : Nat
deriving DecidableEq, Repr

/-- A property that is bound through a binding point. -/
structure BindingRecord where
  property : Property
  /-- The location of a sampler, or the index of a block. -/
  location : Nat
  binding : Nat
deriving DecidableEq, Repr

/-- Where the resources of a linked program are. -/
structure LinkedStorage where
  uniforms : List UniformRecord := []
  samplers : List BindingRecord := []
  uniformBlocks : List BindingRecord := []
  storageBlocks : List BindingRecord := []
  /-- Properties that were optimized out. -/
  eliminated : List String := []

/-- What a program needs from outside. -/
structure SourceLists where
  inputs : PropertyList := .empty
  filters : PropertyList := .empty
  consuming : PropertyList := .empty

/-- A linked program. -/
structure Program where
  name : ProgramName
  needs : SourceLists
  outputs : PropertyList
  /-- Vertex components that the vertex stage reads. -/
  vertexComponents : PropertyList
  storage : LinkedStorage

/-! ## Building -/

/-- A device at work, and what is reported of it. -/
structure Site (σ : Type) where
  device : σ
  events : List Event := []

/-- Work on a device. -/
abbrev Building (σ : Type) := EStateM ShaderError (Site σ)

namespace Building

variable {σ : Type} [Device σ]

/-- Asks the device. -/
def request {α : Type} (request : Request α) : Building σ α := fun site =>
  let (answer, device) := ask request site.device
  .ok answer { site with device }

/-- Reports an event. -/
def report (event : Event) : Building σ Unit :=
  modify fun site => { site with events := site.events ++ [event] }

/-- Gives shaders back. -/
def release (shaders : List ShaderName) : Building σ Unit :=
  shaders.forM fun shader => request (.deleteShader shader)

/-- Compiles the text of a stage.  `made` are the shaders before it; they are given back if it
fails. -/
def compileStage (made : List ShaderName) (text : Stage × String) :
    Building σ (List ShaderName) := do
  match ← request (.createShader text.1) with
  | .error message =>
    release made
    throw (.device .shader message)
  | .ok shader =>
    let shaders := made ++ [shader]
    if ← request (.compileShader shader text.2) then
      report (.shaderCompiled text.1)
      return shaders
    else
      let log ← request (.shaderLog shader)
      report (.shaderRejected text.1 log text.2)
      release shaders
      throw (.compile ⟨some text.1, log⟩)

/-- Links shaders into a program and gives them back. -/
def linkShaders (shaders : List ShaderName) : Building σ ProgramName := do
  match ← request .createProgram with
  | .error message =>
    release shaders
    throw (.device .program message)
  | .ok program =>
    shaders.forM fun shader => request (.attachShader program shader)
    let linked ← request (.linkProgram program)
    shaders.forM fun shader => request (.detachShader program shader)
    release shaders
    if linked then
      report (.programLinked shaders.length)
      return program
    else
      let log ← request (.programLog program)
      report (.programRejected log)
      request (.deleteProgram program)
      throw (.link ⟨none, log⟩)

/-- Makes a program from the texts of its stages. -/
def build (texts : List (Stage × String)) : Building σ ProgramName := do
  let shaders ← texts.foldlM compileStage []
  linkShaders shaders

/-! ## Querying -/

/-- Asks where the uniforms are. -/
def queryUniform (program : ProgramName) (linked : LinkedStorage) (property : Property) :
    Building σ LinkedStorage := do
  match ← request (.uniformLocation program (Mark.uniform ++ property.name)) with
  | some location => return { linked with uniforms := linked.uniforms ++ [⟨property, location⟩] }
  | none =>
    report (.optimizedOut property.name)
    return { linked with eliminated := linked.eliminated ++ [property.name] }

/-- Asks where the properties of a class are; those without a place are listed apart. -/
def queryBindings (storage : ProgramStorage) (locate : String → Request (Option Nat))
    (properties : List Property) : Building σ (List BindingRecord × List String) :=
  properties.foldlM
    (fun found property => do
      let location ← request (locate property.name)
      match location, storage.binding? property.name with
      | some location, some binding =>
        return (found.1 ++ [⟨property, location, binding⟩], found.2)
      | _, _ => return (found.1, found.2 ++ [property.name])) ([], [])

/-- Asks a linked program for the places of its resources. -/
def query (program : ProgramName) (storage : ProgramStorage) : Building σ LinkedStorage := do
  let linked ← storage.uniforms.entries.foldlM (queryUniform program) {}
  let samplers ← queryBindings storage
    (fun name => .uniformLocation program (Mark.sampler ++ name)) storage.samplers.entries
  let uniformBlocks ← queryBindings storage
    (fun name => .blockIndex .uniform program (Mark.uniformBlock ++ name))
    storage.uniformBlocks.entries
  let storageBlocks ← queryBindings storage
    (fun name => .blockIndex .storage program (Mark.storageBlock ++ name))
    storage.storageBlocks.entries
  let lost := samplers.2 ++ uniformBlocks.2 ++ storageBlocks.2
  lost.forM fun name => report (.optimizedOut name)
  return { linked with
    samplers := samplers.1
    uniformBlocks := uniformBlocks.1
    storageBlocks := storageBlocks.1
    eliminated := linked.eliminated ++ lost }

end Building

/-! ## What a program needs -/

namespace SourceLists

/-- Adds a property from outside to its list.  Being used up by any stage counts most, then being
changed by any. -/
def add (plans : List StagePlan) (lists : SourceLists) (property : Property) : SourceLists :=
  let name := property.name
  if plans.any fun plan => plan.pipeline.consuming.contains name then
    { lists with consuming := lists.consuming.insert property }
  else if plans.any fun plan =>
      plan.pipeline.filter.contains name || plan.pipeline.output.contains name then
    { lists with filters := lists.filters.insert property }
  else { lists with inputs := lists.inputs.insert property }

/-- What the stages need from outside: every token, and every property with a storage class that was
not optimized out. -/
def collect (plans : List StagePlan) (program : ProgramStorage) (linked : LinkedStorage) :
    SourceLists :=
  let sources := plans.flatMap fun plan => plan.pipeline.sourceProperties
  let needed := sources.filter fun property =>
    property.isVoid ||
      ((program.class? property.name).isSome && !linked.eliminated.contains property.name)
  needed.foldl (add plans) {}

end SourceLists

/-- Makes a program from its blueprint. -/
def Building.program {σ : Type} [Device σ] (blueprint : Blueprint) (desired : PropertyList) :
    Building σ Program := do
  let name ← build blueprint.texts
  let linked ← query name blueprint.program
  return {
    name
    needs := .collect blueprint.plans blueprint.program linked
    outputs := desired
    vertexComponents := blueprint.program.vertexComponents
    storage := linked }

end ShaderWeave
