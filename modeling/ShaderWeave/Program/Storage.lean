import ShaderWeave.Program.Plan

/-!
# Assigning storage

For each stage it is decided where every property lives and which variable holds it.

* A property from outside is a vertex attribute, a variable handed on by the stage before, or comes
  through a storage class, which is chosen once per program: uniform, sampler, uniform block or
  storage block, the first for which its type has a setter.
* A changed property is copied into a variable of its own at the start of `main`, unless it is
  changed where it is bound.  The copy is handed on if it is desired.
* A property that is only handed through is copied to the next stage, or to the result of the last.
* Outputs and inner properties get variables of their own.

The outcome is a `StageStorage`.  Its `aliases` lead from the names of tasks to variables, its
`copies` run before the first task, and its `types` are the GPU types of the stage, **dependencies
first.**
-/

namespace ShaderWeave

/-- Where every property of a stage lives, and which variable holds it. -/
structure StageStorage where
  /-- The mark of the variables that the stage before hands on. -/
  inMark : String
  inputs : PropertyList := .empty
  uniforms : PropertyList := .empty
  samplers : PropertyList := .empty
  uniformBlocks : PropertyList := .empty
  storageBlocks : PropertyList := .empty
  outputs : PropertyList := .empty
  /-- Results of tasks that stay inside `main`. -/
  inner : PropertyList := .empty
  /-- Copies of changed properties that nothing after the stage reads. -/
  innerCopies : PropertyList := .empty
  copies : List Copy := []
  /-- The variable of each property, by its name after alias choice. -/
  renames : NameMap := .empty
  /-- From the names of tasks to variables. -/
  aliases : Aliases := .empty
  types : List TypeKey := []

/-- The mark of what comes through a storage class. -/
def StorageClass.mark : StorageClass → String
  | uniform => Mark.uniform
  | sampler => Mark.sampler
  | uniformBlock => Mark.uniformContent
  | storageBlock => Mark.storageContent

namespace StageStorage

/-- Adds a property that comes through a storage class. -/
def insert (storage : StageStorage) (cls : StorageClass) (property : Property) : StageStorage :=
  match cls with
  | .uniform => { storage with uniforms := storage.uniforms.insert property }
  | .sampler => { storage with samplers := storage.samplers.insert property }
  | .uniformBlock => { storage with uniformBlocks := storage.uniformBlocks.insert property }
  | .storageBlock => { storage with storageBlocks := storage.storageBlocks.insert property }

/-- Says which variable holds a property. -/
def rename (storage : StageStorage) (name holder : String) : StageStorage :=
  { storage with renames := storage.renames.insert name holder }

/-- The variable that holds a property so far. -/
def holder (storage : StageStorage) (name : String) : String :=
  (storage.renames.get? name).getD name

/-- Copies a property into a variable at the start of `main`. -/
def copy (storage : StageStorage) (target name : String) : StageStorage :=
  { storage with copies := storage.copies ++ [⟨target, storage.holder name⟩] }

/-- Adds a property that is read from the mesh or from the stage before. -/
def addInput (storage : StageStorage) (property : Property) : StageStorage :=
  { storage with inputs := storage.inputs.insert property }

/-- Adds a property that is handed on. -/
def addOutput (storage : StageStorage) (property : Property) : StageStorage :=
  { storage with outputs := storage.outputs.insert property }

end StageStorage

/-- The stage before: the mark of what it hands on, and what it hands on. -/
structure Handover where
  mark : String
  outputs : PropertyList

/-- The mark of the inputs of a stage. -/
def StageRequest.inMark (request : StageRequest) (previous : Option Handover) : String :=
  match request.stage, previous with
  | .vertex, _ => Mark.element
  | _, none => Mark.element
  | _, some handover => handover.mark

/-- The storage class of a conversion: the first that it has a setter for. -/
def Conversion.storageClass? (conversion : Conversion) : Option StorageClass :=
  if conversion.uniform.isSome then some .uniform
  else if conversion.sampler.isSome then some .sampler
  else if conversion.uniformBlock.isSome then some .uniformBlock
  else if conversion.storageBlock.isSome then some .storageBlock
  else none

/-! ## The order of type declarations -/

/-- Puts a type behind its dependencies, unless it is there already; dependencies nest at most
`depth` deep. -/
def Registry.declare (registry : Registry) : Nat → List TypeKey → TypeKey → List TypeKey
  | 0, order, _ => order
  | depth + 1, order, key =>
    if key ∈ order then order
    else (registry.type key).dependencies.foldl (declare registry depth) order ++ [key]

namespace Drafting

/-- The conversion of a property's type.  A type without one makes the property unconvertible. -/
def sourceConversion (setting : Setting) (property : Property) : Drafting Conversion := fun draft =>
  match convert setting property.type draft with
  | .error (.unsupported _) draft => .error (.unconvertible property.name property.type) draft
  | result => result

/-- The storage class of a property from outside, chosen on first request. -/
def classify (setting : Setting) (property : Property) : Drafting StorageClass := do
  match (← get).program.class? property.name with
  | some cls => return cls
  | none =>
    let conversion ← sourceConversion setting property
    match conversion.storageClass? with
    | none => throw (.unconvertible property.name property.type)
    | some cls =>
      report [.stored property.name cls]
      modify fun draft => { draft with program := draft.program.insert cls property }
      return cls

/-- Values of the property's type have a GLSL name. -/
def hasValueName (setting : Setting) (property : Property) : Drafting Bool :=
  return (← gpuType setting property.type).valueName ≠ ""

/-- Gives a property from outside its place. -/
def assignSource (setting : Setting) (plan : StagePlan) (previous : Option Handover)
    (storage : StageStorage) (property : Property) : Drafting StageStorage := do
  let name := property.name
  let handed := match previous with
    | some handover => handover.outputs.contains name
    | none => false
  if plan.request.stage = .vertex && setting.vertexLayout.contains name then
    modify fun draft => { draft with program := { draft.program with
      vertexComponents := draft.program.vertexComponents.insert property } }
    return (storage.addInput property).rename name (Mark.element ++ name)
  else if plan.request.stage ≠ .vertex && handed then
    return (storage.addInput property).rename name (storage.inMark ++ name)
  else
    let cls ← classify setting property
    return (storage.insert cls property).rename name (cls.mark ++ name)

/-- Copies a changed property into a variable of its own, unless it is changed where it is
bound. -/
def assignFilter (setting : Setting) (plan : StagePlan) (storage : StageStorage)
    (property : Property) : Drafting StageStorage := do
  let name := property.name
  if storage.samplers.contains name || storage.storageBlocks.contains name then return storage
  if !(← hasValueName setting property) then throw (.notReassignable name)
  let target := plan.request.outMark ++ name
  let storage := (storage.copy target name).rename name target
  if name ∈ plan.desiredNames then return storage.addOutput property
  else return { storage with innerCopies := storage.innerCopies.insert property }

/-- Hands a property through.  What comes through a storage class reaches the stages after this one
by itself, and is copied only to the result of the last stage. -/
def assignThrough (setting : Setting) (plan : StagePlan) (last : Bool) (storage : StageStorage)
    (property : Property) : Drafting StageStorage := do
  let name := property.name
  if !storage.inputs.contains name && !(last && name ∈ plan.desiredNames) then return storage
  if !(← hasValueName setting property) then throw (.notReassignable name)
  return (storage.copy (plan.request.outMark ++ name) name).addOutput property

/-- Gives an output its variable. -/
def assignOutput (setting : Setting) (plan : StagePlan) (storage : StageStorage)
    (property : Property) : Drafting StageStorage := do
  if !(← gpuType setting property.type).isStorable then throw (.invalidOutput property.name)
  return (storage.addOutput property).rename property.name
    (plan.request.outMark ++ property.name)

/-- Gives an inner property its variable. -/
def assignInner (setting : Setting) (storage : StageStorage) (property : Property) :
    Drafting StageStorage := do
  if !(← gpuType setting property.type).isStorable then throw (.invalidInner property.name)
  let storage := { storage with inner := storage.inner.insert property }
  return storage.rename property.name (Mark.inner ++ property.name)

/-- What is handed to another stage has to be made of numbers. -/
def checkVarying (property : Property) : Drafting Unit := do
  let varying := ((← get).registry.lookup? property.type).any fun conversion =>
    conversion.format.isSome
  if !varying then throw (.invalidOutput property.name)

/-- The host types a stage mentions, in order. -/
def stageTypes (plan : StagePlan) (storage : StageStorage) : TypeSet :=
  let lists := [plan.pipeline.pipethrough, storage.uniforms, storage.samplers,
    storage.uniformBlocks, storage.storageBlocks, storage.inputs, storage.outputs, storage.inner]
  let collected := plan.tasks.foldl (fun types task => Task.collectTypes task types) TypeSet.empty
  collected.insertAll (lists.flatMap fun list => list.entries.map Property.type)

/-- The GPU types a stage mentions, dependencies first. -/
def declarationOrder (setting : Setting) (plan : StagePlan) (storage : StageStorage) :
    Drafting (List TypeKey) :=
  ((stageTypes plan storage).order.filter fun type => !type.isVoid).foldlM
    (fun order type => do
      let conversion ← convert setting type
      let registry := (← get).registry
      return registry.declare registry.types.size order conversion.type) []

/-- Assigns storage for a stage.  `previous` is the stage before, and `last` holds for the stage
whose outputs are those of the program. -/
def assignStage (setting : Setting) (plan : StagePlan) (previous : Option Handover)
    (last : Bool) : Drafting StageStorage := do
  let pipeline := plan.pipeline
  let storage : StageStorage := { inMark := plan.request.inMark previous }
  let storage ← (pipeline.sources.flatMap PropertyList.solid).foldlM
    (assignSource setting plan previous) storage
  let storage ← pipeline.filter.solid.foldlM (assignFilter setting plan) storage
  let storage ← pipeline.pipethrough.solid.foldlM (assignThrough setting plan last) storage
  let storage ← pipeline.output.solid.foldlM (assignOutput setting plan) storage
  let storage ← pipeline.inner.solid.foldlM (assignInner setting) storage
  if plan.request.stage ≠ .compute then storage.outputs.entries.forM checkVarying
  let types ← declarationOrder setting plan storage
  return { storage with
    aliases := .layered [plan.request.aliases] storage.renames
    types }

/-- Assigns storage for stages in order. -/
def assignStages (setting : Setting) (previous : Option Handover) :
    List StagePlan → Drafting (List StageStorage)
  | [] => return []
  | plan :: rest => do
    let storage ← assignStage setting plan previous rest.isEmpty
    return storage :: (← assignStages setting (some ⟨plan.request.outMark, storage.outputs⟩) rest)

end Drafting

end ShaderWeave
