import ShaderWeave.Pipeline.Graph
import ShaderWeave.Program.Source
import ShaderWeave.Program.Storage

/-!
# Writing the source of a stage

From a plan and its storage to a `StageSource`.  Declarations come in a fixed order: structs,
uniforms, samplers, uniform blocks, storage blocks, inputs, outputs.  In `main` come the variables,
the guards of a compute stage, the copies, the tasks, and at last the position of a vertex.

**A guard reads the value that a count has on entry:** if the count is copied and changed, the guard
reads what it is copied from.
-/

namespace ShaderWeave

namespace Drafting

/-- The GPU type of a property that must have one. -/
def knownType (property : Property) : Drafting GpuType := do
  match (← get).registry.typeOf? property.type with
  | some type => return type
  | none => throw (.unsupported property.type)

/-- The GLSL name for values of a property that is declared in some role. -/
def valueName (role : DeclarationRole) (property : Property) : Drafting String := do
  let type ← knownType property
  if type.valueName = "" then throw (.unnamedType role property.name property.type)
  return type.valueName

/-- Numbers other than floats are not interpolated. -/
def isFlat (property : Property) : Drafting Bool := do
  match ((← get).registry.lookup? property.type).bind Conversion.format with
  | some format => return format.code ≠ AttributeFormat.floatCode
  | none => return false

/-! ## Declarations -/

/-- The structs among the types of a stage. -/
def structDeclarations (storage : StageStorage) : Drafting (List Declaration) := do
  let registry := (← get).registry
  return storage.types.filterMap fun key =>
    let type := registry.type key
    if type.valueName ≠ "" && type.body ≠ "" then some (.struct type.valueName type.body) else none

/-- Declares a uniform. -/
def declareUniform (property : Property) : Drafting Declaration := do
  return .uniform (← valueName .uniform property) (Mark.uniform ++ property.name)

/-- Declares a sampler. -/
def declareSampler (property : Property) : Drafting Declaration := do
  let type ← knownType property
  if type.handleName = "" then throw (.unnamedType .sampler property.name property.type)
  let binding ← bind property.name
  return .sampler binding type.handleName (Mark.sampler ++ property.name)

/-- Declares a uniform block. -/
def declareUniformBlock (property : Property) : Drafting Declaration := do
  let type ← knownType property
  let binding ← bind property.name
  let content : BlockContent :=
    if type.valueName ≠ "" then .value type.valueName else .members type.body none
  return .uniformBlock binding (Mark.uniformBlock ++ property.name)
    (Mark.uniformContent ++ property.name) content

/-- What is inside the storage block of a property. -/
def storageContent (property : Property) (type : GpuType) : Drafting BlockContent := do
  if type.valueName ≠ "" then return .value type.valueName
  match type.flexible with
  | none => return .members type.body none
  | some flexible =>
    let element := ((← get).registry.type flexible.element).valueName
    if element = "" then throw (.unnamedType .bufferElement property.name property.type)
    if flexible.name = "" && type.body = "" then return .array element
    return .members type.body (some (element, flexible.name))

/-- Declares a storage block.  It is read-only or write-only if all tasks of the program use it
so. -/
def declareStorageBlock (plans : List StagePlan) (property : Property) :
    Drafting Declaration := do
  let type ← knownType property
  let binding ← bind property.name
  let usage := usage plans property.name
  let content ← storageContent property type
  return .storageBlock binding (!usage.written) (!usage.read) (Mark.storageBlock ++ property.name)
    (Mark.storageContent ++ property.name) content

/-- Declares an input of a stage. -/
def declareInput (setting : Setting) (plan : StagePlan) (storage : StageStorage)
    (property : Property) : Drafting Declaration := do
  let type ← valueName .stageInput property
  match plan.request.stage with
  | .vertex =>
    return .vertexInput ((setting.vertexLayout.location? property.name).getD 0) type
      (Mark.element ++ property.name)
  | _ => return .input (← isFlat property) type (storage.inMark ++ property.name)

/-- Declares an output of a stage.  The results of a fragment stage are numbered as they were
desired. -/
def declareOutput (plan : StagePlan) (property : Property) : Drafting Declaration := do
  let type ← valueName .stageOutput property
  let name := plan.request.outMark ++ property.name
  match plan.request.stage with
  | .vertex => return .output (← isFlat property) type name
  | .compute => return .global type name
  | .fragment =>
    match plan.desiredNames.findIdx? (· == property.name) with
    | some location => return .target location type name
    | none => throw (.unplacedOutput property.name)

/-- The global declarations of a stage. -/
def declarations (setting : Setting) (plans : List StagePlan) (plan : StagePlan)
    (storage : StageStorage) : Drafting (List Declaration) := do
  let structs ← structDeclarations storage
  let uniforms ← storage.uniforms.entries.mapM declareUniform
  let samplers ← storage.samplers.entries.mapM declareSampler
  let uniformBlocks ← storage.uniformBlocks.entries.mapM declareUniformBlock
  let storageBlocks ← storage.storageBlocks.entries.mapM (declareStorageBlock plans)
  let inputs ← storage.inputs.entries.mapM (declareInput setting plan storage)
  let outputs ← storage.outputs.entries.mapM (declareOutput plan)
  return structs ++ uniforms ++ samplers ++ uniformBlocks ++ storageBlocks ++ inputs ++ outputs

/-! ## The body of `main` -/

/-- Declares the variable of an inner property. -/
def declareInner (storage : StageStorage) (property : Property) : Drafting Statement := do
  return .declare (← valueName .inner property) (storage.aliases.choice property.name)

/-- Declares the copy of a changed property. -/
def declareCopy (plan : StagePlan) (property : Property) : Drafting Statement := do
  return .declare (← valueName .inner property) (plan.request.outMark ++ property.name)

/-- The variable that holds a count on entry. -/
def entryHolder (storage : StageStorage) (name : String) : String :=
  let holder := storage.aliases.choice name
  match storage.copies.find? (·.target == holder) with
  | some copy => copy.source
  | none => holder

/-- The guard of one axis, if it needs one. -/
def axisGuard (storage : StageStorage) (axis : String) (count : InvocationCount) (group : Nat) :
    List Statement :=
  match count with
  | .fixed count => if 0 < group && count % group ≠ 0 then [.guard axis (.fixed count)] else []
  | .property property =>
    if 1 < group then [.guard axis (.held (entryHolder storage property.name))] else []

/-- The guards of a stage. -/
def guards (plan : StagePlan) (storage : StageStorage) : List Statement :=
  match plan.request.guarded? with
  | none => []
  | some dispatch =>
    axisGuard storage "x" dispatch.counts.x dispatch.group.x
      ++ axisGuard storage "y" dispatch.counts.y dispatch.group.y
      ++ axisGuard storage "z" dispatch.counts.z dispatch.group.z

/-- Code of a task, or the error it makes. -/
def ofEmit {α : Type} : Except EmitError α → Drafting α
  | .ok a => pure a
  | .error error => throw (.emit error)

/-- The position a vertex stage writes. -/
def positionStatements (plan : StagePlan) (storage : StageStorage) : List Statement :=
  match plan.request.stage with
  | .vertex => [.position (storage.aliases.choice vertexPosition)]
  | _ => []

/-- Writes the source of a stage. -/
def generateStage (setting : Setting) (plans : List StagePlan) (plan : StagePlan)
    (storage : StageStorage) : Drafting StageSource := do
  let declarations ← declarations setting plans plan storage
  let context : EmitContext := { types := (← get).registry.typeNames, aliases := storage.aliases }
  let preamble ← plan.tasks.mapM fun task => ofEmit (task.declaration context)
  let inner ← storage.inner.entries.mapM (declareInner storage)
  let innerCopies ← storage.innerCopies.entries.mapM (declareCopy plan)
  let usages ← plan.tasks.mapM fun task => ofEmit (task.usage context)
  return {
    version := setting.options.glslVersion
    embedded := setting.options.embedded
    group := plan.request.dispatch.map Dispatch.group
    declarations
    preamble
    body := inner ++ innerCopies ++ guards plan storage ++ storage.copies.map .copy
      ++ usages.map .task ++ positionStatements plan storage }

/-- Writes the source and the graph of a stage for inspection. -/
def dumpStage (setting : Setting) (plan : StagePlan) (source : StageSource) : Drafting Unit := do
  if setting.options.dump then
    let aliases := plan.request.aliases
    let path := plan.request.outMark ++ plan.pipeline.identifier setting.resolver aliases
    modify fun draft =>
      let dumps := Dump.write draft.dumps (path ++ ".glsl") source.render
      { draft with
        dumps := Dump.write dumps (path ++ ".dot") (plan.pipeline.dot setting.resolver aliases) }

end Drafting

end ShaderWeave
