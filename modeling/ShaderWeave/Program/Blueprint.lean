import ShaderWeave.Program.Generate

/-!
# Blueprints

A `Blueprint` is everything about a program that is decided before a device is asked: the plans of
its stages, their storage, and their sources.  `Drafting.blueprint` makes one, and refuses what the
device has no room for.
-/

namespace ShaderWeave

/-- A program before any device is asked. -/
structure Blueprint where
  plans : List StagePlan
  storages : List StageStorage
  sources : List StageSource
  /-- What the stages share, with all binding points given out. -/
  program : ProgramStorage

/-- The sources with their stages, as texts for a device. -/
def Blueprint.texts (blueprint : Blueprint) : List (Stage × String) :=
  (blueprint.plans.map (·.request.stage)).zip (blueprint.sources.map StageSource.render)

/-! ## Limits -/

/-- The largest number of 32 bits. -/
def maxWord : Nat := 4294967295

/-- Refuses a value above a limit. -/
def checkLimit (limit : Limit) (value bound : Nat) : Except SpecificationError Unit :=
  if bound < value then .error (.limitExceeded limit value bound) else .ok ()

/-- Number of invocations of a work group; the product stops at the largest number of 32 bits. -/
def groupInvocations (group : Axes Nat) : Nat :=
  group.toList.foldl (fun product n => min (product * n) maxWord) 1

/-- Refuses a program that the device has no room for. -/
def checkLimits (info : DeviceInfo) (plans : List StagePlan) (program : ProgramStorage)
    (registry : Registry) : Except SpecificationError Unit := do
  program.samplers.entries.forM fun property =>
    match program.binding? property.name with
    | some binding => checkLimit .textureUnits (binding + 1) info.maxTextureUnits
    | none => .ok ()
  program.storageBlocks.entries.forM fun property =>
    match program.binding? property.name with
    | some binding => checkLimit .storageBuffers (binding + 1) info.maxStorageBuffers
    | none => .ok ()
  program.uniformBlocks.entries.forM fun property =>
    match registry.typeOf? property.type with
    | some type => checkLimit .uniformBlockSize (min type.layout.size maxWord) info.maxUniformBlockSize
    | none => .ok ()
  plans.forM fun plan =>
    match plan.request.dispatch with
    | some dispatch =>
      checkLimit .groupInvocations (groupInvocations dispatch.group) info.maxGroupInvocations
    | none => .ok ()

namespace Drafting

/-- Writes the source of a stage, also for inspection. -/
def writeStage (setting : Setting) (plans : List StagePlan)
    (stage : StagePlan × StageStorage) : Drafting StageSource := do
  let source ← generateStage setting plans stage.1 stage.2
  dumpStage setting stage.1 source
  return source

/-- Drafts a program for a device. -/
def blueprint (setting : Setting) (info : DeviceInfo) (requests : List StageRequest)
    (desired : PropertyList) : Drafting Blueprint := do
  modify fun draft => { draft with program := {} }
  let plans ← planStages setting.resolver requests desired
  plans.forM fun plan => ofExcept plan.checkDisjoint
  let storages ← assignStages setting none plans
  let sources ← (plans.zip storages).mapM (writeStage setting plans)
  let draft ← get
  ofExcept (checkLimits info plans draft.program draft.registry)
  return { plans, storages, sources, program := draft.program }

end Drafting

end ShaderWeave
