import ShaderWeave.Pipeline.Resolve
import ShaderWeave.Program.Draft

/-!
# Planning the stages

The stages of a program are planned from the last to the first: what a stage takes from outside is
what the stage before it is asked for.

* A vertex stage is asked for its position too.
* A compute stage that guards its bounds needs the properties that count its invocations; **they must
  come from outside,** because the guards run before any task.
* No property of a stage may be in two classes (`StagePlan.checkDisjoint`).
-/

namespace ShaderWeave

/-- A resolved stage. -/
structure StagePlan where
  request : StageRequest
  pipeline : Pipeline
  /-- What the stage was asked for; aliases are not applied. -/
  desired : PropertyList
  tasks : List Task

namespace StagePlan

/-- What the stage takes from outside. -/
def wanted (plan : StagePlan) : PropertyList :=
  let pipeline := plan.pipeline
  (((PropertyList.empty.merge pipeline.input).merge pipeline.filter).merge
    pipeline.consuming).merge pipeline.pipethrough

/-- The names the stage was asked for, after alias choice. -/
def desiredNames (plan : StagePlan) : List String :=
  plan.desired.names.map plan.request.aliases.choice

end StagePlan

/-- What a stage is asked for: `wanted`, and in a vertex stage the position. -/
def StageRequest.desired (request : StageRequest) (wanted : PropertyList) : PropertyList :=
  match request.stage with
  | .vertex => wanted.insert ⟨request.aliases.choice vertexPosition, .vec4⟩
  | _ => wanted

namespace Pipeline

/-- Some class holds the name. -/
def knows (pipeline : Pipeline) (name : String) : Bool :=
  PropertyClass.all.any fun cls => (pipeline.list cls).contains name

/-- Adds a property that counts invocations. -/
def addCount (aliases : Aliases) (pipeline : Pipeline) :
    InvocationCount → Except SpecificationError Pipeline
  | .fixed _ => .ok pipeline
  | .property property =>
    let property := aliases.chosen property
    if pipeline.output.contains property.name || pipeline.inner.contains property.name then
      .error (.producedInvocationCount property.name)
    else if pipeline.knows property.name then .ok pipeline
    else .ok { pipeline with input := pipeline.input.insert property }

/-- Adds the properties that count invocations, if the stage guards its bounds. -/
def addCounts (pipeline : Pipeline) (request : StageRequest) :
    Except SpecificationError Pipeline :=
  match request.guarded? with
  | none => .ok pipeline
  | some dispatch => dispatch.counts.toList.foldlM (addCount request.aliases) pipeline

/-- The tasks of a pipeline. -/
def tasks (pipeline : Pipeline) (resolver : Resolver) : Except SpecificationError (List Task) :=
  pipeline.items.mapM fun key =>
    match resolver.task? key with
    | some task => .ok task
    | none => .error (.resolve (.unknownTask key))

end Pipeline

namespace Drafting

/-- An outcome as work on a draft. -/
def ofExcept {α : Type} : Except SpecificationError α → Drafting α
  | .ok a => pure a
  | .error error => throw error

/-- Plans a stage that is to yield `wanted`. -/
def planStage (resolver : Resolver) (request : StageRequest) (wanted : PropertyList) :
    Drafting StagePlan := do
  let desired := request.desired wanted
  match resolver.resolve request.stage desired request.aliases with
  | .error error => throw (.resolve error)
  | .ok (pipeline, events) =>
    report events
    let pipeline ← ofExcept (pipeline.addCounts request)
    let tasks ← ofExcept (pipeline.tasks resolver)
    return { request, pipeline, desired, tasks }

/-- Plans stages, given from the last to the first; the plans are in the order of the stages. -/
def planBackwards (resolver : Resolver) (wanted : PropertyList) :
    List StageRequest → Drafting (List StagePlan)
  | [] => return []
  | request :: earlier => do
    let plan ← planStage resolver request wanted
    return (← planBackwards resolver plan.wanted earlier) ++ [plan]

/-- Plans the stages of a program. -/
def planStages (resolver : Resolver) (requests : List StageRequest) (desired : PropertyList) :
    Drafting (List StagePlan) :=
  planBackwards resolver desired requests.reverse

end Drafting

/-! ## Disjoint classes -/

/-- Looks for a name that occurs twice; `seen` are the names before, each with its class. -/
def StagePlan.firstConflict (stage : Stage) :
    List (String × PropertyClass) → List (String × PropertyClass) →
      Option SpecificationError
  | _, [] => none
  | seen, (name, cls) :: rest =>
    match seen.find? (·.1 == name) with
    | some (_, first) => some (.conflictingClasses name stage first cls)
    | none => firstConflict stage (seen ++ [(name, cls)]) rest

/-- The names of a stage, each with its class. -/
def StagePlan.classes (plan : StagePlan) : List (String × PropertyClass) :=
  PropertyClass.all.flatMap fun cls => (plan.pipeline.list cls).names.map (·, cls)

/-- Refuses a stage in which a property is in two classes. -/
def StagePlan.checkDisjoint (plan : StagePlan) : Except SpecificationError Unit :=
  match firstConflict plan.request.stage [] plan.classes with
  | some error => .error error
  | none => .ok ()

/-! ## Usage -/

/-- How the tasks of a program use a property. -/
structure Usage where
  read : Bool
  written : Bool
deriving DecidableEq, Repr

/-- The names that tasks of a stage touch through a list, after alias choice. -/
def StagePlan.touches (plan : StagePlan) (list : TaskLists → PropertyList) (name : String) : Bool :=
  plan.tasks.any fun task =>
    (list task.lists).names.any fun own => plan.request.aliases.choice own == name

/-- How the tasks of all stages use a property. -/
def usage (plans : List StagePlan) (name : String) : Usage where
  read := plans.any fun plan =>
    plan.touches (·.inputs) name || plan.touches (·.consuming) name || plan.touches (·.filters) name
  written := plans.any fun plan =>
    plan.touches (·.outputs) name || plan.touches (·.filters) name

end ShaderWeave
