import ShaderWeave.Event
import ShaderWeave.Task.Basic

/-!
# Pipelines

A `Pipeline` is one resolved stage: the tasks to run, in order, and the properties of the stage in
six classes.  Names are those after alias choice.

* `input` — read from outside the stage;
* `consuming` — read from outside and used up;
* `filter` — read from outside and changed in place;
* `pipethrough` — desired, but only handed through;
* `output` — produced and desired;
* `inner` — produced and used inside the stage only.

A `Resolver` finds the pipeline of a stage and knows the tasks behind the keys in it.
-/

namespace ShaderWeave

/-- A task in a collection: a slot, and how often the slot was taken and given back before. -/
structure TaskKey where
  slot : Nat
  version : Nat
deriving DecidableEq, Repr

/-- The key as a text. -/
def TaskKey.describe (key : TaskKey) : String :=
  "TaskKey(" ++ toString key.slot ++ "v" ++ toString key.version ++ ")"

/-- Why a stage could not be resolved. -/
inductive ResolveError where
  /-- A task needs, through others, a property that it produces itself. -/
  | cycle (task property : String)
  /-- A pipeline names a task that its resolver does not know. -/
  | unknownTask (key : TaskKey)
deriving DecidableEq, Repr

/-- The wording of a resolve error. -/
def ResolveError.message : ResolveError → String
  | cycle task property => "task `" ++ task ++ "` depends on itself through `" ++ property ++ "`"
  | unknownTask key => "task " ++ key.describe ++ " is not registered"

/-- The name of the kind of a resolve error. -/
def ResolveError.kind : ResolveError → String
  | cycle .. => "Cycle"
  | unknownTask .. => "UnknownTask"

/-- The classes of properties of a stage. -/
inductive PropertyClass where
  | input | consuming | filter | pipethrough | output | inner
deriving DecidableEq, Repr

namespace PropertyClass

/-- The name of a class in messages and graphs. -/
def label : PropertyClass → String
  | input => "input"
  | consuming => "consuming"
  | filter => "filter"
  | pipethrough => "pipethrough"
  | output => "output"
  | inner => "local"

/-- All classes, in the order in which they are listed. -/
def all : List PropertyClass := [input, consuming, filter, pipethrough, output, inner]

end PropertyClass

/-- Tasks and property classes of one resolved stage. -/
structure Pipeline where
  items : List TaskKey := []
  input : PropertyList := .empty
  consuming : PropertyList := .empty
  filter : PropertyList := .empty
  pipethrough : PropertyList := .empty
  output : PropertyList := .empty
  inner : PropertyList := .empty

namespace Pipeline

/-- The properties of a class. -/
def list (pipeline : Pipeline) : PropertyClass → PropertyList
  | .input => pipeline.input
  | .consuming => pipeline.consuming
  | .filter => pipeline.filter
  | .pipethrough => pipeline.pipethrough
  | .output => pipeline.output
  | .inner => pipeline.inner

/-- Appends a property to a class. -/
def insert (pipeline : Pipeline) (cls : PropertyClass) (property : Property) : Pipeline :=
  match cls with
  | .input => { pipeline with input := pipeline.input.insert property }
  | .consuming => { pipeline with consuming := pipeline.consuming.insert property }
  | .filter => { pipeline with filter := pipeline.filter.insert property }
  | .pipethrough => { pipeline with pipethrough := pipeline.pipethrough.insert property }
  | .output => { pipeline with output := pipeline.output.insert property }
  | .inner => { pipeline with inner := pipeline.inner.insert property }

/-- The classes of properties that come from outside the stage. -/
def sources (pipeline : Pipeline) : List PropertyList :=
  [pipeline.input, pipeline.consuming, pipeline.filter, pipeline.pipethrough]

/-- The properties that come from outside the stage. -/
def sourceProperties (pipeline : Pipeline) : List Property :=
  pipeline.sources.flatMap PropertyList.entries

end Pipeline

/-- Turns desired properties into a pipeline, stage by stage.  The events tell what happened on the
way. -/
structure Resolver where
  resolve : Stage → PropertyList → Aliases → Except ResolveError (Pipeline × List Event)
  task? : TaskKey → Option Task

namespace Resolver

/-- The resolver whose pipelines are changed by `change` afterwards. -/
def amended (resolver : Resolver) (change : Stage → PropertyList → Pipeline → Pipeline) :
    Resolver where
  resolve := fun stage desired aliases =>
    (resolver.resolve stage desired aliases).map fun (pipeline, events) =>
      (change stage desired pipeline, events)
  task? := resolver.task?

/-- The resolver that does not know the given tasks when it is asked for them. -/
def withholding (resolver : Resolver) (keys : List TaskKey) : Resolver where
  resolve := resolver.resolve
  task? := fun key => if key ∈ keys then none else resolver.task? key

end Resolver

end ShaderWeave
