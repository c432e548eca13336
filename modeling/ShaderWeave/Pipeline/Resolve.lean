import ShaderWeave.Pipeline.Collection

/-!
# Resolving a stage

The pipeline of a stage is found by searching backwards from the desired properties, depth first.
A property that no task of the stage outputs comes from outside; any other is produced by the first
registered task that outputs it, after everything that task needs.

* `Search` — what has been found so far: the pipeline, and the properties produced, in order.
* `TaskCollection.need` — makes sure that a property is there.
* `TaskCollection.run` — runs a task after its needs.  **A task that is needed while it waits for its
  own needs closes a cycle.**  The first argument bounds the depth of the search; as a waiting task
  is never run again, the number of tasks is bound enough.
* `TaskCollection.resolve` — the whole search, then the final classes: produced properties are
  outputs if they are desired and inner otherwise, and a desired property that nothing produces or
  changes is handed through.
-/

namespace ShaderWeave

/-- A property under the name chosen for it. -/
def Aliases.chosen (aliases : Aliases) (property : Property) : Property :=
  property.renamed (aliases.choice property.name)

/-- What a search has found so far. -/
structure Search where
  pipeline : Pipeline
  /-- Produced properties in the order of their first production, with the type that was produced
  last. -/
  produced : List Property

namespace Search

/-- Nothing found yet. -/
def start : Search := ⟨{}, []⟩

/-- Some task that has run outputs the name. -/
def produces (search : Search) (name : String) : Bool := search.produced.any (·.name == name)

/-- The name is known to come from outside. -/
def external (search : Search) (name : String) : Bool :=
  search.pipeline.input.contains name || search.pipeline.filter.contains name
    || search.pipeline.consuming.contains name

/-- A property from outside is used up by a task: it leaves the inputs or the filters. -/
def consume (search : Search) (name : String) : Search :=
  let pipeline := search.pipeline
  match pipeline.input.get? name, pipeline.filter.get? name with
  | some property, _ =>
    { search with pipeline := { pipeline with
        input := pipeline.input.erase name
        consuming := pipeline.consuming.insert property } }
  | none, some property =>
    { search with pipeline := { pipeline with
        filter := pipeline.filter.erase name
        consuming := pipeline.consuming.insert property } }
  | none, none => search

/-- A property from outside is changed by a task: it leaves the inputs. -/
def modify (search : Search) (name : String) : Search :=
  let pipeline := search.pipeline
  match pipeline.input.get? name with
  | some property =>
    { search with pipeline := { pipeline with
        input := pipeline.input.erase name
        filter := pipeline.filter.insert property } }
  | none => search

/-- A task outputs a property. -/
def produce (search : Search) (property : Property) : Search :=
  if search.produces property.name then
    { search with produced := search.produced.map fun p =>
        if p.name = property.name then property else p }
  else { search with produced := search.produced ++ [property] }

/-- A task has run: it joins the pipeline, and its outputs are there. -/
def finish (search : Search) (aliases : Aliases) (key : TaskKey) (task : Task) : Search :=
  let pipeline := search.pipeline
  (task.lists.outputs.entries.map aliases.chosen).foldl produce
    { search with pipeline := { pipeline with items := pipeline.items ++ [key] } }

/-- Puts a desired property into its final class. -/
def deliver (search : Search) (property : Property) : Search :=
  let pipeline := search.pipeline
  if search.produces property.name then
    { search with pipeline := { pipeline with output := pipeline.output.insert property } }
  else
    match pipeline.input.get? property.name with
    | some input =>
      { search with pipeline := { pipeline with
          input := pipeline.input.erase property.name
          pipethrough := pipeline.pipethrough.insert input } }
    | none => search

/-- The pipeline in the end: whatever is produced and not an output stays inside. -/
def complete (search : Search) : Pipeline :=
  let pipeline := search.pipeline
  let kept := search.produced.filter fun p => !pipeline.output.contains p.name
  { pipeline with inner := pipeline.inner.extend kept }

end Search

namespace TaskCollection

/-- Makes sure that a property is there: produced, or known to come from outside.  `run` runs the
task that produces it. -/
def need (collection : TaskCollection) (stage : Stage) (aliases : Aliases)
    (run : TaskEntry → String → Search → Except ResolveError Search)
    (property : Property) (search : Search) : Except ResolveError Search :=
  if search.produces property.name || search.external property.name then .ok search
  else
    match collection.producer? stage aliases property.name with
    | some entry => run entry property.name search
    | none =>
      let pipeline := search.pipeline
      .ok { search with pipeline := { pipeline with input := pipeline.input.insert property } }

/-- Runs a task after its needs.  `waiting` are the tasks whose needs are being met, and `wanted` is
the property for which the task is run. -/
def run (collection : TaskCollection) (stage : Stage) (aliases : Aliases) :
    Nat → List TaskKey → TaskEntry → String → Search → Except ResolveError Search
  | depth, waiting, entry, wanted, search =>
    if entry.key ∈ search.pipeline.items then .ok search
    else if entry.key ∈ waiting then .error (.cycle entry.task.label wanted)
    else
      match depth with
      | 0 => .error (.cycle entry.task.label wanted)
      | depth + 1 => do
        let need := collection.need stage aliases
          (run collection stage aliases depth (entry.key :: waiting))
        let lists := entry.task.lists
        let search ← (lists.consuming.entries.map aliases.chosen).foldlM
          (fun search p => do return (← need p search).consume p.name) search
        let search ← (lists.inputs.entries.map aliases.chosen).foldlM
          (fun search p => need p search) search
        let search ← (lists.filters.entries.map aliases.chosen).foldlM
          (fun search p => do return (← need p search).modify p.name) search
        return search.finish aliases entry.key entry.task

/-- The pipeline that yields the desired properties. -/
def resolve (collection : TaskCollection) (stage : Stage) (desired : PropertyList)
    (aliases : Aliases) : Except ResolveError Pipeline := do
  let wanted := desired.entries.map aliases.chosen
  let need := collection.need stage aliases
    (collection.run stage aliases collection.size [])
  let search ← wanted.foldlM (fun search p => need p search) Search.start
  return (wanted.foldl Search.deliver search).complete

/-- The collection as a resolver. -/
def resolver (collection : TaskCollection) : Resolver where
  resolve := fun stage desired aliases =>
    (collection.resolve stage desired aliases).map fun pipeline =>
      (pipeline, [.resolved stage pipeline.items.length pipeline.input.size pipeline.output.size])
  task? := collection.task?

end TaskCollection

end ShaderWeave
