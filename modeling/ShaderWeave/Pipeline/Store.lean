import ShaderWeave.Pipeline.Resolve

/-!
# Tasks, stages and order apart

A `TaskStore` keeps the tasks, the stages they are for and the order of their registration in three
places.  **Nothing in its type says that the three agree.**  Every look-up may fail, and a search over
them has faults that a search over a `TaskCollection` cannot have: a key may lead nowhere.

* `SlotMap` — values under keys that the map gives out.  The slot freed last is taken first, under a
  new version.
* `SideMap` — values under the keys of another map, one for each slot.
* `TaskStore.producer?`, `TaskStore.run`, `TaskStore.resolve` — the search for a pipeline, key by key.
-/

namespace ShaderWeave

/-! ## Maps -/

/-- Values under keys that the map gives out. -/
structure SlotMap (α : Type) where
  entries : List (TaskKey × α) := []
  /-- Keys of removed values whose slots are free, the last freed first. -/
  freed : List TaskKey := []

namespace SlotMap

variable {α : Type}

/-- Number of values. -/
def size (map : SlotMap α) : Nat := map.entries.length

/-- The value under a key. -/
def get? (map : SlotMap α) (key : TaskKey) : Option α :=
  (map.entries.find? (·.1 == key)).map (·.2)

/-- The key the next value will get. -/
def nextKey (map : SlotMap α) : TaskKey :=
  match map.freed with
  | [] => ⟨map.entries.length + 1, 1⟩
  | key :: _ => ⟨key.slot, key.version + 2⟩

/-- Puts a value under the next key. -/
def insert (map : SlotMap α) (value : α) : SlotMap α where
  entries := map.entries ++ [(map.nextKey, value)]
  freed := map.freed.tail

/-- Takes a value out and frees its slot; a key that is not in use changes nothing. -/
def remove (map : SlotMap α) (key : TaskKey) : SlotMap α where
  entries := map.entries.filter (·.1 != key)
  freed := if (map.get? key).isSome then key :: map.freed else map.freed

end SlotMap

/-- Values under the keys of another map. -/
structure SideMap (α : Type) where
  entries : List (TaskKey × α) := []

namespace SideMap

variable {α : Type}

/-- The value under a key. -/
def get? (map : SideMap α) (key : TaskKey) : Option α :=
  (map.entries.find? (·.1 == key)).map (·.2)

/-- Puts a value under a key.  It takes the place of what is in the slot, unless that is newer. -/
def insert (map : SideMap α) (key : TaskKey) (value : α) : SideMap α :=
  if map.entries.any fun entry => entry.1.slot == key.slot && key.version < entry.1.version then map
  else ⟨map.entries.filter (·.1.slot != key.slot) ++ [(key, value)]⟩

/-- Takes the value under a key out. -/
def remove (map : SideMap α) (key : TaskKey) : SideMap α := ⟨map.entries.filter (·.1 != key)⟩

end SideMap

/-! ## Stores -/

/-- Tasks with their stages and their order. -/
structure TaskStore where
  tasks : SlotMap Task := {}
  stages : SideMap (List Stage) := {}
  order : List TaskKey := []

/-- Why a search over a store fails. -/
inductive ResolveFault where
  /-- A key was taken for that of a task, and it is not.  There is no going on from here. -/
  | missing (key : TaskKey)
  | failed (error : ResolveError)
deriving DecidableEq, Repr

/-- The error to tell of.  A key that leads nowhere is told of as an unknown task. -/
def ResolveFault.error : ResolveFault → ResolveError
  | missing key => .unknownTask key
  | failed error => error

namespace TaskStore

/-- The store without tasks. -/
def empty : TaskStore := {}

/-- Adds a task for some stages, after all others. -/
def register (store : TaskStore) (task : Task) (stages : List Stage) : TaskStore where
  tasks := store.tasks.insert task
  stages := store.stages.insert store.tasks.nextKey stages
  order := store.order ++ [store.tasks.nextKey]

/-- Takes a task out of all three places. -/
def remove (store : TaskStore) (key : TaskKey) : TaskStore where
  tasks := store.tasks.remove key
  stages := store.stages.remove key
  order := store.order.filter (· != key)

/-- Number of tasks. -/
def size (store : TaskStore) : Nat := store.tasks.size

/-- The task under a key. -/
def task? (store : TaskStore) (key : TaskKey) : Option Task := store.tasks.get? key

/-- The first of the keys whose task is for `stage` and outputs `name` after alias choice.  A key with
the stage has to have a task. -/
def producerAmong (store : TaskStore) (stage : Stage) (aliases : Aliases) (name : String) :
    List TaskKey → Except ResolveFault (Option TaskKey)
  | [] => .ok none
  | key :: later =>
    if stage ∈ (store.stages.get? key).getD [] then
      match store.task? key with
      | none => .error (.missing key)
      | some task =>
        if task.lists.outputs.names.any (aliases.choice · == name) then .ok (some key)
        else store.producerAmong stage aliases name later
    else store.producerAmong stage aliases name later

/-- The first task registered for `stage` that outputs `name` after alias choice. -/
def producer? (store : TaskStore) (stage : Stage) (aliases : Aliases) (name : String) :
    Except ResolveFault (Option TaskKey) :=
  store.producerAmong stage aliases name store.order

/-- Makes sure that a property is there: produced, or known to come from outside.  `run` runs the
task that produces it. -/
def need (store : TaskStore) (stage : Stage) (aliases : Aliases)
    (run : TaskKey → String → Search → Except ResolveFault Search)
    (property : Property) (search : Search) : Except ResolveFault Search :=
  if search.produces property.name || search.external property.name then .ok search
  else do
    match ← store.producer? stage aliases property.name with
    | some key => run key property.name search
    | none =>
      let pipeline := search.pipeline
      return { search with pipeline := { pipeline with input := pipeline.input.insert property } }

/-- Runs a task after its needs, as `TaskCollection.run` does, if there is a task under the key. -/
def run (store : TaskStore) (stage : Stage) (aliases : Aliases) :
    Nat → List TaskKey → TaskKey → String → Search → Except ResolveFault Search
  | depth, waiting, key, wanted, search =>
    if key ∈ search.pipeline.items then .ok search
    else
      match store.task? key with
      | none => .error (.failed (.unknownTask key))
      | some task =>
        if key ∈ waiting then .error (.failed (.cycle task.label wanted))
        else
          match depth with
          | 0 => .error (.failed (.cycle task.label wanted))
          | depth + 1 => do
            let need := store.need stage aliases (run store stage aliases depth (key :: waiting))
            let lists := task.lists
            let search ← (lists.consuming.entries.map aliases.chosen).foldlM
              (fun search p => do return (← need p search).consume p.name) search
            let search ← (lists.inputs.entries.map aliases.chosen).foldlM
              (fun search p => need p search) search
            let search ← (lists.filters.entries.map aliases.chosen).foldlM
              (fun search p => do return (← need p search).modify p.name) search
            return search.finish aliases key task

/-- The pipeline that yields the desired properties. -/
def resolve (store : TaskStore) (stage : Stage) (desired : PropertyList) (aliases : Aliases) :
    Except ResolveFault Pipeline := do
  let wanted := desired.entries.map aliases.chosen
  let need := store.need stage aliases (store.run stage aliases store.size [])
  let search ← wanted.foldlM (fun search p => need p search) Search.start
  return (wanted.foldl Search.deliver search).complete

/-- The store as a resolver. -/
def resolver (store : TaskStore) : Resolver where
  resolve := fun stage desired aliases =>
    ((store.resolve stage desired aliases).mapError ResolveFault.error).map fun pipeline =>
      (pipeline, [.resolved stage pipeline.items.length pipeline.input.size pipeline.output.size])
  task? := store.task?

end TaskStore

end ShaderWeave
