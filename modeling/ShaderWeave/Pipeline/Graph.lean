import ShaderWeave.Digest
import ShaderWeave.Pipeline.Resolve
import ShaderWeave.Text.Hexadecimal

/-!
# Pipelines as graphs

For inspection a pipeline gets an identifier (`Pipeline.identifier`), which names its dumps, and a
drawing in the dot language (`Pipeline.dot`): an ellipse per property, a box per task, and an edge
per property of each task's lists.  Tasks the resolver does not know are left out of both.

The drawing is built as a list of `GraphLine`s, so that what it contains can be told without reading
text.
-/

namespace ShaderWeave

/-- How a task touches a property. -/
inductive Access where
  | reads | consumes | filters | writes
deriving DecidableEq, Repr

/-- A line of the drawing. -/
inductive GraphLine where
  /-- A property of the pipeline, with its class. -/
  | property (property : Property) (cls : PropertyClass)
  /-- The task at a position of the schedule. -/
  | task (position : Nat) (label : String)
  /-- The task at a position touches a property. -/
  | edge (position : Nat) (access : Access) (name : String)
deriving DecidableEq, Repr

namespace GraphLine

/-- A double quote inside a label is escaped. -/
def escapeLabel (label : String) : String :=
  String.join (label.toList.map fun c => if c = '"' then "\\\"" else c.toString)

/-- The node of a property. -/
def propertyNode (name : String) : String := "\"p_" ++ name ++ "\""

/-- The node of a task. -/
def taskNode (position : Nat) : String := "\"t_" ++ toString position ++ "\""

/-- A line in the dot language. -/
def render : GraphLine → String
  | property p cls =>
    "\t" ++ propertyNode p.name ++ " [label=\"" ++ p.name ++ ": " ++ p.type.shortName ++ "\\n("
      ++ cls.label ++ ")\", shape=ellipse];\n"
  | task position label =>
    "\t" ++ taskNode position ++ " [label=\"" ++ escapeLabel label ++ "\", shape=box];\n"
  | edge position .reads name =>
    "\t" ++ propertyNode name ++ " -> " ++ taskNode position ++ ";\n"
  | edge position .consumes name =>
    "\t" ++ propertyNode name ++ " -> " ++ taskNode position ++ " [style=dashed];\n"
  | edge position .filters name =>
    "\t" ++ propertyNode name ++ " -> " ++ taskNode position ++ " [dir=both];\n"
  | edge position .writes name =>
    "\t" ++ taskNode position ++ " -> " ++ propertyNode name ++ ";\n"

end GraphLine

/-- The lines of one task: its box, then its edges. -/
def Task.graph (task : Task) (aliases : Aliases) (position : Nat) : List GraphLine :=
  let edges (access : Access) (list : PropertyList) : List GraphLine :=
    list.names.map fun name => .edge position access (aliases.choice name)
  .task position task.label :: edges .reads task.lists.inputs
    ++ edges .consumes task.lists.consuming ++ edges .filters task.lists.filters
    ++ edges .writes task.lists.outputs

namespace Pipeline

/-- The properties of all classes, each with its class. -/
def classified (pipeline : Pipeline) : List (Property × PropertyClass) :=
  PropertyClass.all.flatMap fun cls => (pipeline.list cls).entries.map (·, cls)

/-- The lines of the drawing. -/
def graph (pipeline : Pipeline) (resolver : Resolver) (aliases : Aliases) : List GraphLine :=
  pipeline.classified.map (fun (p, cls) => .property p cls)
    ++ pipeline.items.zipIdx.flatMap fun (key, position) =>
      match resolver.task? key with
      | some task => task.graph aliases position
      | none => []

/-- The drawing in the dot language. -/
def dot (pipeline : Pipeline) (resolver : Resolver) (aliases : Aliases) : String :=
  "digraph pipeline \x7b\n\trankdir=LR;\n"
    ++ String.join ((pipeline.graph resolver aliases).map GraphLine.render) ++ "\x7d\n"

/-- An identifier made of the aliases, the labels of the tasks and the names in each class. -/
def identifier (pipeline : Pipeline) (resolver : Resolver) (aliases : Aliases) : String :=
  let labels := pipeline.items.filterMap fun key => (resolver.task? key).map (·.label)
  let digest := labels.foldl Digest.text (aliases.digest .empty)
  let digest := PropertyClass.all.foldl
    (fun digest cls => (pipeline.list cls).names.foldl Digest.text (digest.text cls.label)) digest
  Text.hexPadded 16 digest.finish.toNat

end Pipeline

end ShaderWeave
