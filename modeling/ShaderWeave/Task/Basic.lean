import ShaderWeave.Property.Aliases
import ShaderWeave.Property.Basic

/-!
# Tasks

A task is a unit of shader work over named properties.

* `TaskLists` — the properties a task reads (`inputs`), produces (`outputs`), reads and changes in
  place (`filters`), and reads and uses up (`consuming`).  Their names are the task's own; aliases
  are applied by those who run it.
* `EmitContext` — what a task needs to write its code: the GLSL names of types, and the aliases that
  lead from its own names to the variables of the stage.
* `Task` — the lists, a label for people, and the code: a declaration before `main` and a usage
  inside it.  Writing either may fail (`EmitError`).  A task also says which types the stage has to
  declare for it; if it does not say otherwise, these are the types of its properties
  (`TaskLists.collectTypes`).
-/

namespace ShaderWeave

/-- The four property lists of a task. -/
structure TaskLists where
  inputs : PropertyList := .empty
  outputs : PropertyList := .empty
  filters : PropertyList := .empty
  consuming : PropertyList := .empty

namespace TaskLists

/-- All properties in the order in which code maps their names. -/
def all (lists : TaskLists) : List Property :=
  lists.inputs.entries ++ lists.outputs.entries ++ lists.filters.entries ++ lists.consuming.entries

/-- All properties in the order in which a function takes them. -/
def arguments (lists : TaskLists) : List Property :=
  lists.consuming.entries ++ lists.inputs.entries ++ lists.filters.entries ++ lists.outputs.entries

/-- Adds the types of all properties, in the order of the arguments. -/
def collectTypes (lists : TaskLists) (types : TypeSet) : TypeSet :=
  types.insertAll (lists.arguments.map Property.type)

end TaskLists

/-- Why a task could not write its code. -/
inductive EmitError where
  /-- The type of a property has no GLSL name. -/
  | missingTypeName (property : String) (type : HostType)
  /-- The task gave up while writing. -/
  | format
deriving DecidableEq, Repr

/-- The wording of an emit error. -/
def EmitError.message : EmitError → String
  | missingTypeName property type =>
    "no GLSL type name for property `" ++ property ++ "` of type " ++ type.shortName
  | format => "formatting shader source failed"

/-- The name of the kind of an emit error. -/
def EmitError.kind : EmitError → String
  | missingTypeName .. => "MissingTypeName"
  | format => "Format"

/-- What stands behind an emit error, if anything does. -/
def EmitError.cause : EmitError → Option String
  | missingTypeName _ _ => none
  | format => some "an error occurred when formatting an argument"

/-- GLSL names of host types: of their values, and of handles such as samplers.  A registered type
may have neither; its names are then empty. -/
structure TypeNames where
  value : HostType → Option String
  handle : HostType → Option String

/-- What a task needs to write its code. -/
structure EmitContext where
  types : TypeNames
  aliases : Aliases

namespace EmitContext

/-- The variable that holds a property of the task. -/
def holder (context : EmitContext) (name : String) : String := context.aliases.choice name

/-- The GLSL name of a property's type: that of its values, else that of its handles. -/
def typeName? (context : EmitContext) (property : Property) : Option String :=
  ((context.types.value property.type).filter (· ≠ "")).or (context.types.handle property.type)
    |>.filter (· ≠ "")

/-- The GLSL name of a property's type, or an error. -/
def typeName (context : EmitContext) (property : Property) : Except EmitError String :=
  match context.typeName? property with
  | some name => .ok name
  | none => .error (.missingTypeName property.name property.type)

end EmitContext

/-- A unit of shader work. -/
structure Task where
  /-- A name for people. -/
  label : String
  lists : TaskLists
  /-- Code at global scope, written once per stage before `main`. -/
  declaration : EmitContext → Except EmitError String
  /-- Code inside `main`. -/
  usage : EmitContext → Except EmitError String
  /-- Adds the types that the code needs to those that other tasks need. -/
  collectTypes : TypeSet → TypeSet := lists.collectTypes

end ShaderWeave
