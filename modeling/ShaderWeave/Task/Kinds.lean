import ShaderWeave.Task.Basic
import ShaderWeave.Task.Literal
import ShaderWeave.Text.Dedent

/-!
# Kinds of task

* `Task.constant?` — produces one property from a fixed value.
* `Task.call` — calls a GLSL function that something else declares.
* `Task.snippet` — a block of statements inside `main`.
* `Task.header` — code at global scope, such as function definitions; `Task.headerOfFile` takes it
  from the bytes of a file.
* `Task.remark` — writes the types and variables of some properties as comments.

Snippets and headers use the task's own names.  Where a name is held by a variable of another name
the preprocessor maps it before the code and forgets it after (`TaskLists.defines`,
`TaskLists.undefines`).
-/

namespace ShaderWeave

/-- The properties whose variable has another name. -/
def TaskLists.renamed (lists : TaskLists) (context : EmitContext) : List Property :=
  lists.all.filter fun p => p.name ≠ context.holder p.name

/-- Maps every renamed property to its variable. -/
def TaskLists.defines (lists : TaskLists) (context : EmitContext) : String :=
  String.join ((lists.renamed context).map fun p =>
    "#define " ++ p.name ++ " " ++ context.holder p.name ++ "\n")

/-- Forgets the mappings of `TaskLists.defines`. -/
def TaskLists.undefines (lists : TaskLists) (context : EmitContext) : String :=
  String.join ((lists.renamed context).map fun p => "#undef " ++ p.name ++ "\n")

/-- Why a file gives no header. -/
inductive FileError where
  | notFound
  /-- The bytes are not UTF-8. -/
  | invalidData
deriving DecidableEq, Repr

namespace Task

/-- Produces one property from a fixed value, if the value has a literal. -/
def constant? (name : String) (value : Value) : Option Task :=
  value.literal?.map fun literal =>
    { label := name ++ " = " ++ literal
      lists := { outputs := .ofList [⟨name, value.type⟩] }
      declaration := fun _ => .ok ""
      usage := fun context => .ok (context.holder name ++ " = " ++ literal ++ ";") }

/-- Calls a function.  Properties whose type has no GLSL name are left out of the arguments. -/
def call (function : String) (lists : TaskLists) : Task where
  label := function
  lists := lists
  declaration := fun _ => .ok ""
  usage := fun context =>
    let named := lists.arguments.filter fun p => (context.typeName? p).isSome
    .ok (constructorCall function (named.map fun p => context.holder p.name) ++ ";")

/-- A block of statements. -/
def snippet (code : String) (lists : TaskLists) : Task where
  label := "Produce:\n" ++ String.intercalate ",\n" lists.outputs.names
  lists := lists
  declaration := fun _ => .ok ""
  usage := fun context =>
    .ok (lists.defines context ++ "\x7b\n" ++ Text.dedent code ++ "\x7d\n"
      ++ lists.undefines context)

/-- Code at global scope. -/
def header (code : String) (lists : TaskLists) (label : String) : Task where
  label := label
  lists := lists
  declaration := fun context =>
    .ok (lists.defines context ++ Text.dedent code ++ lists.undefines context)
  usage := fun _ => .ok ""

/-- A header from a file, of which the bytes are given if it exists. -/
def headerOfFile (contents : Option ByteArray) (lists : TaskLists) (label : String) :
    Except FileError Task :=
  match contents with
  | none => .error .notFound
  | some bytes =>
    match String.fromUTF8? bytes with
    | none => .error .invalidData
    | some code => .ok (header code lists label)

/-- One comment line of a remark. -/
def remarkLine (context : EmitContext) (property : Property) : Except EmitError String := do
  let type ← context.typeName property
  return "// " ++ type ++ " " ++ context.holder property.name ++ "\n"

/-- A task that remarks on the properties it needs and calls itself; with `gaveUp` it fails
instead of the call. -/
def remark (label : String) (inputs outputs needs : PropertyList) (gaveUp : Bool) : Task where
  label := label
  lists := { inputs, outputs }
  declaration := fun context => do
    let lines ← needs.entries.mapM (remarkLine context)
    return String.join lines
  usage := fun _ => if gaveUp then .error .format else .ok (label ++ "();")

end Task

end ShaderWeave
