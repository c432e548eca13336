import ShaderWeave.Program.Request
import ShaderWeave.Text.Blank

/-!
# Stage sources

The source of a stage is kept as data, `StageSource`, until it is handed to a device: a header, the
global declarations in order, the code of tasks at global scope, and the statements of `main`.
`StageSource.render` is the GLSL text.  What a stage declares is thus known without reading text.
-/

namespace ShaderWeave

/-- What is inside a block. -/
inductive BlockContent where
  /-- A single value of a named type. -/
  | value (type : String)
  /-- An array without a size. -/
  | array (element : String)
  /-- Members line by line, and an array without a size at the end (its element type and name). -/
  | members (body : String) (flexible : Option (String × String))
deriving DecidableEq, Repr

/-- A global declaration.  Names are those of variables and blocks. -/
inductive Declaration where
  | struct (name body : String)
  | uniform (type name : String)
  | sampler (binding : Nat) (type name : String)
  | uniformBlock (binding : Nat) (block name : String) (content : BlockContent)
  | storageBlock (binding : Nat) (readOnly writeOnly : Bool) (block name : String)
      (content : BlockContent)
  /-- A vertex attribute. -/
  | vertexInput (location : Nat) (type name : String)
  /-- A variable handed on by the stage before. -/
  | input (flat : Bool) (type name : String)
  /-- A variable handed on to the next stage. -/
  | output (flat : Bool) (type name : String)
  /-- A result of a fragment stage. -/
  | target (location : Nat) (type name : String)
  /-- A global variable. -/
  | global (type name : String)
deriving DecidableEq, Repr

/-- The number that bounds the invocations along an axis. -/
inductive GuardBound where
  | fixed (count : Nat)
  /-- The value of a variable. -/
  | held (name : String)
deriving DecidableEq, Repr

/-- A statement of `main`. -/
inductive Statement where
  | declare (type name : String)
  /-- Invocations past the bound of an axis return. -/
  | guard (axis : String) (bound : GuardBound)
  | copy (copy : Copy)
  /-- The code of a task. -/
  | task (code : String)
  /-- The position of a vertex. -/
  | position (source : String)
deriving DecidableEq, Repr

/-- The source of a stage. -/
structure StageSource where
  version : Nat
  embedded : Bool
  /-- The size of a work group. -/
  group : Option (Axes Nat)
  declarations : List Declaration
  /-- Code of tasks at global scope. -/
  preamble : List String
  body : List Statement
deriving DecidableEq, Repr

/-! ## Rendering -/

/-- A text without the blanks at its end. -/
def trimmedEnd (text : String) : String := String.ofList (Text.trimEnd text.toList)

/-- The qualifier of variables that are not interpolated. -/
def flatQualifier (flat : Bool) : String := if flat then "flat " else ""

/-- A uniform block behind its qualifiers. -/
def BlockContent.renderUniform (block name : String) : BlockContent → String
  | value type => block ++ " \x7b " ++ type ++ " " ++ name ++ "; \x7d;\n"
  | array element => block ++ " \x7b " ++ element ++ " " ++ name ++ "[]; \x7d;\n"
  | members body _ => block ++ " \x7b\n" ++ trimmedEnd body ++ "\n\x7d " ++ name ++ ";\n"

/-- A storage block behind its qualifiers. -/
def BlockContent.renderStorage (block name : String) : BlockContent → String
  | value type => block ++ " \x7b " ++ type ++ " " ++ name ++ "; \x7d;\n"
  | array element => block ++ " \x7b " ++ element ++ " " ++ name ++ "[]; \x7d;\n"
  | members body none => block ++ " \x7b\n" ++ body ++ "\x7d " ++ name ++ ";\n"
  | members body (some (element, member)) =>
    block ++ " \x7b\n" ++ body ++ "\t" ++ element ++ " " ++ member ++ "[];\n\x7d " ++ name ++ ";\n"

/-- A declaration in GLSL. -/
def Declaration.render : Declaration → String
  | struct name body => "struct " ++ name ++ " \x7b\n" ++ trimmedEnd body ++ "\n\x7d;\n"
  | uniform type name => "uniform " ++ type ++ " " ++ name ++ ";\n"
  | sampler binding type name =>
    "layout(binding=" ++ toString binding ++ ") uniform " ++ type ++ " " ++ name ++ ";\n"
  | uniformBlock binding block name content =>
    "layout(std140, binding=" ++ toString binding ++ ") uniform "
      ++ content.renderUniform block name
  | storageBlock binding readOnly writeOnly block name content =>
    "layout(std430, binding=" ++ toString binding ++ ") "
      ++ (if readOnly then "readonly " else "") ++ (if writeOnly then "writeonly " else "")
      ++ "buffer " ++ content.renderStorage block name
  | vertexInput location type name =>
    "layout(location=" ++ toString location ++ ") in " ++ type ++ " " ++ name ++ ";\n"
  | input flat type name => flatQualifier flat ++ "in " ++ type ++ " " ++ name ++ ";\n"
  | output flat type name => flatQualifier flat ++ "out " ++ type ++ " " ++ name ++ ";\n"
  | target location type name =>
    "layout(location=" ++ toString location ++ ") out " ++ type ++ " " ++ name ++ ";\n"
  | global type name => type ++ " " ++ name ++ ";\n"

/-- A bound in GLSL. -/
def GuardBound.render : GuardBound → String
  | fixed count => toString count ++ "u"
  | held name => "uint(" ++ name ++ ")"

/-- A statement in GLSL. -/
def Statement.render : Statement → String
  | declare type name => "\t" ++ type ++ " " ++ name ++ ";\n"
  | guard axis bound =>
    "\tif (gl_GlobalInvocationID." ++ axis ++ " >= " ++ bound.render ++ ") return;\n"
  | copy c => "\t" ++ c.target ++ " = " ++ c.source ++ ";\n"
  | task code => "\t" ++ code ++ "\n"
  | position source => "\t" ++ vertexPosition ++ " = " ++ source ++ ";\n"

namespace StageSource

/-- The lines before all declarations. -/
def header (source : StageSource) : String :=
  let version := "#version " ++ toString source.version
  let start := if source.embedded then
    version ++ " es\nprecision highp float;\nprecision highp int;\n" else version ++ " core\n"
  let group := match source.group with
    | some group =>
      "layout (local_size_x = " ++ toString group.x ++ ", local_size_y = " ++ toString group.y
        ++ ", local_size_z = " ++ toString group.z ++ ") in;\n"
    | none => ""
  start ++ group

/-- The GLSL text. -/
def render (source : StageSource) : String :=
  source.header ++ "\n" ++ String.join (source.declarations.map Declaration.render) ++ "\n"
    ++ String.join source.preamble ++ "void main() \x7b\n"
    ++ String.join (source.body.map Statement.render) ++ "\x7d\n"

end StageSource

end ShaderWeave
