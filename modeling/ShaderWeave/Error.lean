import ShaderWeave.Gpu.Conversion
import ShaderWeave.Pipeline.Basic

/-!
# Errors

Every error is a cause; its wording stands in one function.

* `SpecificationError` — the pipeline or its types cannot be expressed on the GPU.
* `ShaderError` — a program could not be made: a specification error, a refusal by the device's
  compiler or linker (`Diagnostics`), or no object left on the device.
* `BindError` — a value could not be bound to a program.
-/

namespace ShaderWeave

/-- How the GPU layout of a type differs from its host layout. -/
inductive LayoutMismatch where
  /-- The header of a buffer has nothing to be declared with. -/
  | unnamedHeader (header : HostType)
  | headerSize (gpu host : Nat)
  /-- The elements of a buffer start at different places. -/
  | firstElement (gpu host : Nat)
  /-- The elements of a buffer are spaced differently. -/
  | stride (gpu host : Nat)
  | structSize (gpu host : Nat)
deriving DecidableEq, Repr

/-- The wording of a layout mismatch. -/
def LayoutMismatch.message : LayoutMismatch → String
  | unnamedHeader header =>
    "header " ++ header.shortName ++ " has neither a body nor a GLSL name"
  | headerSize gpu host =>
    "header is " ++ toString gpu ++ " bytes on the GPU and " ++ toString host
      ++ " bytes on the host"
  | firstElement gpu host =>
    "elements start at byte " ++ toString gpu ++ " on the GPU and byte " ++ toString host
      ++ " on the host"
  | stride gpu host =>
    "element stride is " ++ toString gpu ++ " bytes on the GPU and " ++ toString host
      ++ " bytes on the host"
  | structSize gpu host =>
    toString gpu ++ " bytes in std140 layout, " ++ toString host ++ " bytes on the host"

/-- What a name is declared as. -/
inductive DeclarationRole where
  | structMember | uniform | sampler | bufferElement | stageInput | stageOutput | inner
deriving DecidableEq, Repr

/-- The role in messages. -/
def DeclarationRole.label : DeclarationRole → String
  | structMember => "struct member"
  | uniform => "uniform"
  | sampler => "opaque binding"
  | bufferElement => "buffer element"
  | stageInput => "stage input"
  | stageOutput => "stage output"
  | inner => "local"

/-- A capacity of a device. -/
inductive Limit where
  | textureUnits | storageBuffers | uniformBlockSize | groupInvocations
deriving DecidableEq, Repr

/-- The limit in messages. -/
def Limit.label : Limit → String
  | textureUnits => "texture unit count"
  | storageBuffers => "storage buffer binding count"
  | uniformBlockSize => "uniform block size"
  | groupInvocations => "work group invocation count"

/-- Why a pipeline or its types cannot be expressed on the GPU. -/
inductive SpecificationError where
  /-- The type has no conversion and describes none. -/
  | unsupported (type : HostType)
  | layoutMismatch (type : HostType) (mismatch : LayoutMismatch)
  | recursiveType (type : HostType)
  /-- The type of the property has no setter. -/
  | unconvertible (property : String) (type : HostType)
  | notReassignable (property : String)
  | invalidOutput (property : String)
  | invalidInner (property : String)
  | conflictingClasses (property : String) (stage : Stage) (first second : PropertyClass)
  | unnamedType (role : DeclarationRole) (property : String) (type : HostType)
  | unplacedOutput (property : String)
  | producedInvocationCount (property : String)
  | limitExceeded (limit : Limit) (value bound : Nat)
  | resolve (error : ResolveError)
  | emit (error : EmitError)
deriving DecidableEq, Repr

/-- The wording of a specification error. -/
def SpecificationError.message : SpecificationError → String
  | unsupported type => "conversion to GPU not supported for " ++ type.shortName
  | layoutMismatch type mismatch =>
    "GPU layout of " ++ type.shortName ++ " does not match its host layout: " ++ mismatch.message
  | recursiveType type => "type " ++ type.shortName ++ " contains itself"
  | unconvertible property type =>
    "property `" ++ property ++ "` of type " ++ type.shortName
      ++ " cannot be bound to any storage class"
  | notReassignable property =>
    "filter property `" ++ property ++ "` cannot be copied into a variable"
  | invalidOutput property => "property `" ++ property ++ "` cannot be used as a stage output"
  | invalidInner property => "property `" ++ property ++ "` cannot be used as a local variable"
  | conflictingClasses property stage first second =>
    "property `" ++ property ++ "` is both " ++ first.label ++ " and " ++ second.label
      ++ " in the " ++ stage.name ++ " stage"
  | unnamedType role property type =>
    "unable to declare " ++ role.label ++ " `" ++ property ++ "`: type " ++ type.shortName
      ++ " has no GLSL name"
  | unplacedOutput property =>
    "fragment output `" ++ property ++ "` is not among the desired outputs"
  | producedInvocationCount property =>
    "invocation count `" ++ property ++ "` is produced inside the compute stage it bounds"
  | limitExceeded limit value bound =>
    limit.label ++ " of " ++ toString value ++ " exceeds the device limit of " ++ toString bound
  | resolve error => error.message
  | emit error => error.message

/-- The name of the kind of a specification error.  An error of a part of the work stands behind the
name of that part. -/
def SpecificationError.kind : SpecificationError → String
  | unsupported .. => "Unsupported"
  | layoutMismatch .. => "LayoutMismatch"
  | recursiveType .. => "RecursiveType"
  | unconvertible .. => "Unconvertible"
  | notReassignable .. => "NotReassignable"
  | invalidOutput .. => "InvalidOutput"
  | invalidInner .. => "InvalidLocal"
  | conflictingClasses .. => "ConflictingClasses"
  | unnamedType .. => "UnnamedType"
  | unplacedOutput .. => "UnplacedOutput"
  | producedInvocationCount .. => "ProducedInvocationCount"
  | limitExceeded .. => "LimitExceeded"
  | resolve error => "Resolve/" ++ error.kind
  | emit error => "Emit/" ++ error.kind

/-- What stands behind a specification error, if anything does. -/
def SpecificationError.cause : SpecificationError → Option String
  | emit error => error.cause
  | _ => none

/-- What the compiler or linker of a device said when it refused. -/
structure Diagnostics where
  /-- The stage that did not compile; none if the program did not link. -/
  stage : Option Stage
  log : String
deriving DecidableEq, Repr

/-- The wording of a refusal. -/
def Diagnostics.message (diagnostics : Diagnostics) : String :=
  match diagnostics.stage with
  | some stage => stage.name ++ " shader failed to compile:\n" ++ diagnostics.log
  | none => "program failed to link:\n" ++ diagnostics.log

/-- Objects a device hands out. -/
inductive DeviceObject where
  | shader | program
deriving DecidableEq, Repr

/-- The object in messages. -/
def DeviceObject.label : DeviceObject → String
  | shader => "shader"
  | program => "program"

/-- Why a program could not be made. -/
inductive ShaderError where
  | specification (error : SpecificationError)
  | compile (diagnostics : Diagnostics)
  | link (diagnostics : Diagnostics)
  /-- The device did not hand out an object. -/
  | device (object : DeviceObject) (message : String)
deriving DecidableEq, Repr

/-- The wording of a shader error. -/
def ShaderError.message : ShaderError → String
  | specification error => error.message
  | compile diagnostics => diagnostics.message
  | link diagnostics => diagnostics.message
  | device object message => "unable to create " ++ object.label ++ ": " ++ message

/-- The name of the kind of a shader error. -/
def ShaderError.kind : ShaderError → String
  | specification error => "Specification/" ++ error.kind
  | compile .. => "Compile"
  | link .. => "Link"
  | device .. => "Device"

/-- What stands behind a shader error, if anything does. -/
def ShaderError.cause : ShaderError → Option String
  | specification error => error.cause
  | _ => none

/-- The name of a storage class where a setter for it is missing. -/
def StorageClass.setterLabel : StorageClass → String
  | uniform => "uniform"
  | sampler => "opaque binding"
  | uniformBlock => "uniform buffer"
  | storageBlock => "storage buffer"

/-- Why a value could not be bound to a program. -/
inductive BindError where
  /-- The setter refused the value. -/
  | property (name : String) (reason : SetterError)
  | missingSetter (name : String) (cls : StorageClass)
deriving DecidableEq, Repr

/-- The wording of a bind error. -/
def BindError.message : BindError → String
  | property name _ => "cannot bind `" ++ name ++ "`"
  | missingSetter name cls =>
    "no " ++ cls.setterLabel ++ " setter registered for `" ++ name ++ "`"

/-- The name of the kind of a bind error. -/
def BindError.kind : BindError → String
  | property _ reason => "Property/" ++ reason.kind
  | missingSetter .. => "MissingSetter"

/-- What stands behind a bind error, if anything does. -/
def BindError.cause (names : HostNames) : BindError → Option String
  | property _ reason => some (reason.message names)
  | missingSetter .. => none

end ShaderWeave
