import ShaderWeave.Device.Action
import ShaderWeave.Gpu.Type

/-!
# Conversions

A `Conversion` says how host values of one type reach the GPU: the GPU type they have there, the
vertex attribute format if they can be attributes, and a setter for each storage class they can be
bound to.

A setter is given a place, which is a uniform location or a binding point, and a value, and **it may ask
anything of the device** (`DeviceAction`).  Those of this library tell the device the value at that place
in one call, or nothing: they refuse values of another type and buffers with pending host writes
(`SetterError`).  Conversions that are registered by hand bring setters of their own.
-/

namespace ShaderWeave

/-- What a setter takes. -/
inductive Expected where
  | basic (type : BasicType)
  /-- Anything that carries the handle of a buffer. -/
  | bufferHandle
  /-- Whatever goes by a name in the host program. -/
  | other (name : String)
deriving DecidableEq, Repr

/-- The qualified names under which the host program knows what setters take. -/
structure HostNames where
  basic : BasicType → String
  bufferHandle : String

/-- The qualified name of a host type. -/
def HostNames.qualified (names : HostNames) : HostType → String
  | .basic type => names.basic type
  | .declared name _ _ => name

/-- The qualified name of what a setter takes. -/
def Expected.name (names : HostNames) : Expected → String
  | basic type => names.basic type
  | bufferHandle => names.bufferHandle
  | other name => name

/-- Why a value could not be bound. -/
inductive SetterError where
  /-- The buffer has host writes that have not reached the GPU. -/
  | unsynchronized
  | typeMismatch (expected : Expected) (found : String)
deriving DecidableEq, Repr

/-- The wording of a setter error. -/
def SetterError.message (names : HostNames) : SetterError → String
  | unsynchronized => "buffer has pending host writes"
  | typeMismatch expected found =>
    "expected a value of type " ++ expected.name names ++ ", found " ++ found

/-- The name of the kind of a setter error. -/
def SetterError.kind : SetterError → String
  | unsynchronized => "Unsynchronized"
  | typeMismatch .. => "TypeMismatch"

/-- From a place and a value to work on the device. -/
abbrev Setter := Nat → Value → DeviceAction (Except SetterError Unit)

namespace Setter

/-- Makes one call. -/
def tell (call : BindCall) : DeviceAction (Except SetterError Unit) :=
  .ask (.bind call) fun _ => .done (.ok ())

/-- Refuses a value. -/
def refuse (reason : SetterError) : DeviceAction (Except SetterError Unit) := .done (.error reason)

/-- Refuses a value because of its type. -/
def mismatch (expected : Expected) (value : Value) : DeviceAction (Except SetterError Unit) :=
  refuse (.typeMismatch expected value.type.shortName)

/-- Sends values of a basic type as uniforms. -/
def uniform (type : BasicType) : Setter := fun place value =>
  match (if value.type = .basic type then value.uniform? else none) with
  | some uniform => tell (.uniform place uniform)
  | none => mismatch (.basic type) value

/-- Binds textures. -/
def texture : Setter
  | place, .texture name => tell (.texture place name)
  | _, value => mismatch (.basic .texture) value

/-- Binds the buffers of a shape to blocks of a kind. -/
def buffer (kind : BlockKind) (shape : BufferShape) : Setter := fun place value =>
  match shape.handle? value with
  | none => mismatch .bufferHandle value
  | some handle =>
    if handle.synchronized then tell (.buffer kind place handle.buffer) else refuse .unsynchronized

end Setter

/-- Vertex attribute format of a type made of numbers. -/
structure AttributeFormat where
  /-- The graphics interface's code for the kind of number. -/
  code : Nat
  components : Nat
  normalized : Bool := false
deriving DecidableEq, Repr

namespace AttributeFormat

/-- The code for floats; attributes of other numbers are not interpolated. -/
def floatCode : Nat := 5126

/-- The code for signed integers. -/
def intCode : Nat := 5124

/-- The code for unsigned integers. -/
def uintCode : Nat := 5125

/-- The format as a text. -/
def describe (format : AttributeFormat) : String :=
  "GlScalarSpec \x7b gl_type: " ++ toString format.code ++ ", components: "
    ++ toString format.components ++ ", normalized: " ++ toString format.normalized ++ " \x7d"

end AttributeFormat

/-- How host values of one type reach the GPU. -/
structure Conversion where
  type : TypeKey
  format : Option AttributeFormat := none
  /-- Sets plain uniforms. -/
  uniform : Option Setter := none
  /-- Sets sampler bindings. -/
  sampler : Option Setter := none
  /-- Sets the bindings of uniform blocks. -/
  uniformBlock : Option Setter := none
  /-- Sets the bindings of storage blocks. -/
  storageBlock : Option Setter := none

/-- The conversion as a text. -/
def Conversion.describe (conversion : Conversion) : String :=
  let format := match conversion.format with
    | some format => "Some(" ++ format.describe ++ ")"
    | none => "None"
  "ConversionSpec \x7b gl_type: " ++ conversion.type.describe ++ ", scalar: " ++ format
    ++ ", uniform: " ++ toString conversion.uniform.isSome
    ++ ", opaque: " ++ toString conversion.sampler.isSome
    ++ ", ubo: " ++ toString conversion.uniformBlock.isSome
    ++ ", ssbo: " ++ toString conversion.storageBlock.isSome ++ " \x7d"

end ShaderWeave
