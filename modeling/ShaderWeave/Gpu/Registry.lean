import ShaderWeave.Error
import ShaderWeave.Gpu.TypeName

/-!
# The type registry

A `Registry` knows GPU types and how host types convert to them.  Records are only ever added, so
keys stay valid for as long as the registry is used.

* `Registry.specify` and `Registry.register` add a GPU type and a conversion by hand.
* `Registry.convert` finds the conversion of a host type and registers one on first use, from what
  the type says about itself in a `Catalogue`: aggregates get a struct, buffers a block.  **Only sizes
  are compared with the host:** that of a whole aggregate, and of a buffer those of the header, of
  what stands before the elements and of each element, all in the std140 layout.
* `Registry.ofBasics` starts a registry with the basic types.

While a type is being registered it is `pending`, and a pending type that is needed again contains
itself.  What was added before a failure stays.
-/

namespace ShaderWeave

/-- A conversion of a registry, by the order of its entry. -/
structure ConversionKey where
  index : Nat
deriving DecidableEq, Repr

/-- GPU types, and how host types convert to them. -/
structure Registry where
  types : Array GpuType := #[]
  conversions : Array Conversion := #[]
  /-- The conversion of each host type, the latest first. -/
  byHost : List (HostType × ConversionKey) := []
  /-- Host types whose registration has begun, the latest first. -/
  pending : List HostType := []

namespace Registry

/-- The registry without types. -/
def empty : Registry := {}

/-- Adds a GPU type. -/
def specify (registry : Registry) (type : GpuType) : TypeKey × Registry :=
  (⟨registry.types.size⟩, { registry with types := registry.types.push type })

/-- Adds a conversion without giving it to a host type. -/
def addConversion (registry : Registry) (conversion : Conversion) : ConversionKey × Registry :=
  (⟨registry.conversions.size⟩,
    { registry with conversions := registry.conversions.push conversion })

/-- Gives a host type a conversion; it hides any the type had. -/
def assign (registry : Registry) (host : HostType) (key : ConversionKey) : Registry :=
  { registry with byHost := (host, key) :: registry.byHost }

/-- Adds a conversion for a host type. -/
def register (registry : Registry) (host : HostType) (conversion : Conversion) :
    ConversionKey × Registry :=
  let (key, registry) := registry.addConversion conversion
  (key, registry.assign host key)

/-- The key of a host type's conversion. -/
def key? (registry : Registry) (host : HostType) : Option ConversionKey :=
  (registry.byHost.find? (·.1 == host)).map (·.2)

/-- The GPU type under a key. -/
def type (registry : Registry) (key : TypeKey) : GpuType := registry.types[key.index]?.getD {}

/-- The conversion under a key. -/
def conversion (registry : Registry) (key : ConversionKey) : Conversion :=
  registry.conversions[key.index]?.getD ⟨⟨0⟩, none, none, none, none, none⟩

/-- The conversion of a host type, if it has one. -/
def lookup? (registry : Registry) (host : HostType) : Option Conversion :=
  (registry.key? host).map registry.conversion

/-- The GPU type of a host type, if it has a conversion. -/
def typeOf? (registry : Registry) (host : HostType) : Option GpuType :=
  (registry.lookup? host).map fun conversion => registry.type conversion.type

/-- The GLSL names of host types. -/
def typeNames (registry : Registry) : TypeNames where
  value := fun host => (registry.typeOf? host).map GpuType.valueName
  handle := fun host => (registry.typeOf? host).map GpuType.handleName

/-! ## Registration on first use -/

/-- Work that may add to a registry, and keeps what it added when it fails. -/
abbrev Action := EStateM SpecificationError Registry

/-- Adds a GPU type as an action. -/
def specifyM (type : GpuType) : Action TypeKey := fun registry =>
  let (key, registry) := registry.specify type
  .ok key registry

/-- Adds a conversion as an action. -/
def addConversionM (conversion : Conversion) : Action ConversionKey := fun registry =>
  let (key, registry) := registry.addConversion conversion
  .ok key registry

/-- The key of the GPU type of a host type. -/
def typeKey (convert : HostType → Action ConversionKey) (host : HostType) : Action TypeKey := do
  let key ← convert host
  return ((← get).conversion key).type

/-- Adds a key unless it is present. -/
def addKey (keys : List TypeKey) (key : TypeKey) : List TypeKey :=
  if key ∈ keys then keys else keys ++ [key]

/-- Accepts a struct whose size is that of its host type, and names it after the host type. -/
def addStruct (host : HostType) (layout : StructLayout) (dependencies : List TypeKey) :
    Action ConversionKey := do
  if layout.size ≠ host.size then
    throw (.layoutMismatch host (.structSize layout.size host.size))
  let type ← specifyM
    { valueName := TypeName.ofHostName host.shortName
      body := layout.body
      layout := { size := layout.size, align := layout.align }
      dependencies }
  addConversionM { type }

/-- A struct under construction, member by member. -/
structure Members where
  body : String := ""
  dependencies : List TypeKey := []
  /-- Bytes taken so far. -/
  offset : Nat := 0
  align : Nat := 1

/-- Puts a member after the others. -/
def Members.add (members : Members) (name : String) (key : TypeKey) (type : GpuType) : Members where
  body := members.body ++ "\t" ++ type.valueName ++ " " ++ name ++ ";\n"
  dependencies := addKey members.dependencies key
  offset := type.layout.place members.offset + type.layout.size
  align := max members.align type.layout.align

/-- The finished struct.  Its alignment is rounded up to that of a vector of four. -/
def Members.layout (members : Members) : StructLayout :=
  let align := roundUp members.align 16
  { body := members.body, size := roundUp members.offset align, align, dependencies := [] }

/-- Adds the next field of an aggregate. -/
def addField (convert : HostType → Action ConversionKey) (members : Members) (field : Field) :
    Action Members := do
  let key ← typeKey convert field.type
  let type := (← get).type key
  if type.valueName = "" || type.flexible.isSome then
    throw (.unnamedType .structMember field.name field.type)
  return members.add field.name key type

/-- Registers an aggregate field by field. -/
def addFields (convert : HostType → Action ConversionKey) (host : HostType)
    (fields : List Field) : Action ConversionKey := do
  let members ← fields.foldlM (addField convert) {}
  addStruct host members.layout members.dependencies

/-- Registers an aggregate with a hand-written body. -/
def addLayout (convert : HostType → Action ConversionKey) (host : HostType)
    (layout : StructLayout) : Action ConversionKey := do
  let dependencies ← layout.dependencies.foldlM
    (fun keys dependency => return addKey keys (← typeKey convert dependency)) []
  addStruct host layout dependencies

/-- The part of a buffer's type that its header makes. -/
def bufferHeader (convert : HostType → Action ConversionKey) (host header : HostType) :
    Action GpuType := do
  let key ← typeKey convert header
  let type := (← get).type key
  if type.body = "" && type.valueName = "" then
    throw (.layoutMismatch host (.unnamedHeader header))
  if type.layout.size ≠ header.size then
    throw (.layoutMismatch host (.headerSize type.layout.size header.size))
  return {
    body := if type.body ≠ "" then type.body else "\t" ++ type.valueName ++ " header;\n"
    layout := { size := type.layout.size, align := type.layout.align }
    dependencies := [key] }

/-- Puts the elements of a buffer after its header. -/
def bufferElements (convert : HostType → Action ConversionKey) (host : HostType)
    (shape : BufferShape) (block : GpuType) (element : HostType) : Action GpuType := do
  let key ← typeKey convert element
  let layout := ((← get).type key).layout
  let start := layout.place block.layout.size
  if start ≠ shape.firstElementOffset then
    throw (.layoutMismatch host (.firstElement start shape.firstElementOffset))
  if layout.stride ≠ element.size then
    throw (.layoutMismatch host (.stride layout.stride element.size))
  return { block with
    layout := { size := start, align := max block.layout.align layout.step }
    flexible := some { element := key, name := if shape.header.isSome then "elements" else "" }
    dependencies := block.dependencies ++ [key] }

/-- Registers a buffer.  Its values can be bound to storage blocks only. -/
def addBuffer (convert : HostType → Action ConversionKey) (host : HostType)
    (shape : BufferShape) : Action ConversionKey := do
  let block ← match shape.header with
    | some header => bufferHeader convert host header
    | none => pure {}
  let block ← match shape.element with
    | some element => bufferElements convert host shape block element
    | none => pure block
  let type ← specifyM block
  addConversionM { type, storageBlock := some (Setter.buffer .storage shape) }

/-- Registers a host type from its shape. -/
def addShape (convert : HostType → Action ConversionKey) (host : HostType) :
    TypeShape → Action ConversionKey
  | .plain => throw (.unsupported host)
  | .fields fields => addFields convert host fields
  | .layout layout => addLayout convert host layout
  | .buffer shape => addBuffer convert host shape

/-- The registration of a type has begun. -/
def begin (registry : Registry) (host : HostType) : Registry :=
  { registry with pending := host :: registry.pending }

/-- The registration that began last has ended. -/
def finish (registry : Registry) : Registry := { registry with pending := registry.pending.tail }

/-- The conversion of a host type, registered on first use; types nest at most `depth` deep. -/
def convertWithin (catalogue : Catalogue) : Nat → HostType → Action ConversionKey
  | depth, host => fun registry =>
    match registry.key? host with
    | some key => .ok key registry
    | none =>
      if host ∈ registry.pending then .error (.recursiveType host) registry
      else
        match depth with
        | 0 => .error (.recursiveType host) registry
        | depth + 1 =>
          match addShape (convertWithin catalogue depth) host (catalogue.shape host)
              (registry.begin host) with
          | .ok key registry => .ok key (registry.finish.assign host key)
          | .error error registry => .error error registry.finish

/-- The conversion of a host type, registered on first use.  Only described types contain others, so
types nest no deeper than there are described ones, unless a type contains itself. -/
def convert (catalogue : Catalogue) (host : HostType) : Action ConversionKey :=
  convertWithin catalogue (catalogue.described.length + 1) host

/-- Host types that got a conversion since an earlier state of the registry, in order. -/
def newSince (registry earlier : Registry) : List HostType :=
  ((registry.byHost.take (registry.byHost.length - earlier.byHost.length)).map (·.1)).reverse

/-! ## The basic types -/

/-- Adds a basic type whose values are sent as uniforms. -/
def addBasic (registry : Registry) (basic : BasicType) (type : GpuType)
    (format : Option AttributeFormat) : Registry :=
  let (key, registry) := registry.specify type
  (registry.register (.basic basic)
    { type := key, format, uniform := some (Setter.uniform basic) }).2

/-- The GPU type of vectors: three components are aligned like four. -/
def vectorType (name : String) : Dim → GpuType
  | .two => .value (name ++ "2") 8 8 1
  | .three => .value (name ++ "3") 12 16 1
  | .four => .value (name ++ "4") 16 16 1

/-- The GPU type of square matrices: every column is padded to a vector of four. -/
def matrixType (dim : Dim) : GpuType :=
  .value ("mat" ++ toString dim.toNat) (16 * dim.toNat) 16 dim.toNat

/-- Adds a scalar and the vectors of it. -/
def addScalar (registry : Registry) (kind : Scalar) (name vector : String) (code : Option Nat) :
    Registry :=
  let format (components : Nat) : Option AttributeFormat := code.map fun code => { code, components }
  Dim.all.foldl
    (fun registry dim =>
      registry.addBasic (.vector kind dim) (vectorType vector dim) (format dim.toNat))
    (registry.addBasic (.scalar kind) (.value name 4 4 1) (format 1))

/-- The void type has a conversion without setters. -/
def addVoid (registry : Registry) : Registry :=
  let (key, registry) := registry.specify {}
  (registry.register .void { type := key }).2

/-- Textures are bound through samplers. -/
def addTexture (registry : Registry) : Registry :=
  let (key, registry) := registry.specify (.handle "sampler2D")
  (registry.register .texture { type := key, sampler := some Setter.texture }).2

/-- A registry with the basic types. -/
def ofBasics : Registry :=
  let registry := empty.addVoid
    |>.addScalar .float "float" "vec" (some AttributeFormat.floatCode)
    |>.addScalar .int "int" "ivec" (some AttributeFormat.intCode)
    |>.addScalar .uint "uint" "uvec" (some AttributeFormat.uintCode)
    |>.addScalar .bool "bool" "bvec" none
  let registry := Dim.all.foldl
    (fun registry dim => registry.addBasic (.matrix dim) (matrixType dim)
      (some { code := AttributeFormat.floatCode, components := dim.toNat })) registry
  registry.addTexture

end Registry

end ShaderWeave
