import ShaderWeave.Gpu.VertexLayout
import ShaderWeave.Report.Basic

/-!
# Reports of types

What the library shows of the shape of host types, of GPU types and of conversions.  Keys are shown
counted from one.
-/

namespace ShaderWeave

instance : Reported Field := ⟨fun f => .list [f.name, f.type]⟩

instance : Reported TypeShape := ⟨fun
  | .plain => "opaque"
  | .fields fields => .record [("fields", fields)]
  | .layout layout => .record [("layout", .record [("body", layout.body), ("size", layout.size),
      ("align", layout.align), ("deps", layout.dependencies)])]
  | .buffer shape => .record [("buffer", .record [("header", shape.header),
      ("element", shape.element), ("first_element", shape.firstElementOffset)])]⟩

/-- What is known of a host type. -/
def HostType.report (names : HostNames) (catalogue : Catalogue) (type : HostType) : Report :=
  .record [("name", names.qualified type), ("short", type.shortName), ("debug", type.shortName),
    ("size", type.size), ("align", type.align), ("void", type.isVoid),
    ("meta", catalogue.shape type)]

/-- A value by its type, and by its number if it is one. -/
instance : Reported Value := ⟨fun value =>
  .list [value.describe, value.float?.map fun x => x.bits.toNat, value.uint?.map UInt32.toNat]⟩

instance : Reported TypeKey := ⟨fun key => report (key.index + 1)⟩
instance : Reported ConversionKey := ⟨fun key => report (key.index + 1)⟩

instance : Reported FlexibleMember := ⟨fun f => .list [f.element, f.name, f.maxElements]⟩

instance : Reported GpuType := ⟨fun type =>
  .record [("value", type.valueName), ("opaque", type.handleName), ("body", type.body),
    ("size", type.layout.size), ("align", type.layout.align), ("slots", type.layout.slots),
    ("stride", type.layout.stride), ("flexible", type.flexible), ("deps", type.dependencies)]⟩

instance : Reported AttributeFormat := ⟨fun f => .list [f.code, f.components, f.normalized]⟩

/-- A conversion, with its GPU type. -/
def Registry.conversionFields (registry : Registry) (conversion : Conversion) :
    List (String × Report) :=
  [("type_key", conversion.type), ("type", registry.type conversion.type),
    ("scalar", conversion.format), ("debug", conversion.describe)]

/-- The components of a vertex, and where given names are. -/
def VertexLayout.report (layout : VertexLayout) (names : List String) : Report :=
  .record [("len", layout.components.length), ("empty", layout.components.isEmpty),
    ("specs", layout.components.map fun (p, location) => Report.list [p.name, p.type, location]),
    ("query", names.map fun name => Report.list [layout.contains name, layout.location? name])]

end ShaderWeave
