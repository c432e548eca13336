import ShaderWeave.Layout

/-!
# GPU types

A `GpuType` is a type as GLSL sees it.  It may have a name for its values, a name for handles (a
sampler, say), the body of a struct, and, if it describes a buffer, an array without a size at the
end (`FlexibleMember`).  Types refer to each other by `TypeKey`, the order of their entry into a
registry.
-/

namespace ShaderWeave

/-- A GPU type of a registry, by the order of its entry. -/
structure TypeKey where
  index : Nat
deriving DecidableEq, Repr

/-- The key as a text; types are counted from one. -/
def TypeKey.describe (key : TypeKey) : String := "GlTypeKey(" ++ toString (key.index + 1) ++ "v1)"

/-- Size and alignment in the std140 layout, and the vertex attribute slots a value takes. -/
structure GpuLayout where
  size : Nat := 0
  align : Nat := 0
  slots : Nat := 0
deriving DecidableEq, Repr

namespace GpuLayout

/-- The alignment, at least one byte. -/
def step (layout : GpuLayout) : Nat := max layout.align 1

/-- Distance of consecutive array elements. -/
def stride (layout : GpuLayout) : Nat := roundUp layout.size layout.step

/-- Where a member goes when the bytes before `offset` are taken. -/
def place (layout : GpuLayout) (offset : Nat) : Nat := roundUp offset layout.step

end GpuLayout

/-- The array that closes a storage block. -/
structure FlexibleMember where
  element : TypeKey
  /-- Empty when the whole block is the array. -/
  name : String
  maxElements : Nat := 4294967295
deriving DecidableEq, Repr

/-- A type as GLSL sees it. -/
structure GpuType where
  /-- The name of the type of values, or empty. -/
  valueName : String := ""
  /-- The name of the type of handles, or empty. -/
  handleName : String := ""
  /-- The members of a struct or block, a line each. -/
  body : String := ""
  layout : GpuLayout := {}
  flexible : Option FlexibleMember := none
  dependencies : List TypeKey := []
deriving DecidableEq, Repr

namespace GpuType

/-- A type of values. -/
def value (name : String) (size align slots : Nat) : GpuType where
  valueName := name
  layout := { size, align, slots }

/-- A type of handles. -/
def handle (name : String) : GpuType where
  handleName := name

/-- Values of the type can be declared as variables. -/
def isStorable (type : GpuType) : Bool :=
  type.valueName ≠ "" || (type.body ≠ "" && type.flexible.isNone)

end GpuType

end ShaderWeave
