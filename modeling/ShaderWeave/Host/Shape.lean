import ShaderWeave.Host.Type
import ShaderWeave.Layout

/-!
# What a host type says about itself

Beyond size and alignment a declared type may describe its inside (`TypeShape`): the fields of an
aggregate, a hand-written GLSL body, or the parts of a buffer.  A `Catalogue` lists the described
types; **a type that is not listed is plain.**  Descriptions refer to types by identity, so a
catalogue may describe types that contain themselves.
-/

namespace ShaderWeave

/-- A field of an aggregate. -/
structure Field where
  name : String
  type : HostType
deriving DecidableEq, Repr

/-- An aggregate with a hand-written GLSL body and layout. -/
structure StructLayout where
  body : String
  size : Nat
  align : Nat
  dependencies : List HostType
deriving DecidableEq, Repr

/-- A buffer: an optional header, then an optional array of elements. -/
structure BufferShape where
  header : Option HostType
  element : Option HostType
  /-- The type whose values carry the handle of the buffer; without one no value does. -/
  bearer : Option HostType
deriving DecidableEq, Repr

namespace BufferShape

/-- The buffer behind values of type `self`, where void stands for a part that is left out. -/
def pointer (self header element : HostType) : BufferShape where
  header := if header.isVoid then none else some header
  element := if element.isVoid then none else some element
  bearer := some self

/-- Host bytes of the header. -/
def headerSize (shape : BufferShape) : Nat := (shape.header.map HostType.size).getD 0

/-- Byte offset of the first element in host memory. -/
def firstElementOffset (shape : BufferShape) : Nat :=
  match shape.element with
  | some element => roundUp shape.headerSize (max element.align 1)
  | none => shape.headerSize

end BufferShape

/-- The inside of a host type. -/
inductive TypeShape where
  /-- Nothing beyond the identity; a conversion has to be registered explicitly. -/
  | plain
  /-- An aggregate described field by field. -/
  | fields (fields : List Field)
  /-- An aggregate with a hand-written body and layout. -/
  | layout (layout : StructLayout)
  /-- A buffer. -/
  | buffer (shape : BufferShape)
deriving DecidableEq, Repr

/-- The types of a host program that describe themselves. -/
structure Catalogue where
  described : List (HostType × TypeShape)

namespace Catalogue

/-- The catalogue that describes nothing. -/
def empty : Catalogue := ⟨[]⟩

/-- The shape of a type; a type that is not listed is plain. -/
def shape (catalogue : Catalogue) (type : HostType) : TypeShape :=
  ((catalogue.described.find? (·.1 == type)).map (·.2)).getD .plain

end Catalogue

end ShaderWeave
