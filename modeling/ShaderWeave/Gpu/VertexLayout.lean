import ShaderWeave.Gpu.Registry

/-!
# Vertex attributes

A `VertexLayout` gives mesh vertex components their attribute locations.  A component takes as many
slots as its GPU type says, and **locations are handed out one after the other:** each component starts
where the one before it ended.  A name that is specified again keeps its location.
-/

namespace ShaderWeave

/-- Vertex components and their attribute locations. -/
structure VertexLayout where
  /-- The components in order, each with its location. -/
  components : List (Property × Nat) := []
  /-- The first free slot. -/
  next : Nat := 0

namespace VertexLayout

/-- The layout without components. -/
def empty : VertexLayout := {}

/-- The location of a component. -/
def location? (layout : VertexLayout) (name : String) : Option Nat :=
  (layout.components.find? (·.1.name == name)).map (·.2)

/-- The name is a vertex component. -/
def contains (layout : VertexLayout) (name : String) : Bool := (layout.location? name).isSome

/-- Puts a component that takes `slots` slots after the others. -/
def add (layout : VertexLayout) (property : Property) (slots : Nat) : VertexLayout where
  components := layout.components ++ [(property, layout.next)]
  next := layout.next + slots

/-- Makes a property a vertex component and yields its location. -/
def specify (catalogue : Catalogue) (layout : VertexLayout) (property : Property) :
    Registry.Action (Nat × VertexLayout) := do
  let key ← Registry.typeKey (Registry.convert catalogue) property.type
  match layout.location? property.name with
  | some location => return (location, layout)
  | none =>
    let slots := ((← get).type key).layout.slots
    return (layout.next, layout.add property slots)

end VertexLayout

end ShaderWeave
