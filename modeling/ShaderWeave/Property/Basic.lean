import ShaderWeave.Host.Type

/-!
# Properties

A `Property` is a name with a host type.  A `PropertyList` is an ordered list of properties in which
**no name occurs twice**; the proof is part of the list.  Inserting a name that is present changes
nothing, and two lists are equal when they hold the same properties in the same order.
-/

namespace ShaderWeave

/-- A named, typed property. -/
structure Property where
  name : String
  type : HostType
deriving DecidableEq, Repr

namespace Property

/-- A void token: it carries no data and only orders tasks. -/
def token (name : String) : Property := ⟨name, .void⟩

/-- The property under another name. -/
def renamed (property : Property) (name : String) : Property := ⟨name, property.type⟩

/-- Tokens carry no data. -/
def isVoid (property : Property) : Bool := property.type.isVoid

/-- The property as a text. -/
def describe (property : Property) : String := property.name ++ ": " ++ property.type.shortName

end Property

/-- Properties in order, each name at most once. -/
structure PropertyList where
  entries : List Property
  nodup : (entries.map Property.name).Nodup
deriving DecidableEq

namespace PropertyList

/-- The empty list. -/
def empty : PropertyList := ⟨[], .nil⟩

/-- The names, in order. -/
def names (list : PropertyList) : List String := list.entries.map Property.name

/-- Number of properties. -/
def size (list : PropertyList) : Nat := list.entries.length

/-- No properties at all. -/
def isEmpty (list : PropertyList) : Bool := list.entries.isEmpty

/-- A property of this name is present. -/
def contains (list : PropertyList) (name : String) : Bool := decide (name ∈ list.names)

/-- The property of this name. -/
def get? (list : PropertyList) (name : String) : Option Property :=
  list.entries.find? (·.name == name)

/-- The place of the property of this name. -/
def position? (list : PropertyList) (name : String) : Option Nat :=
  list.entries.findIdx? (·.name == name)

/-- The properties that carry data. -/
def solid (list : PropertyList) : List Property := list.entries.filter fun p => !p.isVoid

/-- Appends a property unless its name is present. -/
def insert (list : PropertyList) (property : Property) : PropertyList :=
  if h : property.name ∈ list.names then list
  else ⟨list.entries ++ [property], by
    rw [List.map_append, List.nodup_append]
    refine ⟨list.nodup, by simp, ?_⟩
    intro a ha b hb
    obtain rfl : b = property.name := by simpa using hb
    exact fun hab => h (hab ▸ ha)⟩

/-- Appends properties one after the other. -/
def extend (list : PropertyList) (properties : List Property) : PropertyList :=
  properties.foldl insert list

/-- A list from properties, of which the first of each name stays. -/
def ofList (properties : List Property) : PropertyList := empty.extend properties

/-- Appends the properties of another list. -/
def merge (list other : PropertyList) : PropertyList := list.extend other.entries

/-- Removes the property of this name; the others keep their order. -/
def erase (list : PropertyList) (name : String) : PropertyList where
  entries := list.entries.filter (·.name != name)
  nodup := list.nodup.sublist (List.filter_sublist.map _)

/-- The list as a text. -/
def describe (list : PropertyList) : String :=
  "[" ++ String.intercalate ", " (list.entries.map Property.describe) ++ "]"

end PropertyList

end ShaderWeave
