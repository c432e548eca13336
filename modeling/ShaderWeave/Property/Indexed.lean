import ShaderWeave.Property.Basic

/-!
# Property lists with an index

An `IndexedList` keeps the position of every name beside the properties, so that a name is found
without going through the list.  **Insertions and removals write to both:** an insertion notes the
position behind the last property, a removal moves everything behind the hole one place up.

The type does not say that the two agree.  The answers are those of a `PropertyList`, which needs no
index (`IndexedList.view`).
-/

namespace ShaderWeave

/-- Positions by name, in no particular order. -/
abbrev Index := List (String × Nat)

namespace Index

/-- The position under a name. -/
def position? (index : Index) (name : String) : Option Nat :=
  (index.find? (·.1 == name)).map (·.2)

/-- The index without a name. -/
def erase (index : Index) (name : String) : Index := index.filter (·.1 != name)

/-- Puts a position under a name, in place of any that was there. -/
def insert (index : Index) (name : String) (position : Nat) : Index :=
  (name, position) :: index.erase name

/-- Moves the positions behind a hole one place up. -/
def close (index : Index) (hole : Nat) : Index :=
  index.map fun (name, position) => (name, if hole < position then position - 1 else position)

end Index

/-- Properties in order, and where each name stands. -/
structure IndexedList where
  entries : List Property := []
  index : Index := []

namespace IndexedList

/-- The empty list. -/
def empty : IndexedList := {}

/-- The place of the property of this name. -/
def position? (list : IndexedList) (name : String) : Option Nat := list.index.position? name

/-- A property of this name is present. -/
def contains (list : IndexedList) (name : String) : Bool := (list.position? name).isSome

/-- The property of this name. -/
def get? (list : IndexedList) (name : String) : Option Property :=
  (list.position? name).bind fun position => list.entries[position]?

/-- Appends a property unless its name is present, and says whether it did. -/
def insert (list : IndexedList) (property : Property) : Bool × IndexedList :=
  if list.contains property.name then (false, list)
  else (true,
    { entries := list.entries ++ [property]
      index := list.index.insert property.name list.entries.length })

/-- Appends properties one after the other. -/
def extend (list : IndexedList) (properties : List Property) : IndexedList :=
  properties.foldl (fun list property => (list.insert property).2) list

/-- Appends the properties of another list. -/
def merge (list other : IndexedList) : IndexedList := list.extend other.entries

/-- Takes the property of this name out. -/
def remove (list : IndexedList) (name : String) : Option Property × IndexedList :=
  match list.position? name with
  | none => (none, list)
  | some hole =>
    (list.entries[hole]?,
      { entries := list.entries.eraseIdx hole
        index := (list.index.erase name).close hole })

/-- The list without its index. -/
def view (list : IndexedList) : PropertyList := .ofList list.entries

end IndexedList

end ShaderWeave
