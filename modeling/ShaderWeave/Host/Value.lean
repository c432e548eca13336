import ShaderWeave.Decimal.Single
import ShaderWeave.Host.Shape

/-!
# Host values

A `Value` is what the host binds to a property.

* Numbers are exact: floats are kept as bits (`Single`), integers in 32 bits.
* `Value.type` is the host type of a value; the payload always fits it.
* A value of a declared type is known by its type alone, except that it may carry the handle of a
  GPU buffer (`BufferHandle`).
* `PropertyMap` — values by property name, a later one replacing an earlier one.
-/

namespace ShaderWeave

/-- A GPU buffer that host and device share.  While host writes are pending it is not
synchronized, and must not be bound. -/
structure BufferHandle where
  buffer : Nat
  synchronized : Bool
deriving DecidableEq, Repr

/-- What one component of a scalar kind holds. -/
abbrev Scalar.Carrier : Scalar → Type
  | .float => Single
  | .int => Int32
  | .uint => UInt32
  | .bool => Bool

/-- A value of the host. -/
inductive Value where
  /-- The void token. -/
  | void
  | scalar (kind : Scalar) (component : kind.Carrier)
  | vector (kind : Scalar) (dim : Dim) (components : Vector kind.Carrier dim.toNat)
  /-- A square matrix, column by column. -/
  | matrix (dim : Dim) (columns : Vector Single (dim.toNat * dim.toNat))
  /-- A texture, by the name the device gave it. -/
  | texture (name : Nat)
  /-- A value of a declared type. -/
  | declared (name : String) (size align : Nat) (handle : Option BufferHandle)

namespace Value

/-- The host type of a value. -/
def type : Value → HostType
  | void => .void
  | scalar kind _ => .basic (.scalar kind)
  | vector kind dim _ => .basic (.vector kind dim)
  | matrix dim _ => .basic (.matrix dim)
  | texture _ => .texture
  | declared name size align _ => .declared name size align

/-- The float in a value, if it is one. -/
def float? : Value → Option Single
  | scalar .float x => some x
  | _ => none

/-- The unsigned number in a value, if it is one. -/
def uint? : Value → Option UInt32
  | scalar .uint n => some n
  | _ => none

/-- The buffer handle a value carries. -/
def handle? : Value → Option BufferHandle
  | declared _ _ _ handle => handle
  | _ => none

/-- A value as a text: only its type shows. -/
def describe (value : Value) : String := "Value(" ++ value.type.shortName ++ ")"

end Value

/-- The handle that a value yields for a buffer: only values of the bearer type have one. -/
def BufferShape.handle? (shape : BufferShape) (value : Value) : Option BufferHandle :=
  if shape.bearer = some value.type then value.handle? else none

/-- Values by property name. -/
structure PropertyMap where
  entries : List (String × Value)

namespace PropertyMap

/-- The map without values. -/
def empty : PropertyMap := ⟨[]⟩

/-- The value of a property. -/
def get? (map : PropertyMap) (name : String) : Option Value :=
  (map.entries.find? (·.1 == name)).map (·.2)

/-- Forgets the value of a property. -/
def erase (map : PropertyMap) (name : String) : PropertyMap :=
  ⟨map.entries.filter (·.1 != name)⟩

/-- Gives a property a value, in place of any it had. -/
def insert (map : PropertyMap) (name : String) (value : Value) : PropertyMap :=
  ⟨(map.erase name).entries ++ [(name, value)]⟩

/-- Number of properties with a value. -/
def size (map : PropertyMap) : Nat := map.entries.length

/-- A map from pairs, of which a later one replaces an earlier one. -/
def ofList (pairs : List (String × Value)) : PropertyMap :=
  pairs.foldl (fun map pair => map.insert pair.1 pair.2) empty

end PropertyMap

end ShaderWeave
