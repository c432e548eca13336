import ShaderWeave.Host.ShortName

/-!
# Host types

A property has the type of the host value that feeds it.

* `BasicType` — the types every host knows: the void token, scalars, vectors and matrices of them,
  and textures.  Their host size and alignment are fixed (`BasicType.size`, `BasicType.align`).
* `HostType` — a basic type, or a type the host program declares by a qualified name, a size and an
  alignment.  Two host types are the same exactly when they are equal.
* `TypeSet` — types without repetition, in the order of their first insertion.
-/

namespace ShaderWeave

/-- Kinds of number a basic type is made of. -/
inductive Scalar where
  | float | int | uint | bool
deriving DecidableEq, Repr

/-- Number of components of a vector, or of rows and columns of a square matrix. -/
inductive Dim where
  | two | three | four
deriving DecidableEq, Repr

/-- The dimension as a number. -/
def Dim.toNat : Dim → Nat
  | two => 2
  | three => 3
  | four => 4

/-- Every dimension. -/
def Dim.all : List Dim := [two, three, four]

/-- The types every host knows. -/
inductive BasicType where
  /-- The void token: it carries no data and only orders tasks. -/
  | void
  | scalar (kind : Scalar)
  | vector (kind : Scalar) (dim : Dim)
  | matrix (dim : Dim)
  /-- A texture that is read through a sampler. -/
  | texture
deriving DecidableEq, Repr

namespace BasicType

/-- The name of the type, without any path. -/
def name : BasicType → String
  | void => "()"
  | scalar .float => "f32"
  | scalar .int => "i32"
  | scalar .uint => "u32"
  | scalar .bool => "bool"
  | vector .float dim => "Vec" ++ toString dim.toNat
  | vector .int dim => "IVec" ++ toString dim.toNat
  | vector .uint dim => "UVec" ++ toString dim.toNat
  | vector .bool dim => "BVec" ++ toString dim.toNat
  | matrix dim => "Mat" ++ toString dim.toNat
  | texture => "Texture"

/-- Every basic type. -/
def all : List BasicType :=
  let kinds : List Scalar := [.float, .int, .uint, .bool]
  [void] ++ kinds.map scalar ++ kinds.flatMap (fun kind => Dim.all.map (vector kind))
    ++ Dim.all.map matrix ++ [texture]

theorem mem_all (type : BasicType) : type ∈ all := by
  cases type with
  | void => decide
  | scalar kind => cases kind <;> decide
  | vector kind dim => cases kind <;> cases dim <;> decide
  | matrix dim => cases dim <;> decide
  | texture => decide

/-- Host bytes of a scalar. -/
def scalarSize : Scalar → Nat
  | .bool => 1
  | _ => 4

/-- Host size in bytes.  A matrix of three columns is stored without padding. -/
def size : BasicType → Nat
  | void => 0
  | scalar kind => scalarSize kind
  | vector kind dim => scalarSize kind * dim.toNat
  | matrix dim => 4 * dim.toNat * dim.toNat
  | texture => 4

/-- Host alignment in bytes.  Float vectors of four components and the matrices of two and four
columns are aligned for wide registers. -/
def align : BasicType → Nat
  | void => 1
  | scalar kind => scalarSize kind
  | vector .float .four => 16
  | vector kind _ => scalarSize kind
  | matrix .three => 4
  | matrix _ => 16
  | texture => 4

end BasicType

/-- A type of the host program. -/
inductive HostType where
  | basic (type : BasicType)
  /-- A declared type: its qualified name, its size and its alignment on the host. -/
  | declared (name : String) (size align : Nat)
deriving DecidableEq, Repr

namespace HostType

/-- The void token type. -/
def void : HostType := basic .void

/-- 32-bit float. -/
def float : HostType := basic (.scalar .float)

/-- 32-bit unsigned number. -/
def uint : HostType := basic (.scalar .uint)

/-- Three floats. -/
def vec3 : HostType := basic (.vector .float .three)

/-- Four floats. -/
def vec4 : HostType := basic (.vector .float .four)

/-- A texture. -/
def texture : HostType := basic .texture

/-- Properties of this type carry no data. -/
def isVoid (type : HostType) : Bool := type == void

/-- Host size in bytes. -/
def size : HostType → Nat
  | basic type => type.size
  | declared _ size _ => size

/-- Host alignment in bytes. -/
def align : HostType → Nat
  | basic type => type.align
  | declared _ _ align => align

/-- The name with every path removed; descriptions and messages use it. -/
def shortName : HostType → String
  | basic type => type.name
  | declared name _ _ => Host.shortName name

end HostType

/-- Types in the order of their first insertion. -/
structure TypeSet where
  order : List HostType
  nodup : order.Nodup

namespace TypeSet

/-- The set without members. -/
def empty : TypeSet := ⟨[], .nil⟩

/-- Membership. -/
def contains (set : TypeSet) (type : HostType) : Bool := decide (type ∈ set.order)

/-- Adds a type at the end unless it is present. -/
def insert (set : TypeSet) (type : HostType) : TypeSet :=
  if h : type ∈ set.order then set
  else ⟨set.order ++ [type], by
    rw [List.nodup_append]
    refine ⟨set.nodup, by simp, ?_⟩
    intro a ha b hb
    obtain rfl : b = type := by simpa using hb
    exact fun hab => h (hab ▸ ha)⟩

/-- Number of members. -/
def size (set : TypeSet) : Nat := set.order.length

/-- Adds types one after the other. -/
def insertAll (set : TypeSet) (types : List HostType) : TypeSet := types.foldl insert set

/-- The set as a text. -/
def describe (set : TypeSet) : String :=
  "TypeSet \x7b order: [" ++ String.intercalate ", " (set.order.map HostType.shortName) ++ "] \x7d"

end TypeSet

end ShaderWeave
