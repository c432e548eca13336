import ShaderWeave.Host.Components

/-!
# Values for uniforms

A uniform is a number, a vector or a square matrix.  `Value.uniform?` is the uniform that carries a
host value, if there is one.
-/

namespace ShaderWeave

/-- Kinds of number a uniform is made of. -/
inductive Number where
  | float | int | uint
deriving DecidableEq, Repr

/-- What one component of a kind of number holds. -/
abbrev Number.Carrier : Number → Type
  | .float => Single
  | .int => Int32
  | .uint => UInt32

namespace Number

/-- Every kind of number. -/
def all : List Number := [float, int, uint]

/-- A component as an integer; floats go as their bits. -/
def toInt : (kind : Number) → kind.Carrier → Int
  | .float, x => x.bits.toNat
  | .int, n => n.toInt
  | .uint, n => n.toNat

/-- The component that an integer stands for. -/
def ofInt : (kind : Number) → Int → kind.Carrier
  | .float, n => ⟨UInt32.ofInt n⟩
  | .int, n => Int32.ofInt n
  | .uint, n => UInt32.ofInt n

end Number

/-- A value for a uniform. -/
inductive UniformValue where
  | scalar (kind : Number) (component : kind.Carrier)
  | vector (kind : Number) (dim : Dim) (components : Vector kind.Carrier dim.toNat)
  /-- A square matrix, column by column. -/
  | matrix (dim : Dim) (columns : Vector Single (dim.toNat * dim.toNat))

namespace UniformValue

/-- The name of the kind of value, such as `Float`, `IVec2` or `Mat3`. -/
def kind : UniformValue → String
  | scalar .float _ => "Float"
  | scalar .int _ => "Int"
  | scalar .uint _ => "UInt"
  | vector .float dim _ => "Vec" ++ toString dim.toNat
  | vector .int dim _ => "IVec" ++ toString dim.toNat
  | vector .uint dim _ => "UVec" ++ toString dim.toNat
  | matrix dim _ => "Mat" ++ toString dim.toNat

/-- The components as integers. -/
def components : UniformValue → List Int
  | scalar kind x => [kind.toInt x]
  | vector kind _ xs => xs.toList.map kind.toInt
  | matrix _ columns => columns.toList.map (Number.toInt .float)

/-- The value of a kind with given components. -/
def ofComponents? (kind : String) (ns : List Int) : Option UniformValue :=
  let scalars := match ns with
    | [n] => Number.all.map fun kind => scalar kind (kind.ofInt n)
    | _ => []
  let vectors := Number.all.flatMap fun kind => Dim.all.filterMap fun dim =>
    (vectorOf? _ (ns.map kind.ofInt)).map (vector kind dim)
  let matrices := Dim.all.filterMap fun dim =>
    (vectorOf? _ (ns.map (Number.ofInt .float))).map (matrix dim)
  (scalars ++ vectors ++ matrices).find? fun value => value.kind == kind

end UniformValue

/-- A truth value as the device takes it. -/
def boolToInt (b : Bool) : Int32 := if b then 1 else 0

/-- The uniform that carries a value.  Truth values go as integers. -/
def Value.uniform? : Value → Option UniformValue
  | .scalar .float x => some (.scalar .float x)
  | .scalar .int n => some (.scalar .int n)
  | .scalar .uint n => some (.scalar .uint n)
  | .scalar .bool b => some (.scalar .int (boolToInt b))
  | .vector .float dim xs => some (.vector .float dim xs)
  | .vector .int dim xs => some (.vector .int dim xs)
  | .vector .uint dim xs => some (.vector .uint dim xs)
  | .vector .bool dim xs => some (.vector .int dim (xs.map boolToInt))
  | .matrix dim columns => some (.matrix dim columns)
  | _ => none

end ShaderWeave
