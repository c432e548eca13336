import ShaderWeave.Host.Value

/-!
# Values from numbers

A value of a basic type is a row of components, and each component can be given as an integer: floats
by their bits, truth values as zero or not.

* `Scalar.ofInt` — the component that an integer stands for.
* `BasicType.value?` — the value with given components, none if their number is not that of the type.
-/

namespace ShaderWeave

/-- The component that an integer stands for. -/
def Scalar.ofInt : (kind : Scalar) → Int → kind.Carrier
  | .float, n => ⟨UInt32.ofInt n⟩
  | .int, n => Int32.ofInt n
  | .uint, n => UInt32.ofInt n
  | .bool, n => n != 0

/-- A list of a given length as a vector. -/
def vectorOf? {α : Type} (n : Nat) (items : List α) : Option (Vector α n) :=
  if h : items.toArray.size = n then some ⟨items.toArray, h⟩ else none

namespace BasicType

/-- The value with given components. -/
def value? : BasicType → List Int → Option Value
  | void, [] => some .void
  | scalar kind, [n] => some (.scalar kind (kind.ofInt n))
  | vector kind dim, ns => (vectorOf? _ (ns.map kind.ofInt)).map (.vector kind dim)
  | matrix dim, ns => (vectorOf? _ (ns.map (Scalar.ofInt .float))).map (.matrix dim)
  | texture, [n] => some (.texture n.toNat)
  | _, _ => none

end BasicType

end ShaderWeave
