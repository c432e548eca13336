import ShaderWeave.Host.Value

/-!
# GLSL literals

The constant expression that spells a host value: numbers as such, unsigned ones with a `u`, and
vectors and matrices as constructor calls, matrices column by column.
-/

namespace ShaderWeave

/-- A component as a constant expression. -/
def Scalar.literal : (kind : Scalar) → kind.Carrier → String
  | .float, x => x.text
  | .int, n => toString n.toInt
  | .uint, n => toString n.toNat ++ "u"
  | .bool, b => if b then "true" else "false"

/-- A constructor call. -/
def constructorCall (name : String) (parts : List String) : String :=
  name ++ "(" ++ String.intercalate ", " parts ++ ")"

/-- What stands before the dimension in the name of a vector type that has literals. -/
def Scalar.vectorName? : Scalar → Option String
  | .float => some "vec"
  | .int => some "ivec"
  | .uint => some "uvec"
  | .bool => none

/-- The constant expression for a value, if its type has one. -/
def Value.literal? : Value → Option String
  | .scalar kind x => some (kind.literal x)
  | .vector kind dim xs => kind.vectorName?.map fun name =>
    constructorCall (name ++ toString dim.toNat) (xs.toList.map kind.literal)
  | .matrix dim columns =>
    some (constructorCall ("mat" ++ toString dim.toNat) (columns.toList.map Single.text))
  | _ => none

end ShaderWeave
