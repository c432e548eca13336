/-!
# Shader stages
-/

namespace ShaderWeave

/-- The stages a program is made of. -/
inductive Stage where
  | vertex | fragment | compute
deriving DecidableEq, Repr

/-- The name of a stage in messages. -/
def Stage.name : Stage → String
  | vertex => "vertex"
  | fragment => "fragment"
  | compute => "compute"

end ShaderWeave
