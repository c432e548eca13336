import ShaderWeave.Pipeline.Basic

/-!
# What a program is asked to be

* `StageRequest` — one stage of a program: its kind, its aliases, the mark in front of the variables
  it hands on, and, for a compute stage, the shape of its dispatch.
* `ProgramKey` — everything that shapes a program from the caller's side: a surface program (a vertex
  and a fragment stage) or a compute program.  Keys are equal when they agree in every part.
-/

namespace ShaderWeave

/-! ## Marks

The variable that holds a property has the name of the property behind a mark for its place. -/

namespace Mark

/-- Plain uniforms. -/
def uniform : String := "uniform_"
/-- Samplers and other handles. -/
def sampler : String := "bind_"
/-- Uniform blocks. -/
def uniformBlock : String := "ubo_block_"
/-- What is in a uniform block. -/
def uniformContent : String := "ubo_"
/-- Storage blocks. -/
def storageBlock : String := "buffer_block_"
/-- What is in a storage block. -/
def storageContent : String := "buffer_"
/-- Variables inside `main`. -/
def inner : String := "tmp_"
/-- Vertex attributes. -/
def element : String := "elem_"
/-- What a vertex stage hands on. -/
def vertexOut : String := "vert_"
/-- What a fragment stage writes. -/
def fragmentOut : String := "frag_"
/-- What a compute stage produces. -/
def computeOut : String := "comp_"

end Mark

/-- The variable every vertex stage writes; aliases lead from it to the property it is taken
from. -/
def vertexPosition : String := "gl_Position"

/-- An assignment that runs before the first task. -/
structure Copy where
  target : String
  source : String
deriving DecidableEq, Repr

/-! ## Names of properties that every renderer knows -/

namespace Standard

/-- Position of a vertex. -/
def position : String := "position"
/-- Normal of a vertex. -/
def normal : String := "normal"
/-- Texture coordinate of a vertex. -/
def coordBase : String := "coord_base"
/-- Position of a vertex as it is seen. -/
def positionView : String := "position_view"

end Standard

/-- One thing per axis of a dispatch. -/
structure Axes (α : Type) where
  x : α
  y : α
  z : α
deriving DecidableEq, Repr

/-- The three in order. -/
def Axes.toList {α : Type} (axes : Axes α) : List α := [axes.x, axes.y, axes.z]

/-- Number of invocations along an axis. -/
inductive InvocationCount where
  | fixed (count : Nat)
  /-- Read from a property when the program is dispatched. -/
  | property (property : Property)
deriving DecidableEq, Repr

/-- The shape of a dispatch. -/
structure Dispatch where
  counts : Axes InvocationCount := ⟨.fixed 1, .fixed 1, .fixed 1⟩
  group : Axes Nat := ⟨1, 1, 1⟩
  /-- Unless set, invocations past the count return early. -/
  allowOutOfBounds : Bool := false
deriving DecidableEq, Repr

/-- One stage of a program. -/
structure StageRequest where
  stage : Stage
  aliases : Aliases
  /-- The mark of the variables the stage hands on. -/
  outMark : String
  dispatch : Option Dispatch := none

namespace StageRequest

/-- A vertex stage. -/
def vertex (aliases : Aliases) : StageRequest :=
  { stage := .vertex, aliases, outMark := Mark.vertexOut }

/-- A fragment stage. -/
def fragment (aliases : Aliases) : StageRequest :=
  { stage := .fragment, aliases, outMark := Mark.fragmentOut }

/-- A compute stage. -/
def compute (aliases : Aliases) (dispatch : Dispatch) : StageRequest :=
  { stage := .compute, aliases, outMark := Mark.computeOut, dispatch := some dispatch }

/-- The dispatch whose bounds the stage has to guard. -/
def guarded? (request : StageRequest) : Option Dispatch :=
  request.dispatch.filter fun dispatch => !dispatch.allowOutOfBounds

end StageRequest

/-- Everything that shapes a program with a vertex and a fragment stage. -/
structure SurfaceKey where
  aliases : Aliases
  outputs : PropertyList
  /-- The property the vertex stage takes its position from. -/
  position : String := Standard.positionView
deriving DecidableEq

/-- Everything that shapes a compute program. -/
structure ComputeKey where
  aliases : Aliases
  outputs : PropertyList
  dispatch : Dispatch
deriving DecidableEq

/-- Everything that shapes a program. -/
inductive ProgramKey where
  | surface (key : SurfaceKey)
  | compute (key : ComputeKey)
deriving DecidableEq

namespace ProgramKey

/-- The stages of the program, in order.  In the vertex stage of a surface the position goes to the
chosen property. -/
def stages : ProgramKey → List StageRequest
  | surface key =>
    [.vertex (.layered [key.aliases] (.ofList [(vertexPosition, key.position)])),
      .fragment key.aliases]
  | compute key => [.compute key.aliases key.dispatch]

/-- What the program is to produce. -/
def desired : ProgramKey → PropertyList
  | surface key => key.outputs
  | compute key => key.outputs

end ProgramKey

end ShaderWeave
