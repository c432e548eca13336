import ShaderWeave.Device.Info
import ShaderWeave.Gpu.Uniform
import ShaderWeave.Stage

/-!
# Devices

A device is anything that answers requests.  `Request α` is a request whose answer is an `α`; an
instance of `Device σ` answers every request from a state `σ` and says what state it leaves.  The
library never looks into the state, so **what holds of a compile holds on every device.**

Requests that only change what the next draw uses are `BindCall`s.
-/

namespace ShaderWeave

/-- A shader object of a device. -/
structure ShaderName where
  id : Nat
deriving DecidableEq, Repr

/-- A program object of a device. -/
structure ProgramName where
  id : Nat
deriving DecidableEq, Repr

/-- Kinds of block a buffer is bound to. -/
inductive BlockKind where
  | uniform | storage
deriving DecidableEq, Repr

/-- A change of what the next draw or dispatch uses. -/
inductive BindCall where
  | program (program : Option ProgramName)
  | uniform (location : Nat) (value : UniformValue)
  | texture (unit texture : Nat)
  | buffer (kind : BlockKind) (index buffer : Nat)

/-- A request to a device, by the type of its answer. -/
inductive Request : Type → Type where
  | createShader (stage : Stage) : Request (Except String ShaderName)
  /-- Uploads a source and compiles it; the answer is whether it compiled. -/
  | compileShader (shader : ShaderName) (source : String) : Request Bool
  | shaderLog (shader : ShaderName) : Request String
  | deleteShader (shader : ShaderName) : Request Unit
  | createProgram : Request (Except String ProgramName)
  | attachShader (program : ProgramName) (shader : ShaderName) : Request Unit
  | detachShader (program : ProgramName) (shader : ShaderName) : Request Unit
  /-- The answer is whether the program linked. -/
  | linkProgram (program : ProgramName) : Request Bool
  | programLog (program : ProgramName) : Request String
  | deleteProgram (program : ProgramName) : Request Unit
  /-- Where a uniform is, if the program has it. -/
  | uniformLocation (program : ProgramName) (name : String) : Request (Option Nat)
  /-- The index of a block, if the program has it. -/
  | blockIndex (kind : BlockKind) (program : ProgramName) (name : String) : Request (Option Nat)
  | bind (call : BindCall) : Request Unit

/-- A state that answers requests. -/
class Device (σ : Type) where
  info : σ → DeviceInfo
  perform : {α : Type} → Request α → σ → α × σ

/-- Asks the device at hand. -/
def ask {σ α : Type} [Device σ] (request : Request α) : StateM σ α := Device.perform request

end ShaderWeave
