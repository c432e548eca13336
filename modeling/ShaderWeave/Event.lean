import ShaderWeave.Property.Basic
import ShaderWeave.Stage

/-!
# Events

What the library reports while it works.  An `Event` says what happened; its `level` says how much
it matters, and `text` is its wording.
-/

namespace ShaderWeave

/-- How much an event matters. -/
inductive Level where
  | error | warn | info | debug | trace
deriving DecidableEq, Repr

/-- The name of a level in logs. -/
def Level.label : Level → String
  | error => "ERROR"
  | warn => "WARN"
  | info => "INFO"
  | debug => "DEBUG"
  | trace => "TRACE"

/-- How a property reaches the stages of a program from outside. -/
inductive StorageClass where
  | uniform
  /-- A handle such as a sampler. -/
  | sampler
  | uniformBlock
  | storageBlock
deriving DecidableEq, Repr

/-- The name of a storage class in reports. -/
def StorageClass.label : StorageClass → String
  | uniform => "Uniform"
  | sampler => "Opaque"
  | uniformBlock => "Ubo"
  | storageBlock => "Ssbo"

/-- Something worth reporting. -/
inductive Event where
  /-- A renderer was opened on a context. -/
  | opened (major minor : Nat) (vendor : String) (glsl : Nat)
  /-- A stage was resolved. -/
  | resolved (stage : Stage) (tasks inputs outputs : Nat)
  /-- A host type got a conversion. -/
  | registered (type : HostType)
  /-- A property got a storage class. -/
  | stored (name : String) (cls : StorageClass)
  | shaderCompiled (stage : Stage)
  | shaderRejected (stage : Stage) (log source : String)
  | programLinked (stages : Nat)
  | programRejected (log : String)
  /-- The linked program has no place for a property. -/
  | optimizedOut (name : String)
  | cacheHit
  /-- A program needs more properties than were declared. -/
  | requires (needed declared : Nat)
  /-- The graphics driver sent a message. -/
  | driverMessage (level : Level) (id : Nat) (message : String)
deriving DecidableEq, Repr

namespace Event

/-- How much the event matters. -/
def level : Event → Level
  | opened .. | shaderCompiled .. | programLinked .. => .info
  | resolved .. => .trace
  | registered .. | stored .. | cacheHit | requires .. => .debug
  | shaderRejected .. | programRejected .. => .error
  | optimizedOut .. => .warn
  | driverMessage level _ _ => level

/-- The wording of the event. -/
def text : Event → String
  | opened major minor vendor glsl =>
    "OpenGL " ++ toString major ++ "." ++ toString minor ++ " (" ++ vendor
      ++ "), generating GLSL " ++ toString glsl
  | resolved stage tasks inputs outputs =>
    "resolved " ++ stage.name ++ " pipeline: " ++ toString tasks ++ " tasks, "
      ++ toString inputs ++ " inputs, " ++ toString outputs ++ " outputs"
  | registered type => "registered GPU conversion for " ++ type.shortName
  | stored name cls => "`" ++ name ++ "` is stored as " ++ cls.label
  | shaderCompiled stage => "compiled " ++ stage.name ++ " shader"
  | shaderRejected stage log source =>
    stage.name ++ " shader failed to compile:\n" ++ log ++ "\n" ++ source
  | programLinked stages => "linked program of " ++ toString stages ++ " stages"
  | programRejected log => "program failed to link:\n" ++ log
  | optimizedOut name => "`" ++ name ++ "` was optimized out of the program"
  | cacheHit => "shader cache hit"
  | requires needed declared =>
    "program requires " ++ toString needed ++ " properties, " ++ toString declared
      ++ " were declared"
  | driverMessage _ id message => "gl " ++ toString id ++ ": " ++ message

end Event

end ShaderWeave
