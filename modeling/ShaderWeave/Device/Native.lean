import ShaderWeave.Device.Basic
import ShaderWeave.Device.Version
import ShaderWeave.Event
import ShaderWeave.Text.Blank

/-!
# The native device

A `Native` device answers requests by commands to a graphics context.

* `Command` — a command of the graphics interface, by name, with its arguments.
* `Context` — a context that keeps the commands it is given and answers them by simple rules: objects
  and locations are numbered, and what is to fail is set beforehand.
* `Native.open?` — reads what the context tells about itself and turns debug messages on.
* `Native.answer` — the commands of each request.
-/

namespace ShaderWeave

/-- An argument of a command. -/
inductive Argument where
  | number (value : Int)
  | text (value : String)
  | numbers (values : List Int)
deriving DecidableEq, Repr

/-- A command of the graphics interface. -/
structure Command where
  function : String
  arguments : List Argument := []
deriving DecidableEq, Repr

/-- A command whose arguments are numbers. -/
def Command.ofNats (function : String) (arguments : List Nat) : Command :=
  ⟨function, arguments.map fun (n : Nat) => .number n⟩

/-- The number of the object a command is about. -/
def Command.target (command : Command) : Int :=
  match command.arguments with
  | .number n :: _ => n
  | _ => 0

/-- A graphics context that keeps its commands. -/
structure Context where
  version : String
  extensions : List String := []
  /-- What the context says of its limits, as signed numbers: texture units, bytes of a uniform
  block, storage buffers, invocations of a work group. -/
  textureUnits : Int := 32
  uniformBlockSize : Int := 65536
  storageBuffers : Int := 16
  groupInvocations : Int := 1024
  /-- No shader can be created. -/
  failShader : Bool := false
  /-- No program can be created. -/
  failProgram : Bool := false
  failLink : Bool := false
  /-- Sources that contain this text do not compile. -/
  failingText : Option String := none
  /-- What every log says. -/
  log : String := ""
  /-- Names without a location. -/
  missing : List String := []
  lastName : Nat := 0
  /-- The source of each shader, the latest first. -/
  sources : List (ShaderName × String) := []
  /-- Names that were asked for; the place of a name is its location. -/
  located : List String := []
  commands : List Command := []

namespace Context

/-- Keeps a command. -/
def record (context : Context) (command : Command) : Context :=
  { context with commands := context.commands ++ [command] }

/-- The source of a shader compiles. -/
def accepts (context : Context) (shader : ShaderName) : Bool :=
  match context.failingText, context.sources.find? (·.1 == shader) with
  | some text, some (_, source) => !Text.occursIn text.toList source.toList
  | some text, none => !text.toList.isEmpty
  | none, _ => true

/-- Where a name is; a name that is asked for first gets the next location. -/
def locate (context : Context) (name : String) : Option Nat × Context :=
  if name ∈ context.missing then (none, context)
  else
    match context.located.findIdx? (· == name) with
    | some location => (some location, context)
    | none => (some context.located.length, { context with located := context.located ++ [name] })

end Context

/-- A signed number read as an unsigned one of 32 bits. -/
def unsigned32 (n : Int) : Nat := (n % 4294967296).toNat

/-- A number of 32 bits read as a signed one. -/
def signed32 (n : Nat) : Int := Int.bmod n 4294967296

/-- A device over a graphics context. -/
structure Native where
  context : Context
  info : DeviceInfo

namespace Native

/-- The code of the kind of shader of a stage. -/
def shaderKind : Stage → Nat
  | .vertex => 35633
  | .fragment => 35632
  | .compute => 37305

/-- The code of the buffer binding points of a kind of block. -/
def bufferTarget : BlockKind → Nat
  | .uniform => 35345
  | .storage => 37074

/-- The letters that name a kind of number in a command. -/
def numberLetters : Number → String
  | .float => "f"
  | .int => "i"
  | .uint => "ui"

/-- The command that sets a uniform; the context takes its location as a signed number. -/
def uniformCommand (location : Nat) (value : UniformValue) : Command :=
  let place : Argument := .number (signed32 location)
  match value with
  | .scalar kind x =>
    ⟨"glUniform1" ++ numberLetters kind, [place, .number (kind.toInt x)]⟩
  | .vector kind dim _ =>
    ⟨"glUniform" ++ toString dim.toNat ++ numberLetters kind ++ "v",
      [place, .number 1, .numbers value.components]⟩
  | .matrix dim _ =>
    ⟨"glUniformMatrix" ++ toString dim.toNat ++ "fv",
      [place, .number 1, .number 0, .numbers value.components]⟩

/-- The commands of a bind call. -/
def bindCommands : BindCall → List Command
  | .program program => [.ofNats "glUseProgram" [(program.map ProgramName.id).getD 0]]
  | .uniform location value => [uniformCommand location value]
  | .texture unit texture =>
    [.ofNats "glActiveTexture" [33984 + unit], .ofNats "glBindTexture" [3553, texture]]
  | .buffer kind index buffer => [.ofNats "glBindBufferBase" [bufferTarget kind, index, buffer]]

/-- Gives the context a command. -/
def send (device : Native) (command : Command) : Native :=
  { device with context := device.context.record command }

/-- Gives the context a command and asks where a name is. -/
def sendLocate (device : Native) (command : Command) (name : String) : Option Nat × Native :=
  let (location, context) := (device.context.record command).locate name
  (location, { device with context })

/-- Takes the next object name of the context. -/
def allocate (device : Native) : Nat × Native :=
  let name := device.context.lastName + 1
  (name, { device with context := { device.context with lastName := name } })

/-- Answers a request. -/
def answer (device : Native) : {α : Type} → Request α → α × Native
  | _, .createShader stage =>
    let device := device.send (.ofNats "glCreateShader" [shaderKind stage])
    if device.context.failShader then (.error "Unable to create Shader object", device)
    else
      let (name, device) := device.allocate
      (.ok ⟨name⟩, device)
  | _, .compileShader shader source =>
    let device := (device.send ⟨"glShaderSource", [.number shader.id, .number 1, .text source]⟩).send
      (.ofNats "glCompileShader" [shader.id])
    let context := { device.context with sources := (shader, source) :: device.context.sources }
    (context.accepts shader, { device with context })
  | _, .shaderLog _ => (device.context.log, device)
  | _, .deleteShader shader => ((), device.send (.ofNats "glDeleteShader" [shader.id]))
  | _, .createProgram =>
    let device := device.send (.ofNats "glCreateProgram" [])
    if device.context.failProgram then (.error "Unable to create Program object", device)
    else
      let (name, device) := device.allocate
      (.ok ⟨name⟩, device)
  | _, .attachShader program shader =>
    ((), device.send (.ofNats "glAttachShader" [program.id, shader.id]))
  | _, .detachShader program shader =>
    ((), device.send (.ofNats "glDetachShader" [program.id, shader.id]))
  | _, .linkProgram program =>
    (!device.context.failLink, device.send (.ofNats "glLinkProgram" [program.id]))
  | _, .programLog _ => (device.context.log, device)
  | _, .deleteProgram program => ((), device.send (.ofNats "glDeleteProgram" [program.id]))
  | _, .uniformLocation program name =>
    device.sendLocate ⟨"glGetUniformLocation", [.number program.id, .text name]⟩ name
  | _, .blockIndex .uniform program name =>
    device.sendLocate ⟨"glGetUniformBlockIndex", [.number program.id, .text name]⟩ name
  | _, .blockIndex .storage program name =>
    device.sendLocate
      ⟨"glGetProgramResourceIndex", [.number program.id, .number 37606, .text name]⟩ name
  | _, .bind call => ((), (bindCommands call).foldl send device)

instance : Device Native where
  info := Native.info
  perform := fun request device => device.answer request

/-- Takes the commands that were given so far, in order. -/
def takeCommands : StateM Native (List Command) := fun device =>
  (device.context.commands, { device with context := { device.context with commands := [] } })

/-- What a context tells about itself, if its version can be read. -/
def info? (context : Context) : Option DeviceInfo :=
  (Version.parse? context.version).map fun version =>
    { major := version.major
      minor := version.minor
      embedded := version.embedded
      vendor := version.vendor
      extensions := context.extensions
      maxTextureUnits := unsigned32 context.textureUnits
      maxUniformBlockSize := unsigned32 context.uniformBlockSize
      maxStorageBuffers := unsigned32 context.storageBuffers
      maxGroupInvocations := unsigned32 context.groupInvocations }

/-- Opens a device on a context and turns its debug messages on. -/
def open? (context : Context) : Option Native :=
  (info? context).map fun info =>
    [Command.ofNats "glEnable" [37600], .ofNats "glEnable" [33346],
      .ofNats "glDebugMessageCallback" []].foldl send { context, info }

/-- The event of a debug message of the context, by its severity. -/
def debugEvent (severity id : Nat) (message : String) : Event :=
  let level : Level :=
    if severity = 37190 then .error
    else if severity = 37191 then .warn
    else if severity = 33387 then .trace
    else .debug
  .driverMessage level id message

end Native

end ShaderWeave
