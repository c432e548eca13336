import ShaderWeave.Device.Basic
import ShaderWeave.Text.Blank

/-!
# A device without a GPU

A `Headless` device accepts every source unless it is told to refuse.  It keeps what it was asked:
sources, the number of compiles and links, and bind calls, so shader generation can be watched
without a graphics context.

* Shaders and programs share one counter of names.
* Uniforms and blocks of a program get their locations in the order in which they are asked for.
-/

namespace ShaderWeave

/-- A shader of a headless device. -/
structure HeadlessShader where
  stage : Stage
  source : String := ""

/-- A program of a headless device. -/
structure HeadlessProgram where
  attached : List ShaderName := []
  /-- Names that were asked for; the place of a name is its location. -/
  located : List String := []

/-- A device without a GPU. -/
structure Headless where
  info : DeviceInfo := .ideal
  /-- The last name that was given to an object. -/
  lastName : Nat := 0
  shaders : List (ShaderName × HeadlessShader) := []
  programs : List (ProgramName × HeadlessProgram) := []
  /-- Sources that contain this text do not compile. -/
  failingText : Option String := none
  failingLink : Bool := false
  /-- Names that linked programs do not have. -/
  eliminated : List String := []
  compileCount : Nat := 0
  linkCount : Nat := 0
  /-- Every source that was compiled, in order. -/
  sources : List (Stage × String) := []
  /-- Every bind call, in order. -/
  calls : List BindCall := []

namespace Headless

/-- The shader under a name. -/
def shader? (device : Headless) (name : ShaderName) : Option HeadlessShader :=
  (device.shaders.find? (·.1 == name)).map (·.2)

/-- The program under a name. -/
def program? (device : Headless) (name : ProgramName) : Option HeadlessProgram :=
  (device.programs.find? (·.1 == name)).map (·.2)

/-- Changes the program under a name, if there is one. -/
def updateProgram (device : Headless) (name : ProgramName)
    (change : HeadlessProgram → HeadlessProgram) : Headless :=
  { device with programs := device.programs.map fun (n, p) =>
      if n = name then (n, change p) else (n, p) }

/-- The device refuses a source. -/
def refuses (device : Headless) (source : String) : Bool :=
  match device.failingText with
  | some text => Text.occursIn text.toList source.toList
  | none => false

/-- Compiles a source; a shader that does not exist compiles nothing. -/
def compile (device : Headless) (name : ShaderName) (source : String) : Bool × Headless :=
  match device.shader? name with
  | none => (false, device)
  | some shader =>
    (!device.refuses source,
      { device with
        shaders := device.shaders.map fun (n, s) =>
          if n = name then (n, { s with source }) else (n, s)
        compileCount := device.compileCount + 1
        sources := device.sources ++ [(shader.stage, source)] })

/-- What is said of the last compile of a shader. -/
def shaderLog (device : Headless) (name : ShaderName) : String :=
  match device.shader? name, device.failingText with
  | some shader, some text =>
    if device.refuses shader.source then "0:1(1): error: rejected `" ++ text ++ "`" else ""
  | _, _ => ""

/-- Links a program; it needs a shader. -/
def link (device : Headless) (name : ProgramName) : Bool × Headless :=
  let attached := match device.program? name with
    | some program => !program.attached.isEmpty
    | none => false
  (attached && !device.failingLink, { device with linkCount := device.linkCount + 1 })

/-- Where a name is in a program.  A name that is asked for first gets the next location. -/
def locate (device : Headless) (name : ProgramName) (resource : String) : Option Nat × Headless :=
  if resource ∈ device.eliminated then (none, device)
  else
    match device.program? name with
    | none => (none, device)
    | some program =>
      match program.located.findIdx? (· == resource) with
      | some location => (some location, device)
      | none =>
        (some program.located.length, device.updateProgram name fun p =>
          { p with located := p.located ++ [resource] })

/-- Answers a request. -/
def answer (device : Headless) : {α : Type} → Request α → α × Headless
  | _, .createShader stage =>
    let name : ShaderName := ⟨device.lastName + 1⟩
    (.ok name, { device with
      lastName := device.lastName + 1
      shaders := device.shaders ++ [(name, { stage })] })
  | _, .compileShader shader source => device.compile shader source
  | _, .shaderLog shader => (device.shaderLog shader, device)
  | _, .deleteShader shader =>
    ((), { device with shaders := device.shaders.filter (·.1 != shader) })
  | _, .createProgram =>
    let name : ProgramName := ⟨device.lastName + 1⟩
    (.ok name, { device with
      lastName := device.lastName + 1
      programs := device.programs ++ [(name, {})] })
  | _, .attachShader program shader =>
    ((), device.updateProgram program fun p => { p with attached := p.attached ++ [shader] })
  | _, .detachShader program shader =>
    ((), device.updateProgram program fun p =>
      { p with attached := p.attached.filter (· != shader) })
  | _, .linkProgram program => device.link program
  | _, .programLog _ => (if device.failingLink then "error: linking rejected" else "", device)
  | _, .deleteProgram program =>
    ((), { device with programs := device.programs.filter (·.1 != program) })
  | _, .uniformLocation program name => device.locate program name
  | _, .blockIndex _ program name => device.locate program name
  | _, .bind call => ((), { device with calls := device.calls ++ [call] })

instance : Device Headless where
  info := Headless.info
  perform := fun request device => device.answer request

/-- The last source that was compiled for a stage. -/
def lastSource? (device : Headless) (stage : Stage) : Option String :=
  (device.sources.reverse.find? (·.1 == stage)).map (·.2)

end Headless

end ShaderWeave
