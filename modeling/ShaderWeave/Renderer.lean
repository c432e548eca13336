import ShaderWeave.Pipeline.Store
import ShaderWeave.Program.Bind
import ShaderWeave.Program.Cache
import ShaderWeave.Task.Kinds

/-!
# The renderer

A `Renderer` is the state of the library for one device: the registry, the vertex layout, the cache
of programs and the settings.

* `Renderer.create` — opens a renderer, if the device has what programs need.
* `Renderer.program` — the program of a key.
* `Renderer.negotiate` — the same for a caller that declared what it supplies: if the program needs
  more, **the answer is the full new list of requirements**, which begins with the declared one.
* `Renderer.specifySampler` — a task that samples a texture for a color.
-/

namespace ShaderWeave

/-- The state of the library for one device. -/
structure Renderer (σ : Type) where
  catalogue : Catalogue
  options : Options
  vertexLayout : VertexLayout := .empty
  /-- Colors that have a sampling task. -/
  samplerColors : List String := []
  state : CachedWorkshop σ

/-- Why a renderer could not be opened. -/
inductive RendererError where
  | unsupportedVersion (info : DeviceInfo)
  /-- A standard vertex component has no conversion. -/
  | vertexBuffer (name : String) (error : SpecificationError)
deriving DecidableEq, Repr

/-- The wording of a renderer error. -/
def RendererError.message : RendererError → String
  | unsupportedVersion info =>
    "OpenGL " ++ toString info.major ++ "." ++ toString info.minor
      ++ " lacks compute shaders or storage buffers"
  | vertexBuffer name error =>
    "unable to register built-in vertex buffer `" ++ name ++ "`: " ++ error.message

/-- The name of the kind of a renderer error. -/
def RendererError.kind : RendererError → String
  | unsupportedVersion .. => "UnsupportedVersion"
  | vertexBuffer .. => "VertexBuffer"

/-- What negotiation ends in. -/
inductive NegotiationOutcome where
  | compiled (program : Program)
  /-- The program needs properties that were not declared; the list is the full new set. -/
  | requirementsChanged (requirements : PropertyList)
  | failed (diagnostics : Diagnostics)

namespace Renderer

variable {σ : Type}

/-- A renderer put together from its parts. -/
def ofParts (catalogue : Catalogue) (options : Options) (registry : Registry) (device : σ) :
    Renderer σ where
  catalogue := catalogue
  options := options
  state := { workshop := { device, registry } }

/-- The device. -/
def device (renderer : Renderer σ) : σ := renderer.state.workshop.device

/-- The registry. -/
def registry (renderer : Renderer σ) : Registry := renderer.state.workshop.registry

/-- The cache. -/
def cache (renderer : Renderer σ) : ProgramCache := renderer.state.cache

/-- The renderer with its workshop changed. -/
def withWorkshop (renderer : Renderer σ) (change : Workshop σ → Workshop σ) : Renderer σ :=
  { renderer with state := { renderer.state with workshop := change renderer.state.workshop } }

/-- The renderer with its device changed. -/
def withDevice (renderer : Renderer σ) (change : σ → σ) : Renderer σ :=
  renderer.withWorkshop fun workshop => { workshop with device := change workshop.device }

/-- Does work on the device. -/
def onDevice {α : Type} (action : StateM σ α) : StateM (Renderer σ) α := fun renderer =>
  let (a, device) := action.run renderer.device
  (a, renderer.withDevice fun _ => device)

/-- Reports events. -/
def report (renderer : Renderer σ) (events : List Event) : Renderer σ :=
  renderer.withWorkshop fun workshop => { workshop with events := workshop.events ++ events }

/-- Takes the events that were reported so far, in order. -/
def takeEvents (renderer : Renderer σ) : List Event × Renderer σ :=
  (renderer.state.workshop.events,
    renderer.withWorkshop fun workshop => { workshop with events := [] })

/-- Takes the texts that were dumped so far, by file name. -/
def takeDumps (renderer : Renderer σ) : List Dump × Renderer σ :=
  (renderer.state.workshop.dumps.mergeSort fun a b => decide (a.file ≤ b.file),
    renderer.withWorkshop fun workshop => { workshop with dumps := [] })

/-- What a compile only reads. -/
def setting (renderer : Renderer σ) (resolver : Resolver) : Setting where
  catalogue := renderer.catalogue
  vertexLayout := renderer.vertexLayout
  resolver := resolver
  options := renderer.options

/-! ## Types and vertex components -/

/-- Does work on the registry and reports new conversions. -/
def onRegistry {α : Type} (action : Registry.Action α) :
    EStateM SpecificationError (Renderer σ) α := fun renderer =>
  let settle (registry : Registry) : Renderer σ :=
    (renderer.withWorkshop fun workshop => { workshop with registry }).report
      ((registry.newSince renderer.registry).map .registered)
  match action renderer.registry with
  | .ok a registry => .ok a (settle registry)
  | .error error registry => .error error (settle registry)

/-- The conversion of a host type, registered on first use. -/
def convert (type : HostType) : EStateM SpecificationError (Renderer σ) ConversionKey := do
  onRegistry (Registry.convert (← get).catalogue type)

/-- Makes a property a vertex component and yields its attribute location. -/
def specifyVertexBuffer (property : Property) : EStateM SpecificationError (Renderer σ) Nat := do
  let renderer ← get
  let (location, vertexLayout) ←
    onRegistry (VertexLayout.specify renderer.catalogue renderer.vertexLayout property)
  modify fun renderer => { renderer with vertexLayout }
  return location

/-- Adds a GPU type to the registry. -/
def specifyType (type : GpuType) : StateM (Renderer σ) TypeKey := fun renderer =>
  let (key, registry) := renderer.registry.specify type
  (key, renderer.withWorkshop fun workshop => { workshop with registry })

/-- Gives a host type a conversion. -/
def registerConversion (type : HostType) (conversion : Conversion) :
    StateM (Renderer σ) ConversionKey := fun renderer =>
  let (key, registry) := renderer.registry.register type conversion
  (key, renderer.withWorkshop fun workshop => { workshop with registry })

/-! ## Opening -/

/-- Vertex components that every renderer has. -/
def standardComponents : List String := [Standard.position, Standard.normal, Standard.coordBase]

/-- Makes the standard vertex components known. -/
def specifyStandard : List String → Renderer σ → Except RendererError (Renderer σ)
  | [], renderer => .ok renderer
  | name :: rest, renderer =>
    match specifyVertexBuffer ⟨name, .vec3⟩ renderer with
    | .ok _ renderer => specifyStandard rest renderer
    | .error error _ => .error (.vertexBuffer name error)

/-- Opens a renderer on a device. -/
def create [Device σ] (catalogue : Catalogue) (options : Options) (device : σ) :
    Except RendererError (Renderer σ) := do
  let info := Device.info device
  if !info.isSupported then throw (.unsupportedVersion info)
  let renderer ← specifyStandard standardComponents
    (ofParts catalogue options Registry.ofBasics device)
  return renderer.report [.opened info.major info.minor info.vendor options.glslVersion]

/-! ## Sampling tasks -/

/-- The task that samples the texture of a color at its coordinate. -/
def samplerTask (color : String) : Task :=
  Task.snippet
    ("sample_" ++ color ++ " = texture(tex_" ++ color ++ ", coord_" ++ color ++ ".xy);")
    { inputs := .ofList [⟨"tex_" ++ color, .texture⟩, ⟨"coord_" ++ color, .vec3⟩]
      outputs := .ofList [⟨"sample_" ++ color, .vec4⟩] }

/-- Registers the sampling task of a color; a color that has one is refused. -/
def specifySampler (renderer : Renderer σ) (store : TaskStore) (color : String) :
    Option (Renderer σ × TaskStore) :=
  if color ∈ renderer.samplerColors then none
  else some
    ({ renderer with samplerColors := color :: renderer.samplerColors },
      store.register (samplerTask color) [.fragment, .compute])

/-! ## Programs -/

section Programs

variable [Device σ]

/-- Compiles stages without the cache. -/
def compileStages (resolver : Resolver) (requests : List StageRequest) (desired : PropertyList) :
    EStateM ShaderError (Renderer σ) Program := fun renderer =>
  match compile (renderer.setting resolver) requests desired renderer.state.workshop with
  | .ok program workshop => .ok program (renderer.withWorkshop fun _ => workshop)
  | .error error workshop => .error error (renderer.withWorkshop fun _ => workshop)

/-- The program of a key. -/
def program (resolver : Resolver) (key : ProgramKey) : EStateM ShaderError (Renderer σ) Program :=
  fun renderer =>
    match ProgramCache.retrieve (renderer.setting resolver) key renderer.state with
    | .ok program state => .ok program { renderer with state }
    | .error error state => .error error { renderer with state }

/-- The lists of what a program needs, in the order in which they are declared. -/
def requiredLists (program : Program) : List PropertyList :=
  [program.needs.inputs, program.needs.filters, program.needs.consuming]

/-- Compares what a program needs with what was declared. -/
def compareNeeds (program : Program) (declared : PropertyList) : NegotiationOutcome :=
  let required := requiredLists program
  let missing := required.any fun list => list.names.any fun name => !declared.contains name
  if missing then .requirementsChanged (required.foldl PropertyList.merge declared)
  else .compiled program

/-- Compiles the program of a key and checks that it needs nothing beyond `declared`. -/
def negotiate (resolver : Resolver) (key : ProgramKey) (declared : PropertyList) :
    EStateM SpecificationError (Renderer σ) NegotiationOutcome := fun renderer =>
  match program resolver key renderer with
  | .error (.specification error) renderer => .error error renderer
  | .error (.compile diagnostics) renderer => .ok (.failed diagnostics) renderer
  | .error (.link diagnostics) renderer => .ok (.failed diagnostics) renderer
  | .error (.device object message) renderer =>
    .ok (.failed ⟨none, (ShaderError.device object message).message⟩) renderer
  | .ok program renderer =>
    match compareNeeds program declared with
    | .requirementsChanged requirements =>
      .ok (.requirementsChanged requirements)
        (renderer.report [.requires requirements.size declared.size])
    | outcome => .ok outcome renderer

/-- Does binding work with the conversions of the registry. -/
def binding (work : Registry → Binding σ Unit) : EStateM BindError (Renderer σ) Unit :=
  fun renderer =>
    match work renderer.registry renderer.device with
    | .ok () device => .ok () (renderer.withDevice fun _ => device)
    | .error error device => .error error (renderer.withDevice fun _ => device)

/-- Makes a program the one in use and binds its properties. -/
def bind (program : Program) (environment : ValueSource) (material : Option ValueSource) :
    EStateM BindError (Renderer σ) Unit :=
  binding fun registry => Binding.all program registry environment material

/-- Binds what the material has; the program has to be in use. -/
def bindMaterial (program : Program) (material : ValueSource) :
    EStateM BindError (Renderer σ) Unit :=
  binding fun registry => Binding.material program registry material

/-- Binds what the environment has and the material has not; the program has to be in use. -/
def bindEnvironment (program : Program) (environment material : ValueSource) :
    EStateM BindError (Renderer σ) Unit :=
  binding fun registry => Binding.environment program registry environment material

/-- Drops the program of a key from the cache. -/
def evict (renderer : Renderer σ) (key : ProgramKey) : Bool × Renderer σ :=
  let (found, state) := ProgramCache.evict key renderer.state
  (found, { renderer with state })

/-- Drops every program from the cache. -/
def clear (renderer : Renderer σ) : Renderer σ :=
  { renderer with state := ProgramCache.clear renderer.state }

end Programs

end Renderer

end ShaderWeave
