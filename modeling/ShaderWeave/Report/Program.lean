import ShaderWeave.Device.Headless
import ShaderWeave.Device.Native
import ShaderWeave.Device.Rationed
import ShaderWeave.Renderer
import ShaderWeave.Report.Error

/-!
# Reports of programs and devices

What the library shows of linked programs, of bind calls and commands, and of how a negotiation
ended.
-/

namespace ShaderWeave

instance : Reported ProgramName := ⟨fun name => report name.id⟩
instance : Reported ShaderName := ⟨fun name => report name.id⟩

instance : Reported UniformValue := ⟨fun value =>
  match value with
  | .scalar kind x => .list [value.kind, kind.toInt x]
  | _ => .list [value.kind, value.components]⟩

instance : Reported BlockKind := ⟨fun
  | .uniform => "Uniform"
  | .storage => "ShaderStorage"⟩

instance : Reported BindCall := ⟨fun
  | .program program => .list ["use_program", program]
  | .uniform location value => .list ["uniform", location, value]
  | .texture unit texture => .list ["texture", unit, texture]
  | .buffer kind index buffer => .list ["buffer", kind, index, buffer]⟩

instance : Reported UniformRecord := ⟨fun r =>
  .list [r.property.name, r.property.type, r.location]⟩

instance : Reported BindingRecord := ⟨fun r =>
  .list [r.property.name, r.property.type, r.location, r.binding]⟩

instance : Reported Program := ⟨fun program =>
  .record [("name", program.name), ("inputs", program.needs.inputs),
    ("outputs", program.outputs), ("filters", program.needs.filters),
    ("consuming", program.needs.consuming), ("vertex", program.vertexComponents),
    ("uniforms", program.storage.uniforms), ("opaque", program.storage.samplers),
    ("ubos", program.storage.uniformBlocks), ("ssbos", program.storage.storageBlocks)]⟩

instance : Reported NegotiationOutcome := ⟨fun
  | .compiled program => .record [("outcome", "Compiled"), ("program", program)]
  | .requirementsChanged requirements =>
    .record [("outcome", "RequirementsChanged"), ("requirements", requirements)]
  | .failed diagnostics =>
    .record [("outcome", "Failed"), ("stage", diagnostics.stage), ("log", diagnostics.log),
      ("message", diagnostics.message)]⟩

instance : Reported Argument := ⟨fun
  | .number n => n
  | .text t => t
  | .numbers ns => ns⟩

instance : Reported Command := ⟨fun command =>
  .list (command.function :: command.arguments.map report)⟩

instance : Reported Options := ⟨fun options => .list [options.glslVersion, options.embedded]⟩

/-- The capacities of a device. -/
def DeviceInfo.limitReport (info : DeviceInfo) : Report :=
  .list [info.maxTextureUnits, info.maxUniformBlockSize, info.maxStorageBuffers,
    info.maxGroupInvocations]

instance : Reported Dump := ⟨fun dump => .list [dump.file, dump.contents]⟩

/-- The sources of stages. -/
def Report.sources (sources : List (Stage × String)) : Report :=
  .list (sources.map fun (stage, source) => .list [stage, source])

/-- Programs by their numbers, in ascending order. -/
def Report.programs (names : List ProgramName) : Report :=
  report (names.map ProgramName.id).mergeSort

/-- How much work was done on a device that is watched. -/
def Renderer.workReport (renderer : Renderer (Rationed Headless)) : Report :=
  let device := renderer.device.inner
  .record [("cache_compiles", renderer.cache.compileCount), ("cache_len", renderer.cache.size),
    ("cache_empty", renderer.cache.entries.isEmpty), ("compiles", device.compileCount),
    ("links", device.linkCount), ("live_shaders", device.shaders.length),
    ("live_programs", device.programs.length), ("deleted", Report.programs renderer.device.deleted)]

end ShaderWeave
