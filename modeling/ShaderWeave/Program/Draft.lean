import ShaderWeave.Device.Info
import ShaderWeave.Gpu.VertexLayout
import ShaderWeave.Program.Request
import ShaderWeave.Text.Blank

/-!
# Drafting a program

A program is drafted before any device is asked: stages are planned, storage is assigned, sources
are written.  A `Draft` is what changes on the way; `Drafting` is work on it, which keeps what it
changed when it fails.  `Setting` is what the work only reads.

`ProgramStorage` holds the decisions that all stages of a program share: which properties come from
outside and through which storage class, and their binding points.  **Binding points are handed out in
the order in which sources first mention them,** one sequence for all classes.
-/

namespace ShaderWeave

/-- Settings of the sources to write. -/
structure Options where
  glslVersion : Nat := 460
  embedded : Bool := false
  /-- Write sources and graphs for inspection. -/
  dump : Bool := false
deriving DecidableEq, Repr

/-- The settings for a context. -/
def Options.ofInfo (info : DeviceInfo) : Options where
  glslVersion := info.glslVersion
  embedded := info.embedded

/-- What drafting only reads. -/
structure Setting where
  catalogue : Catalogue
  vertexLayout : VertexLayout
  resolver : Resolver
  options : Options

/-- Storage decisions that all stages of a program share. -/
structure ProgramStorage where
  uniforms : PropertyList := .empty
  samplers : PropertyList := .empty
  uniformBlocks : PropertyList := .empty
  storageBlocks : PropertyList := .empty
  vertexComponents : PropertyList := .empty
  /-- Names with a binding point; the place of a name is its binding. -/
  bindings : List String := []

namespace ProgramStorage

/-- The properties of a storage class. -/
def list (storage : ProgramStorage) : StorageClass → PropertyList
  | .uniform => storage.uniforms
  | .sampler => storage.samplers
  | .uniformBlock => storage.uniformBlocks
  | .storageBlock => storage.storageBlocks

/-- Adds a property to a storage class. -/
def insert (storage : ProgramStorage) (cls : StorageClass) (property : Property) :
    ProgramStorage :=
  match cls with
  | .uniform => { storage with uniforms := storage.uniforms.insert property }
  | .sampler => { storage with samplers := storage.samplers.insert property }
  | .uniformBlock => { storage with uniformBlocks := storage.uniformBlocks.insert property }
  | .storageBlock => { storage with storageBlocks := storage.storageBlocks.insert property }

/-- The storage class of a name, if one was chosen. -/
def class? (storage : ProgramStorage) (name : String) : Option StorageClass :=
  [StorageClass.uniform, .sampler, .uniformBlock, .storageBlock].find? fun cls =>
    (storage.list cls).contains name

/-- The binding point of a name, if it has one. -/
def binding? (storage : ProgramStorage) (name : String) : Option Nat :=
  storage.bindings.findIdx? (· == name)

/-- The binding point of a name, which is given out on first request. -/
def bind (storage : ProgramStorage) (name : String) : Nat × ProgramStorage :=
  match storage.binding? name with
  | some binding => (binding, storage)
  | none =>
    (storage.bindings.length, { storage with bindings := storage.bindings ++ [name] })

end ProgramStorage

/-- A text written for inspection. -/
structure Dump where
  file : String
  contents : String
deriving DecidableEq, Repr

/-- The steps of a path, which slashes divide. -/
def Dump.steps : List Char → List (List Char)
  | [] => [[]]
  | '/' :: rest => [] :: steps rest
  | c :: rest =>
    match steps rest with
    | [] => [[c]]
    | step :: more => (c :: step) :: more

/-- A file of the directory can have the name. -/
def Dump.isFileName (name : List Char) : Bool :=
  name != ['.', '.'] && !name.contains (Char.ofNat 0) && decide (Text.byteLength name ≤ 255)

/-- The file that a path from the dump directory leads to.  Steps that stay in a directory count for
nothing; an absolute path and a path through another directory lead to no file of this one, and a
path of 4096 bytes or more is not followed at all. -/
def Dump.fileName? (path : String) : Option String :=
  if path.toList.head? = some '/' || decide (4096 ≤ Text.byteLength path.toList) then none
  else
    match (steps path.toList).filter fun step => step != [] && step != ['.'] with
    | [name] => if isFileName name then some (String.ofList name) else none
    | _ => none

/-- Writes a text, in place of one in the same file.  A text whose path leads to no file of the
directory is left out. -/
def Dump.write (dumps : List Dump) (path contents : String) : List Dump :=
  match fileName? path with
  | some file => dumps.filter (·.file != file) ++ [⟨file, contents⟩]
  | none => dumps

/-- What changes while a program is drafted. -/
structure Draft where
  registry : Registry
  program : ProgramStorage := {}
  events : List Event := []
  dumps : List Dump := []

/-- Work on a draft. -/
abbrev Drafting := EStateM SpecificationError Draft

namespace Drafting

/-- Reports events. -/
def report (events : List Event) : Drafting Unit :=
  modify fun draft => { draft with events := draft.events ++ events }

/-- The registry after some work on it, with the new conversions reported. -/
def settle (draft : Draft) (registry : Registry) : Draft :=
  { draft with
    registry
    events := draft.events ++ (registry.newSince draft.registry).map .registered }

/-- Does work on the registry. -/
def onRegistry {α : Type} (action : Registry.Action α) : Drafting α := fun draft =>
  match action draft.registry with
  | .ok a registry => .ok a (settle draft registry)
  | .error error registry => .error error (settle draft registry)

/-- The conversion of a host type. -/
def convert (setting : Setting) (type : HostType) : Drafting Conversion := do
  let key ← onRegistry (Registry.convert setting.catalogue type)
  return (← get).registry.conversion key

/-- The GPU type of a host type. -/
def gpuType (setting : Setting) (type : HostType) : Drafting GpuType := do
  let conversion ← convert setting type
  return (← get).registry.type conversion.type

/-- The binding point of a name. -/
def bind (name : String) : Drafting Nat := fun draft =>
  let (binding, program) := draft.program.bind name
  .ok binding { draft with program }

end Drafting

end ShaderWeave
