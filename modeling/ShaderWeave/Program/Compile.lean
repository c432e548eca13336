import ShaderWeave.Program.Linked

/-!
# Compiling a program

`compile` drafts a program and makes it on a device.  A `Workshop` is what a compile works with and
changes: the device, the registry, and what is reported and dumped.  **The device is not asked for
anything until the whole program is drafted.**
-/

namespace ShaderWeave

/-- What a compile works with. -/
structure Workshop (σ : Type) where
  device : σ
  registry : Registry
  events : List Event := []
  dumps : List Dump := []

/-- Work that makes programs. -/
abbrev Compiling (σ : Type) := EStateM ShaderError (Workshop σ)

namespace Workshop

variable {σ : Type}

/-- A draft to work on. -/
def draft (workshop : Workshop σ) : Draft :=
  { registry := workshop.registry, events := workshop.events, dumps := workshop.dumps }

/-- The workshop after the work on a draft. -/
def settle (workshop : Workshop σ) (draft : Draft) : Workshop σ :=
  { workshop with registry := draft.registry, events := draft.events, dumps := draft.dumps }

/-- The workshop after the work on its device. -/
def leave (workshop : Workshop σ) (site : Site σ) : Workshop σ :=
  { workshop with device := site.device, events := site.events }

end Workshop

/-- Resolves, generates, compiles and links stages into a program that yields `desired`. -/
def compile {σ : Type} [Device σ] (setting : Setting) (requests : List StageRequest)
    (desired : PropertyList) : Compiling σ Program := fun workshop =>
  match Drafting.blueprint setting (Device.info workshop.device) requests desired
      workshop.draft with
  | .error error draft => .error (.specification error) (workshop.settle draft)
  | .ok blueprint draft =>
    let workshop := workshop.settle draft
    match Building.program blueprint desired ⟨workshop.device, workshop.events⟩ with
    | .error error site => .error error (workshop.leave site)
    | .ok program site => .ok program (workshop.leave site)

end ShaderWeave
