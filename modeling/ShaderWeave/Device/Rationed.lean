import ShaderWeave.Device.Basic

/-!
# A device with a ration of objects

A `Rationed` device hands out at most a given number of shaders and of programs, then refuses, and
otherwise does what the device inside does.  It remembers the programs that were deleted.
-/

namespace ShaderWeave

/-- A device that hands out a bounded number of objects. -/
structure Rationed (σ : Type) where
  inner : σ
  /-- Shaders that can still be created; none for no bound. -/
  shadersLeft : Option Nat := none
  /-- Programs that can still be created; none for no bound. -/
  programsLeft : Option Nat := none
  /-- Deleted programs, in order. -/
  deleted : List ProgramName := []

namespace Rationed

variable {σ : Type} [Device σ]

/-- Hands a request to the device inside. -/
def forward {α : Type} (device : Rationed σ) (request : Request α) : α × Rationed σ :=
  let (answer, inner) := Device.perform request device.inner
  (answer, { device with inner })

/-- Answers a request. -/
def answer (device : Rationed σ) : {α : Type} → Request α → α × Rationed σ
  | _, .createShader stage =>
    if device.shadersLeft = some 0 then (.error "out of shaders", device)
    else { device with shadersLeft := device.shadersLeft.map (· - 1) }.forward (.createShader stage)
  | _, .createProgram =>
    if device.programsLeft = some 0 then (.error "out of programs", device)
    else { device with programsLeft := device.programsLeft.map (· - 1) }.forward .createProgram
  | _, .deleteProgram program =>
    { device with deleted := device.deleted ++ [program] }.forward (.deleteProgram program)
  | _, request => device.forward request

instance : Device (Rationed σ) where
  info := fun device => Device.info device.inner
  perform := fun request device => device.answer request

end Rationed

end ShaderWeave
