import ShaderWeave.Device.Basic

/-!
# Actions on a device

A `DeviceAction α` is work that asks a device one thing after the other and comes to an `α`.  What it
asks next, and what it comes to, may depend on all the answers before.  Actions are data, so they can be
stored in tables and run on every device.

* `Query` — a request of any kind.
* `DeviceAction.run` — what an action comes to on a device, and the device after it.
-/

namespace ShaderWeave

/-- Kinds of answer that a device gives. -/
inductive AnswerKind where
  | shader | program | verdict | log | place | nothing
deriving DecidableEq, Repr

/-- The answers of a kind. -/
abbrev AnswerKind.Answer : AnswerKind → Type
  | shader => Except String ShaderName
  | program => Except String ProgramName
  | verdict => Bool
  | log => String
  | place => Option Nat
  | nothing => Unit

/-- A request of any kind. -/
structure Query where
  kind : AnswerKind
  request : Request kind.Answer

/-- The request that makes a bind call. -/
def Query.bind (call : BindCall) : Query := ⟨.nothing, .bind call⟩

/-- Work on a device. -/
inductive DeviceAction (α : Type) where
  | done (result : α)
  /-- Looks at the limits of the device. -/
  | info (next : DeviceInfo → DeviceAction α)
  | ask (query : Query) (next : query.kind.Answer → DeviceAction α)

namespace DeviceAction

variable {σ α : Type} [Device σ]

/-- Does the work on a device. -/
def run : DeviceAction α → σ → α × σ
  | done result, device => (result, device)
  | info next, device => (next (Device.info device)).run device
  | ask query next, device =>
    (next (Device.perform query.request device).1).run (Device.perform query.request device).2

end DeviceAction

end ShaderWeave
