import ShaderWeave.Program.Compile
import ShaderWeave.Proofs.Outcome

/-!
# Traces of device calls

What a device is asked during a compile depends on its answers, and a device may answer as it
likes.  A `Traced` device does what the device inside it does and writes every request down with its
answer, so that facts about the order of calls can be stated at all.

* `Call` — a request with its answer.
* `Follows` — a device answers calls one after the other.  A traced device carries the proof that
  its calls led from where it started to where it is.
* `compile_traced` — **tracing changes nothing:** without the trace, a compile on the traced device
  is the compile on the device inside.
* `Building.Leaves` — what is true of the calls when work on a device is done.
-/

namespace ShaderWeave

/-! ## Calls -/

/-- A request to a device with its answer. -/
inductive Call where
  | createShader (stage : Stage) (answer : Except String ShaderName)
  | compileShader (shader : ShaderName) (source : String) (accepted : Bool)
  | shaderLog (shader : ShaderName) (log : String)
  | deleteShader (shader : ShaderName)
  | createProgram (answer : Except String ProgramName)
  | attachShader (program : ProgramName) (shader : ShaderName)
  | detachShader (program : ProgramName) (shader : ShaderName)
  | linkProgram (program : ProgramName) (linked : Bool)
  | programLog (program : ProgramName) (log : String)
  | deleteProgram (program : ProgramName)
  | uniformLocation (program : ProgramName) (name : String) (location : Option Nat)
  | blockIndex (kind : BlockKind) (program : ProgramName) (name : String) (index : Option Nat)
  | bind (call : BindCall)

/-- The request as a call, once it is answered. -/
def Request.answered : {α : Type} → Request α → α → Call
  | _, .createShader stage, answer => .createShader stage answer
  | _, .compileShader shader source, accepted => .compileShader shader source accepted
  | _, .shaderLog shader, log => .shaderLog shader log
  | _, .deleteShader shader, _ => .deleteShader shader
  | _, .createProgram, answer => .createProgram answer
  | _, .attachShader program shader, _ => .attachShader program shader
  | _, .detachShader program shader, _ => .detachShader program shader
  | _, .linkProgram program, linked => .linkProgram program linked
  | _, .programLog program, log => .programLog program log
  | _, .deleteProgram program, _ => .deleteProgram program
  | _, .uniformLocation program name, location => .uniformLocation program name location
  | _, .blockIndex kind program name, index => .blockIndex kind program name index
  | _, .bind call, _ => .bind call

/-- A device answers calls one after the other, and goes from one state to another. -/
inductive Follows {σ : Type} [Device σ] (start : σ) : List Call → σ → Prop where
  | nil : Follows start [] start
  | ask {calls : List Call} {device : σ} {α : Type} (h : Follows start calls device)
      (request : Request α) :
      Follows start (calls ++ [request.answered (Device.perform request device).1])
        (Device.perform request device).2

/-- A device with all that it was asked since it was in the state `start`. -/
structure Traced {σ : Type} [Device σ] (start : σ) where
  calls : List Call
  device : σ
  follows : Follows start calls device

namespace Traced

variable {σ : Type} [Device σ] {start : σ}

/-- A device whose trace begins now. -/
def of (device : σ) : Traced device := ⟨[], device, .nil⟩

/-- Hands a request to the device inside and writes it down. -/
def answer {α : Type} (request : Request α) (traced : Traced start) : α × Traced start :=
  ((Device.perform request traced.device).1,
    { calls := traced.calls ++ [request.answered (Device.perform request traced.device).1]
      device := (Device.perform request traced.device).2
      follows := traced.follows.ask request })

instance : Device (Traced start) where
  info := fun traced => Device.info traced.device
  perform := answer

end Traced

/-! ## Work seen through a view -/

namespace Outcome

variable {ε σ τ α β : Type}

/-- The result with its state seen through a view. -/
def view (f : σ → τ) : EStateM.Result ε σ α → EStateM.Result ε τ α
  | .ok a s => .ok a (f s)
  | .error e s => .error e (f s)

/-- Seen through a view, one piece of work is the other. -/
def Mirrors (f : σ → τ) (x : EStateM ε σ α) (y : EStateM ε τ α) : Prop :=
  ∀ s, view f (x s) = y (f s)

namespace Mirrors

variable {f : σ → τ}

lemma pure (a : α) : Mirrors f (pure a : EStateM ε σ α) (pure a) := fun _ => rfl

lemma throw (e : ε) : Mirrors f (throw e : EStateM ε σ α) (throw e) := fun _ => rfl

lemma bind {x : EStateM ε σ α} {y : EStateM ε τ α} {g : α → EStateM ε σ β}
    {h : α → EStateM ε τ β} (hx : Mirrors f x y) (hg : ∀ a, Mirrors f (g a) (h a)) :
    Mirrors f (x >>= g) (y >>= h) := by
  intro s
  have hs := hx s
  cases hok : x s with
  | ok a t =>
      rw [hok] at hs
      rw [bind_of_ok hok, bind_of_ok hs.symm]
      exact hg a t
  | error e t =>
      rw [hok] at hs
      rw [bind_of_error hok, bind_of_error hs.symm]
      rfl

lemma ite {c : Prop} [Decidable c] {x x' : EStateM ε σ α} {y y' : EStateM ε τ α}
    (h : Mirrors f x y) (h' : Mirrors f x' y') :
    Mirrors f (if c then x else x') (if c then y else y') := by
  split
  · exact h
  · exact h'

lemma foldlM {g : β → α → EStateM ε σ β} {h : β → α → EStateM ε τ β}
    (hstep : ∀ b a, Mirrors f (g b a) (h b a)) (xs : List α) (b : β) :
    Mirrors f (xs.foldlM g b) (xs.foldlM h b) := by
  induction xs generalizing b with
  | nil => exact pure b
  | cons a xs ih => exact (hstep b a).bind ih

lemma forM {g : α → EStateM ε σ PUnit} {h : α → EStateM ε τ PUnit}
    (hstep : ∀ a, Mirrors f (g a) (h a)) (xs : List α) : Mirrors f (xs.forM g) (xs.forM h) := by
  induction xs with
  | nil => exact pure _
  | cons a xs ih => exact (hstep a).bind fun _ => ih

end Mirrors

end Outcome

/-! ## Tracing changes nothing -/

open Outcome (Mirrors)

section Untraced

variable {σ : Type} [Device σ] {start : σ}

/-- The site without the trace. -/
def Site.untraced (site : Site (Traced start)) : Site σ := ⟨site.device.device, site.events⟩

namespace Building

lemma mirrors_request {α : Type} (r : Request α) :
    Mirrors Site.untraced (request r : Building (Traced start) α) (request r) := fun _ => rfl

lemma mirrors_report (event : Event) :
    Mirrors Site.untraced (report event : Building (Traced start) Unit) (report event) :=
  fun _ => rfl

lemma mirrors_requests {γ : Type} (r : γ → Request Unit) (xs : List γ) :
    Mirrors Site.untraced (xs.forM fun x => request (r x) : Building (Traced start) Unit)
      (xs.forM fun x => request (r x)) :=
  .forM (fun x => mirrors_request (r x)) xs

lemma mirrors_compileStage (made : List ShaderName) (text : Stage × String) :
    Mirrors Site.untraced (compileStage made text : Building (Traced start) _)
      (compileStage made text) := by
  refine (mirrors_request _).bind fun answer => ?_
  cases answer with
  | error message => exact (mirrors_requests _ made).bind fun _ => .throw _
  | ok shader =>
      refine (mirrors_request _).bind fun accepted => .ite ?_ ?_
      · exact (mirrors_report _).bind fun _ => .pure _
      · refine (mirrors_request _).bind fun log => (mirrors_report _).bind fun _ => ?_
        exact (mirrors_requests _ _).bind fun _ => .throw _

lemma mirrors_linkShaders (shaders : List ShaderName) :
    Mirrors Site.untraced (linkShaders shaders : Building (Traced start) _)
      (linkShaders shaders) := by
  refine (mirrors_request _).bind fun answer => ?_
  cases answer with
  | error message => exact (mirrors_requests _ shaders).bind fun _ => .throw _
  | ok program =>
      refine (mirrors_requests _ shaders).bind fun _ => (mirrors_request _).bind fun linked => ?_
      refine (mirrors_requests _ shaders).bind fun _ => ?_
      refine (mirrors_requests _ shaders).bind fun _ => ?_
      refine .ite ?_ ?_
      · exact (mirrors_report _).bind fun _ => .pure _
      · refine (mirrors_request _).bind fun log => (mirrors_report _).bind fun _ => ?_
        exact (mirrors_request _).bind fun _ => .throw _

lemma mirrors_queryBindings (storage : ProgramStorage) (locate : String → Request (Option Nat))
    (properties : List Property) :
    Mirrors Site.untraced (queryBindings storage locate properties : Building (Traced start) _)
      (queryBindings storage locate properties) := by
  refine .foldlM (fun found property => (mirrors_request _).bind fun location => ?_) _ _
  cases location with
  | none => exact .pure _
  | some location =>
      cases storage.binding? property.name with
      | none => exact .pure _
      | some binding => exact .pure _

lemma mirrors_query (name : ProgramName) (storage : ProgramStorage) :
    Mirrors Site.untraced (query name storage : Building (Traced start) _)
      (query name storage) := by
  have huniform : ∀ linked property,
      Mirrors Site.untraced (queryUniform name linked property : Building (Traced start) _)
        (queryUniform name linked property) := by
    intro linked property
    refine (mirrors_request _).bind fun location => ?_
    cases location with
    | some location => exact .pure _
    | none => exact (mirrors_report _).bind fun _ => .pure _
  refine (Mirrors.foldlM huniform _ _).bind fun linked => ?_
  refine (mirrors_queryBindings storage _ _).bind fun samplers => ?_
  refine (mirrors_queryBindings storage _ _).bind fun uniformBlocks => ?_
  refine (mirrors_queryBindings storage _ _).bind fun storageBlocks => ?_
  exact (Mirrors.forM (fun _ => mirrors_report _) _).bind fun _ => .pure _

lemma mirrors_program (blueprint : Blueprint) (desired : PropertyList) :
    Mirrors Site.untraced (program blueprint desired : Building (Traced start) _)
      (program blueprint desired) := by
  refine Mirrors.bind ?_ fun name => (mirrors_query name _).bind fun linked => .pure _
  exact (Mirrors.foldlM mirrors_compileStage _ _).bind mirrors_linkShaders

end Building

namespace Workshop

/-- The workshop with a trace of its device that begins now. -/
def traced (workshop : Workshop σ) : Workshop (Traced workshop.device) :=
  { device := .of workshop.device, registry := workshop.registry, events := workshop.events
    dumps := workshop.dumps }

/-- The workshop without the trace. -/
def untraced (workshop : Workshop (Traced start)) : Workshop σ :=
  { device := workshop.device.device, registry := workshop.registry, events := workshop.events
    dumps := workshop.dumps }

end Workshop

/-- **Tracing changes nothing.** -/
theorem compile_traced (setting : Setting) (requests : List StageRequest) (desired : PropertyList)
    (workshop : Workshop σ) :
    Outcome.view Workshop.untraced (compile setting requests desired workshop.traced) =
      compile setting requests desired workshop := by
  have hinfo : Device.info workshop.traced.device = Device.info workshop.device := rfl
  have hdraft : workshop.traced.draft = workshop.draft := rfl
  rw [compile, compile, hinfo, hdraft]
  cases Drafting.blueprint setting (Device.info workshop.device) requests desired
      workshop.draft with
  | error error draft => rfl
  | ok blueprint draft =>
      have hplain : Building.program blueprint desired
          ⟨(workshop.settle draft).device, (workshop.settle draft).events⟩ =
            Outcome.view Site.untraced (Building.program blueprint desired
              ⟨(workshop.traced.settle draft).device, (workshop.traced.settle draft).events⟩) :=
        (Building.mirrors_program blueprint desired
          ⟨(workshop.traced.settle draft).device, (workshop.traced.settle draft).events⟩).symm
      dsimp only
      rw [hplain]
      cases Building.program blueprint desired
          (⟨(workshop.traced.settle draft).device, (workshop.traced.settle draft).events⟩ :
            Site (Traced workshop.device)) with
      | error error site => rfl
      | ok program site => rfl

end Untraced

/-! ## What work leaves in the trace -/

/-- What is true of a success and its state, or of a failure and its state. -/
def Outcome.Ends {ε σ α : Type} (Q : α → σ → Prop) (E : ε → σ → Prop) :
    EStateM.Result ε σ α → Prop
  | .ok a s => Q a s
  | .error e s => E e s

namespace Building

variable {σ α β : Type} [Device σ] {start : σ} {before : List Call} {Q : α → List Call → Prop}
  {E : ShaderError → List Call → Prop}

/-- Work on a device that has got the calls `before` ends with calls of which `Q` is true, or
fails with calls of which `E` is true. -/
def Leaves (before : List Call) (Q : α → List Call → Prop) (E : ShaderError → List Call → Prop)
    (x : Building (Traced start) α) : Prop :=
  ∀ site : Site (Traced start), site.device.calls = before →
    Outcome.Ends (fun a after => Q a after.device.calls) (fun e after => E e after.device.calls)
      (x site)

lemma leaves_pure {a : α} (h : Q a before) :
    Leaves before Q E (pure a : Building (Traced start) α) := by
  rintro site rfl
  exact h

lemma leaves_throw {e : ShaderError} (h : E e before) :
    Leaves before Q E (throw e : Building (Traced start) α) := by
  rintro site rfl
  exact h

lemma Leaves.bind {P : β → List Call → Prop} {x : Building (Traced start) β}
    {f : β → Building (Traced start) α} (hx : Leaves before P E x)
    (hf : ∀ b calls, P b calls → Leaves calls Q E (f b)) : Leaves before Q E (x >>= f) := by
  intro site hsite
  have hends := hx site hsite
  cases hok : x site with
  | ok b after =>
      rw [hok] at hends
      rw [Outcome.bind_of_ok hok]
      exact hf b _ hends after rfl
  | error e after =>
      rw [hok] at hends
      rw [Outcome.bind_of_error hok]
      exact hends

lemma leaves_request_bind (r : Request β) {f : β → Building (Traced start) α}
    (hf : ∀ answer, Leaves (before ++ [r.answered answer]) Q E (f answer)) :
    Leaves before Q E (request r >>= f) := by
  rintro site rfl
  exact hf _ _ rfl

lemma leaves_report_bind (event : Event) {f : Unit → Building (Traced start) α}
    (hf : Leaves before Q E (f ())) : Leaves before Q E (report event >>= f) := by
  rintro site rfl
  exact hf _ rfl

lemma leaves_reports_bind {γ : Type} (event : γ → Event) (xs : List γ)
    {f : Unit → Building (Traced start) α} (hf : Leaves before Q E (f ())) :
    Leaves before Q E ((xs.forM fun x => report (event x)) >>= f) := by
  induction xs with
  | nil => exact hf
  | cons x xs ih =>
      exact leaves_report_bind (f := fun _ => (xs.forM fun x => report (event x)) >>= f) (event x)
        ih

/-- Requests one after the other, to which there are no answers. -/
lemma leaves_requests_bind {γ : Type} (r : γ → Request Unit) (xs : List γ)
    {f : Unit → Building (Traced start) α}
    (hf : Leaves (before ++ xs.map fun x => (r x).answered ()) Q E (f ())) :
    Leaves before Q E ((xs.forM fun x => request (r x)) >>= f) := by
  induction xs generalizing before with
  | nil =>
      rw [List.map_nil, List.append_nil] at hf
      exact hf
  | cons x xs ih =>
      rw [List.map_cons, ← List.singleton_append, ← List.append_assoc] at hf
      exact leaves_request_bind (r x) fun _ => ih hf

/-- What every step keeps, a loop keeps. -/
lemma leaves_foldlM {γ : Type} {step : α → γ → Building (Traced start) α}
    (hstep : ∀ a x calls, Q a calls → Leaves calls Q E (step a x)) (xs : List γ) {a : α}
    (h : Q a before) : Leaves before Q E (xs.foldlM step a) := by
  induction xs generalizing before a with
  | nil => exact leaves_pure h
  | cons x xs ih => exact (hstep a x before h).bind fun _ _ => ih

end Building

end ShaderWeave
