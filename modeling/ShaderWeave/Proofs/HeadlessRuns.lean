import ShaderWeave.Device.Headless
import ShaderWeave.Program.Linked
import ShaderWeave.Proofs.Sources

/-!
# Headless devices of different histories

A headless device gives every object a new name, so what it did before does not show in what it does
next, apart from the names.

* `Headless.fresh` — the device as it was set up, before its first request.
* `Headless.Named` — no object has a name that is still to be given.  Every request keeps this, so
  the next object is found under its name.
* `Building.bond` — two devices that were set up alike.  They go on by compiling the same texts.

`Building.beside_program`: from matching blueprints two such devices make programs that differ only
in their names, or fail with the same error.
-/

namespace ShaderWeave

/-! ## What requests keep -/

/-- The request brings the device a source. -/
def Request.isCompile : {α : Type} → Request α → Bool
  | _, .compileShader .. => true
  | _, _ => false

namespace Headless

variable {device : Headless} {α : Type}

/-- The device as it was set up, before its first request. -/
def fresh (device : Headless) : Headless where
  info := device.info
  failingText := device.failingText
  failingLink := device.failingLink
  eliminated := device.eliminated

/-- No object has a name that is still to be given. -/
structure Named (device : Headless) : Prop where
  shaders : ∀ entry ∈ device.shaders, entry.1.id ≤ device.lastName
  programs : ∀ entry ∈ device.programs, entry.1.id ≤ device.lastName

lemma named_fresh (device : Headless) : device.fresh.Named := ⟨by simp [fresh], by simp [fresh]⟩

/-- What every request leaves as it is. -/
structure Keeps (device after : Headless) : Prop where
  fresh : after.fresh = device.fresh
  named : device.Named → after.Named

namespace Keeps

lemma refl (device : Headless) : Keeps device device := ⟨rfl, id⟩

lemma trans {after later : Headless} (h : Keeps device after) (h' : Keeps after later) :
    Keeps device later :=
  ⟨h'.fresh.trans h.fresh, h'.named ∘ h.named⟩

end Keeps

lemma keeps_updateProgram (device : Headless) (name : ProgramName)
    (change : HeadlessProgram → HeadlessProgram) :
    Keeps device (device.updateProgram name change) where
  fresh := rfl
  named h := by
    refine ⟨h.shaders, fun entry hentry => ?_⟩
    obtain ⟨⟨n, p⟩, hmem, rfl⟩ := List.mem_map.1 hentry
    have := h.programs (n, p) hmem
    dsimp only
    split <;> exact this

lemma keeps_locate (name : ProgramName) (resource : String) :
    Keeps device (device.locate name resource).2 := by
  unfold locate
  split
  · exact Keeps.refl device
  · split
    · exact Keeps.refl device
    · split
      · exact Keeps.refl device
      · dsimp only
        exact keeps_updateProgram device name _

lemma keeps_compile (name : ShaderName) (source : String) :
    Keeps device (device.compile name source).2 := by
  unfold compile
  split
  · exact Keeps.refl device
  · refine ⟨rfl, fun h => ⟨fun entry hentry => ?_, h.programs⟩⟩
    obtain ⟨⟨n, s⟩, hmem, rfl⟩ := List.mem_map.1 hentry
    have := h.shaders (n, s) hmem
    dsimp only
    split <;> exact this

lemma keeps_answer (request : Request α) : Keeps device (device.answer request).2 := by
  cases request with
  | createShader stage =>
      refine ⟨rfl, fun h => ⟨fun entry hentry => ?_, fun entry hentry =>
        Nat.le_succ_of_le (h.programs entry hentry)⟩⟩
      rcases List.mem_append.1 hentry with hentry | hentry
      · exact Nat.le_succ_of_le (h.shaders entry hentry)
      · rw [List.mem_singleton.1 hentry]
        exact Nat.le_refl _
  | createProgram =>
      refine ⟨rfl, fun h => ⟨fun entry hentry => Nat.le_succ_of_le (h.shaders entry hentry),
        fun entry hentry => ?_⟩⟩
      rcases List.mem_append.1 hentry with hentry | hentry
      · exact Nat.le_succ_of_le (h.programs entry hentry)
      · rw [List.mem_singleton.1 hentry]
        exact Nat.le_refl _
  | compileShader shader source => exact keeps_compile shader source
  | deleteShader shader =>
      exact ⟨rfl, fun h => ⟨fun entry hentry => h.shaders entry (List.mem_of_mem_filter hentry),
        h.programs⟩⟩
  | deleteProgram program =>
      exact ⟨rfl, fun h => ⟨h.shaders, fun entry hentry =>
        h.programs entry (List.mem_of_mem_filter hentry)⟩⟩
  | attachShader program shader =>
      exact keeps_updateProgram device program fun p =>
        { p with attached := p.attached ++ [shader] }
  | detachShader program shader =>
      exact keeps_updateProgram device program fun p =>
        { p with attached := p.attached.filter (· != shader) }
  | uniformLocation program name => exact keeps_locate program name
  | blockIndex kind program name => exact keeps_locate program name
  | shaderLog shader => exact Keeps.refl device
  | programLog program => exact Keeps.refl device
  | linkProgram program => exact ⟨rfl, fun h => ⟨h.shaders, h.programs⟩⟩
  | bind call => exact ⟨rfl, fun h => ⟨h.shaders, h.programs⟩⟩

lemma sources_locate (name : ProgramName) (resource : String) :
    (device.locate name resource).2.sources = device.sources := by
  unfold locate
  split
  · rfl
  · split
    · rfl
    · split <;> rfl

lemma sources_answer {request : Request α} (h : request.isCompile = false) :
    (device.answer request).2.sources = device.sources := by
  cases request with
  | compileShader shader source => cases h
  | uniformLocation program name => exact sources_locate program name
  | blockIndex kind program name => exact sources_locate program name
  | _ => rfl

/-! ## Objects under their names -/

/-- The record under a name after it was changed. -/
lemma find?_map_change {κ ν : Type} [DecidableEq κ] (entries : List (κ × ν)) (name : κ)
    (change : ν → ν) :
    ((entries.map fun (n, v) => if n = name then (n, change v) else (n, v)).find?
        (·.1 == name)).map (·.2) =
      ((entries.find? (·.1 == name)).map (·.2)).map change := by
  induction entries with
  | nil => rfl
  | cons entry entries ih =>
      obtain ⟨n, v⟩ := entry
      by_cases hname : n = name
      · simp [hname]
      · simpa [hname] using ih

lemma shader?_createShader (h : device.Named) (stage : Stage) :
    (device.answer (.createShader stage)).2.shader? ⟨device.lastName + 1⟩ = some { stage } := by
  have hnone : device.shaders.find? (·.1 == (⟨device.lastName + 1⟩ : ShaderName)) = none := by
    rw [List.find?_eq_none]
    intro entry hentry heq
    have hid := h.shaders entry hentry
    rw [beq_iff_eq.1 heq] at hid
    exact Nat.not_succ_le_self _ hid
  simp [answer, shader?, List.find?_append, hnone]

lemma shader?_compile {name : ShaderName} {source : String} {shader : HeadlessShader}
    (h : device.shader? name = some shader) :
    (device.compile name source).2.shader? name = some { shader with source } := by
  rw [compile, h]
  have hchange := find?_map_change device.shaders name fun s => { s with source }
  rw [← shader?, h] at hchange
  exact hchange

lemma sources_compile {name : ShaderName} {source : String} {shader : HeadlessShader}
    (h : device.shader? name = some shader) :
    (device.compile name source).2.sources = device.sources ++ [(shader.stage, source)] := by
  rw [compile, h]

lemma program?_createProgram (h : device.Named) :
    (device.answer .createProgram).2.program? ⟨device.lastName + 1⟩ = some {} := by
  have hnone : device.programs.find? (·.1 == (⟨device.lastName + 1⟩ : ProgramName)) = none := by
    rw [List.find?_eq_none]
    intro entry hentry heq
    have hid := h.programs entry hentry
    rw [beq_iff_eq.1 heq] at hid
    exact Nat.not_succ_le_self _ hid
  simp [answer, program?, List.find?_append, hnone]

lemma program?_updateProgram (device : Headless) (name : ProgramName)
    (change : HeadlessProgram → HeadlessProgram) :
    (device.updateProgram name change).program? name = (device.program? name).map change :=
  find?_map_change device.programs name change

/-- The resources that were placed in the program under a name. -/
def located? (device : Headless) (name : ProgramName) : Option (List String) :=
  (device.program? name).map HeadlessProgram.located

lemma located?_updateProgram (name : ProgramName) {change : HeadlessProgram → HeadlessProgram}
    (h : ∀ program, (change program).located = program.located) :
    (device.updateProgram name change).located? name = device.located? name := by
  rw [located?, program?_updateProgram, Option.map_map, located?]
  exact congrArg (Option.map · _) (funext h)

/-- Where a resource is among those that were placed, and what is placed after it was asked for. -/
def place (eliminated located : List String) (resource : String) : Option Nat × List String :=
  if resource ∈ eliminated then (none, located)
  else
    match located.findIdx? (· == resource) with
    | some location => (some location, located)
    | none => (some located.length, located ++ [resource])

lemma locate_eq_place {name : ProgramName} {located : List String}
    (h : device.located? name = some located) (resource : String) :
    (device.locate name resource).1 = (place device.eliminated located resource).1 ∧
      (device.locate name resource).2.located? name =
        some (place device.eliminated located resource).2 := by
  obtain ⟨program, hprogram, rfl⟩ := Option.map_eq_some_iff.1 h
  rw [locate, place]
  split
  · exact ⟨rfl, h⟩
  · rw [hprogram]
    dsimp only
    cases program.located.findIdx? (· == resource) with
    | some location => exact ⟨rfl, h⟩
    | none =>
        refine ⟨rfl, ?_⟩
        dsimp only
        rw [located?, program?_updateProgram, hprogram]
        rfl

end Headless

/-! ## Two devices at work -/

/-- Both devices have compiled the same texts since. -/
def Headless.Onward (device device' after after' : Headless) : Prop :=
  ∃ texts, after.sources = device.sources ++ texts ∧ after'.sources = device'.sources ++ texts

lemma Headless.Onward.refl (device device' : Headless) : Onward device device' device device' :=
  ⟨[], by simp⟩

lemma Headless.Onward.trans {device device' after after' later later' : Headless}
    (h : Onward device device' after after') (h' : Onward after after' later later') :
    Onward device device' later later' := by
  obtain ⟨texts, hsources, hsources'⟩ := h
  obtain ⟨more, hmore, hmore'⟩ := h'
  refine ⟨texts ++ more, ?_, ?_⟩
  · rw [hmore, hsources, List.append_assoc]
  · rw [hmore', hsources', List.append_assoc]

lemma Headless.failingLink_eq {device device' : Headless} (h : device.fresh = device'.fresh) :
    device.failingLink = device'.failingLink :=
  congrArg (fun d => d.failingLink) h

lemma Headless.refuses_eq {device device' : Headless} (h : device.fresh = device'.fresh)
    (source : String) : device.refuses source = device'.refuses source := by
  have htext : device.failingText = device'.failingText := congrArg (fun d => d.failingText) h
  rw [Headless.refuses, Headless.refuses, htext]

lemma Headless.shaderLog_eq {device device' : Headless} {name name' : ShaderName}
    {shader : HeadlessShader} (h : device.fresh = device'.fresh)
    (hshader : device.shader? name = some shader) (hshader' : device'.shader? name' = some shader) :
    device.shaderLog name = device'.shaderLog name' := by
  have htext : device.failingText = device'.failingText := congrArg (fun d => d.failingText) h
  rw [shaderLog, shaderLog, hshader, hshader', htext]
  cases device'.failingText with
  | none => rfl
  | some text =>
      dsimp only
      rw [refuses_eq h]

namespace Site

/-- Two devices at work that were both set up like a third. -/
structure Paired (setup : Headless) (site site' : Site Headless) : Prop where
  fresh : site.device.fresh = setup.fresh
  fresh' : site'.device.fresh = setup.fresh
  named : site.device.Named
  named' : site'.device.Named

/-- Both devices have the program, and have placed the same resources in it. -/
def Placed (site site' : Site Headless) (name name' : ProgramName) : Prop :=
  ∃ located, site.device.located? name = some located ∧ site'.device.located? name' = some located

/-- The site after a request. -/
def asked {α : Type} (site : Site Headless) (request : Request α) : Site Headless :=
  { site with device := (site.device.answer request).2 }

variable {setup : Headless} {site site' : Site Headless}

lemma Paired.fresh_eq (h : Paired setup site site') : site.device.fresh = site'.device.fresh :=
  h.fresh.trans h.fresh'.symm

lemma Paired.asked {α α' : Type} {request : Request α} {request' : Request α'}
    (h : Paired setup site site') : Paired setup (site.asked request) (site'.asked request') where
  fresh := (Headless.keeps_answer request).fresh.trans h.fresh
  fresh' := (Headless.keeps_answer request').fresh.trans h.fresh'
  named := (Headless.keeps_answer request).named h.named
  named' := (Headless.keeps_answer request').named h.named'

/-- The site after requests one after the other. -/
def askedAll {γ : Type} (site : Site Headless) (r : γ → Request Unit) (xs : List γ) :
    Site Headless :=
  xs.foldl (fun site x => site.asked (r x)) site

lemma keeps_askedAll {γ : Type} (r : γ → Request Unit) (xs : List γ) :
    Headless.Keeps site.device (site.askedAll r xs).device := by
  induction xs generalizing site with
  | nil => exact Headless.Keeps.refl site.device
  | cons x xs ih => exact (Headless.keeps_answer (r x)).trans (@ih (site.asked (r x)))

lemma sources_askedAll {γ : Type} {r : γ → Request Unit} {xs : List γ}
    (hr : ∀ x, (r x).isCompile = false) :
    (site.askedAll r xs).device.sources = site.device.sources := by
  induction xs generalizing site with
  | nil => rfl
  | cons x xs ih => exact ih.trans (Headless.sources_answer (hr x))

lemma Paired.askedAll {γ : Type} {r r' : γ → Request Unit} {xs xs' : List γ}
    (h : Paired setup site site') :
    Paired setup (site.askedAll r xs) (site'.askedAll r' xs') where
  fresh := (keeps_askedAll r xs).fresh.trans h.fresh
  fresh' := (keeps_askedAll r' xs').fresh.trans h.fresh'
  named := (keeps_askedAll r xs).named h.named
  named' := (keeps_askedAll r' xs').named h.named'

lemma program?_attach {name : ProgramName} {program : HeadlessProgram} (xs : List ShaderName)
    (h : site.device.program? name = some program) :
    (site.askedAll (.attachShader name) xs).device.program? name =
      some { program with attached := program.attached ++ xs } := by
  induction xs generalizing site program with
  | nil => simpa [askedAll] using h
  | cons x xs ih =>
      have hx : (site.asked (.attachShader name x)).device.program? name =
          some { program with attached := program.attached ++ [x] } := by
        have hchange := Headless.program?_updateProgram site.device name fun p =>
          { p with attached := p.attached ++ [x] }
        rw [h] at hchange
        exact hchange
      have hxs := ih hx
      rw [List.append_assoc] at hxs
      exact hxs

lemma located?_askedAll {γ : Type} {r : γ → Request Unit} {name : ProgramName}
    (hr : ∀ (device : Headless) (x : γ),
      (device.answer (r x)).2.located? name = device.located? name)
    (xs : List γ) : (site.askedAll r xs).device.located? name = site.device.located? name := by
  induction xs generalizing site with
  | nil => rfl
  | cons x xs ih => exact (@ih (site.asked (r x))).trans (hr site.device x)

/-- The program that is made next, with shaders attached to it. -/
lemma program?_created (h : site.device.Named) (shaders : List ShaderName) :
    ((site.asked .createProgram).askedAll (.attachShader ⟨site.device.lastName + 1⟩)
        shaders).device.program? ⟨site.device.lastName + 1⟩ = some { attached := shaders } := by
  have hcreated :
      (site.asked .createProgram).device.program? ⟨site.device.lastName + 1⟩ = some {} :=
    Headless.program?_createProgram h
  exact program?_attach shaders hcreated

/-- The program that is made next has no resources placed when it is linked and its shaders are
given back. -/
lemma located?_linked (h : site.device.Named) (shaders : List ShaderName) :
    (((((site.asked .createProgram).askedAll (.attachShader ⟨site.device.lastName + 1⟩)
          shaders).asked (.linkProgram ⟨site.device.lastName + 1⟩)).askedAll
        (.detachShader ⟨site.device.lastName + 1⟩) shaders).askedAll .deleteShader
          shaders).device.located? ⟨site.device.lastName + 1⟩ = some [] := by
  rw [located?_askedAll (fun _ _ => rfl), located?_askedAll]
  · change Headless.located? (askedAll _ _ _).device _ = _
    rw [Headless.located?, program?_created h]
    rfl
  · exact fun device shader => Headless.located?_updateProgram _ fun _ => rfl

end Site

namespace Building

/-- The pairs of devices that run side by side. -/
def bond (setup : Headless) : Bond (Site Headless) where
  Rel := Site.Paired setup
  Goes site site' after after' :=
    Headless.Onward site.device site'.device after.device after'.device
  refl site site' := Headless.Onward.refl site.device site'.device
  trans := Headless.Onward.trans

variable {α α' β β' : Type} {setup : Headless} {site site' : Site Headless}
  {C : Site Headless → Site Headless → β → β' → Prop}

lemma forM_request {γ : Type} (r : γ → Request Unit) (xs : List γ) (site : Site Headless) :
    (xs.forM fun x => request (r x) : Building Headless Unit) site =
      .ok () (site.askedAll r xs) := by
  induction xs generalizing site with
  | nil => rfl
  | cons x xs ih => exact ih (site.asked (r x))

/-- A request that brings no source. -/
lemma beside_request_bind {r : Request α} {r' : Request α'} {f : α → Building Headless β}
    {f' : α' → Building Headless β'} (h : Site.Paired setup site site') (hr : r.isCompile = false)
    (hr' : r'.isCompile = false)
    (hnext : Site.Paired setup (site.asked r) (site'.asked r') →
      (bond setup).Beside C (f (site.device.answer r).1) (f' (site'.device.answer r').1)
        (site.asked r) (site'.asked r')) :
    (bond setup).Beside C (request r >>= f) (request r' >>= f') site site' := by
  refine Bond.Twin.goes ?_ (hnext h.asked)
  exact ⟨[], by rw [Site.asked, Headless.sources_answer hr, List.append_nil],
    by rw [Site.asked, Headless.sources_answer hr', List.append_nil]⟩

/-- A request that brings no source and gets the same answer from both. -/
lemma beside_ask_bind {r r' : Request α} {f : α → Building Headless β}
    {f' : α → Building Headless β'} (h : Site.Paired setup site site') (hr : r.isCompile = false)
    (hr' : r'.isCompile = false) (hsame : (site.device.answer r).1 = (site'.device.answer r').1)
    (hnext : ∀ a, Site.Paired setup (site.asked r) (site'.asked r') →
      (bond setup).Beside C (f a) (f' a) (site.asked r) (site'.asked r')) :
    (bond setup).Beside C (request r >>= f) (request r' >>= f') site site' := by
  refine beside_request_bind h hr hr' fun hrel => ?_
  rw [hsame]
  exact hnext _ hrel

/-- Requests one after the other, none of which brings a source. -/
lemma beside_requests_bind {γ : Type} {r r' : γ → Request Unit} {xs xs' : List γ}
    {f : Unit → Building Headless β} {f' : Unit → Building Headless β'}
    (h : Site.Paired setup site site')
    (hr : ∀ x, (r x).isCompile = false) (hr' : ∀ x, (r' x).isCompile = false)
    (hnext : Site.Paired setup (site.askedAll r xs) (site'.askedAll r' xs') →
      (bond setup).Beside C (f ()) (f' ()) (site.askedAll r xs) (site'.askedAll r' xs')) :
    (bond setup).Beside C ((xs.forM fun x => request (r x)) >>= f)
      ((xs'.forM fun x => request (r' x)) >>= f') site site' := by
  rw [Bond.Beside, Outcome.bind_of_ok (forM_request r xs site),
    Outcome.bind_of_ok (forM_request r' xs' site')]
  refine Bond.Twin.goes ?_ (hnext h.askedAll)
  exact ⟨[], by rw [Site.sources_askedAll hr, List.append_nil],
    by rw [Site.sources_askedAll hr', List.append_nil]⟩

lemma beside_report (h : Site.Paired setup site site') (event : Event) :
    (bond setup).Beside
      (fun after after' _ _ => after.device = site.device ∧ after'.device = site'.device)
      (report event) (report event) site site' :=
  ⟨⟨h.fresh, h.fresh', h.named, h.named'⟩, ⟨[], by simp⟩, rfl, rfl⟩

/-! ## Compiling -/

/-- Giving shaders back and failing with the same error. -/
lemma beside_release_throw {A : Site Headless → Site Headless → α → α → Prop}
    {made made' : List ShaderName} (h : Site.Paired setup site site') (error : ShaderError) :
    (bond setup).Beside A (release made >>= fun _ => throw error)
      (release made' >>= fun _ => throw error) site site' :=
  beside_requests_bind h (fun _ => rfl) (fun _ => rfl) fun hrel => Bond.beside_throw error hrel

lemma beside_compileShader_bind {name name' : ShaderName} {source : String}
    {shader : HeadlessShader} {f : Bool → Building Headless β} {f' : Bool → Building Headless β'}
    (h : Site.Paired setup site site')
    (hshader : site.device.shader? name = some shader)
    (hshader' : site'.device.shader? name' = some shader)
    (hnext : ∀ after after' accepted, Site.Paired setup after after' →
      after.device.shader? name = some { shader with source } →
      after'.device.shader? name' = some { shader with source } →
      (bond setup).Beside C (f accepted) (f' accepted) after after') :
    (bond setup).Beside C (request (.compileShader name source) >>= f)
      (request (.compileShader name' source) >>= f') site site' := by
  have haccepted : (site.device.compile name source).1 = (site'.device.compile name' source).1 := by
    rw [Headless.compile, hshader, Headless.compile, hshader']
    exact congrArg not (Headless.refuses_eq h.fresh_eq source)
  have hrest : (bond setup).Beside C (f (site.device.compile name source).1)
      (f' (site'.device.compile name' source).1) (site.asked (.compileShader name source))
      (site'.asked (.compileShader name' source)) := by
    rw [← haccepted]
    exact hnext _ _ _ h.asked (Headless.shader?_compile hshader) (Headless.shader?_compile hshader')
  refine Bond.Twin.goes ⟨[(shader.stage, source)], ?_, ?_⟩ hrest
  · exact Headless.sources_compile hshader
  · exact Headless.sources_compile hshader'

/-- A text is compiled by both devices or refused by both, with the same words. -/
lemma beside_compileStage {made made' : List ShaderName} (h : Site.Paired setup site site')
    (hlength : made.length = made'.length) (text : Stage × String) :
    (bond setup).Beside (fun _ _ shaders shaders' => shaders.length = shaders'.length)
      (compileStage made text) (compileStage made' text) site site' := by
  refine beside_request_bind h rfl rfl fun hrel => ?_
  refine beside_compileShader_bind hrel (Headless.shader?_createShader h.named text.1)
    (Headless.shader?_createShader h.named' text.1) fun t t' accepted hrel hshader hshader' => ?_
  refine Bond.beside_ite (fun _ => ?_) fun _ => ?_
  · refine (beside_report hrel _).bind fun _ _ _ _ hrel _ _ => ?_
    exact Bond.beside_pure hrel (by simp [hlength])
  · refine beside_ask_bind hrel rfl rfl (Headless.shaderLog_eq hrel.fresh_eq hshader hshader')
      fun log hrel => ?_
    refine (beside_report hrel _).bind fun _ _ _ _ hrel _ _ => ?_
    exact beside_release_throw hrel _

/-! ## Linking -/

lemma link_eq {device : Headless} {name : ProgramName} {program : HeadlessProgram}
    (h : device.program? name = some program) :
    (device.link name).1 = (!program.attached.isEmpty && !device.failingLink) := by
  rw [Headless.link, h]

lemma beside_linkShaders {shaders shaders' : List ShaderName} (h : Site.Paired setup site site')
    (hlength : shaders.length = shaders'.length) :
    (bond setup).Beside Site.Placed (linkShaders shaders) (linkShaders shaders') site site' := by
  refine beside_request_bind h rfl rfl fun hrel => ?_
  refine beside_requests_bind hrel (fun _ => rfl) (fun _ => rfl) fun hrel => ?_
  refine beside_ask_bind hrel rfl rfl ?_ fun linked hrel => ?_
  · have hlink := link_eq (Site.program?_created h.named shaders)
    have hlink' := link_eq (Site.program?_created h.named' shaders')
    have hempty : shaders.isEmpty = shaders'.isEmpty := by
      rw [Bool.eq_iff_iff, List.isEmpty_iff_length_eq_zero, List.isEmpty_iff_length_eq_zero,
        hlength]
    rw [hempty, Headless.failingLink_eq hrel.fresh_eq, ← hlink'] at hlink
    exact hlink
  refine beside_requests_bind hrel (fun _ => rfl) (fun _ => rfl) fun hrel => ?_
  refine beside_requests_bind hrel (fun _ => rfl) (fun _ => rfl) fun hrel => ?_
  refine Bond.beside_ite (fun _ => ?_) fun _ => ?_
  · rw [hlength]
    refine (beside_report hrel _).bind fun _ _ after after' hrel _ hdevice => ?_
    refine Bond.beside_pure hrel ⟨[], ?_, ?_⟩
    · rw [hdevice.1]
      exact Site.located?_linked h.named shaders
    · rw [hdevice.2]
      exact Site.located?_linked h.named' shaders'
  · refine beside_ask_bind hrel rfl rfl ?_ fun log hrel => ?_
    · exact congrArg (fun failing : Bool => if failing then "error: linking rejected" else "")
        (Headless.failingLink_eq hrel.fresh_eq)
    refine (beside_report hrel _).bind fun _ _ _ _ hrel _ _ => ?_
    refine beside_request_bind hrel rfl rfl fun hrel => ?_
    exact Bond.beside_throw _ hrel

lemma beside_build {texts : List (Stage × String)} (h : Site.Paired setup site site') :
    (bond setup).Beside Site.Placed (build texts) (build texts) site site' := by
  have hcompiled : (bond setup).Beside
      (fun _ _ (shaders shaders' : List ShaderName) => shaders.length = shaders'.length)
      (texts.foldlM compileStage []) (texts.foldlM compileStage []) site site' :=
    Bond.beside_foldlM (A := fun _ _ _ (shaders shaders' : List ShaderName) =>
      shaders.length = shaders'.length) h rfl
      fun _ text _ _ _ _ _ hrel _ hlength => beside_compileStage hrel hlength text
  exact hcompiled.bind fun _ _ _ _ hrel _ hlength => beside_linkShaders hrel hlength

/-! ## Querying -/

/-- Both devices place a resource alike. -/
lemma beside_locate_bind {r r' : Request (Option Nat)} {name name' : ProgramName}
    {resource : String} {f : Option Nat → Building Headless β}
    {f' : Option Nat → Building Headless β'}
    (h : Site.Paired setup site site') (hr : r.isCompile = false) (hr' : r'.isCompile = false)
    (hlocate : ∀ device : Headless, device.answer r = device.locate name resource)
    (hlocate' : ∀ device : Headless, device.answer r' = device.locate name' resource)
    (hplaced : site.Placed site' name name')
    (hnext : ∀ location after after', Site.Paired setup after after' →
      after.Placed after' name name' →
      (bond setup).Beside C (f location) (f' location) after after') :
    (bond setup).Beside C (request r >>= f) (request r' >>= f') site site' := by
  obtain ⟨located, hlocated, hlocated'⟩ := hplaced
  obtain ⟨hanswer, hafter⟩ := Headless.locate_eq_place hlocated resource
  obtain ⟨hanswer', hafter'⟩ := Headless.locate_eq_place hlocated' resource
  have heliminated : site.device.eliminated = site'.device.eliminated :=
    congrArg (fun d => d.eliminated) h.fresh_eq
  refine beside_ask_bind h hr hr' ?_ fun location hrel => ?_
  · rw [hlocate, hlocate', hanswer, hanswer', heliminated]
  · refine hnext location _ _ hrel
      ⟨(Headless.place site'.device.eliminated located resource).2, ?_, ?_⟩
    · rw [Site.asked, hlocate, ← heliminated]
      exact hafter
    · rw [Site.asked, hlocate']
      exact hafter'

lemma beside_queryUniform {name name' : ProgramName} {linked : LinkedStorage} {property : Property}
    (h : Site.Paired setup site site') (hplaced : site.Placed site' name name') :
    (bond setup).Beside
      (fun after after' linked linked' => linked = linked' ∧ after.Placed after' name name')
      (queryUniform name linked property) (queryUniform name' linked property) site site' := by
  refine beside_locate_bind h rfl rfl (fun _ => rfl) (fun _ => rfl) hplaced
    fun location after after' hrel hplaced => ?_
  cases location with
  | some location => exact Bond.beside_pure hrel ⟨rfl, hplaced⟩
  | none =>
      refine (beside_report hrel _).bind fun _ _ _ _ hrel _ hdevice => ?_
      refine Bond.beside_pure hrel ⟨rfl, ?_⟩
      rw [Site.Placed, hdevice.1, hdevice.2]
      exact hplaced

lemma beside_queryBindings {name name' : ProgramName} {storage : ProgramStorage}
    {r r' : String → Request (Option Nat)} {mark : String → String} {properties : List Property}
    (h : Site.Paired setup site site') (hr : ∀ s, (r s).isCompile = false)
    (hr' : ∀ s, (r' s).isCompile = false)
    (hlocate : ∀ (device : Headless) s, device.answer (r s) = device.locate name (mark s))
    (hlocate' : ∀ (device : Headless) s, device.answer (r' s) = device.locate name' (mark s))
    (hplaced : site.Placed site' name name') :
    (bond setup).Beside
      (fun after after' found found' => found = found' ∧ after.Placed after' name name')
      (queryBindings storage r properties) (queryBindings storage r' properties) site site' := by
  apply Bond.beside_foldlM (A := fun _ (after after' : Site Headless)
    (found found' : List BindingRecord × List String) =>
      found = found' ∧ after.Placed after' name name') h ⟨rfl, hplaced⟩
  rintro _ property found _ after after' - hrel - ⟨rfl, hplaced⟩
  refine beside_locate_bind hrel (hr _) (hr' _) (hlocate · _) (hlocate' · _) hplaced
    fun location t t' hrel hplaced => ?_
  cases location with
  | none => exact Bond.beside_pure hrel ⟨rfl, hplaced⟩
  | some location =>
      cases storage.binding? property.name with
      | none => exact Bond.beside_pure hrel ⟨rfl, hplaced⟩
      | some binding => exact Bond.beside_pure hrel ⟨rfl, hplaced⟩

lemma beside_query {name name' : ProgramName} {storage : ProgramStorage}
    (h : Site.Paired setup site site') (hplaced : site.Placed site' name name') :
    (bond setup).Beside Bond.Equal (query name storage) (query name' storage) site site' := by
  have huniforms : (bond setup).Beside
      (fun after after' linked linked' => linked = linked' ∧ after.Placed after' name name')
      (storage.uniforms.entries.foldlM (queryUniform name) {})
      (storage.uniforms.entries.foldlM (queryUniform name') {}) site site' := by
    apply Bond.beside_foldlM (A := fun _ (after after' : Site Headless)
      (linked linked' : LinkedStorage) => linked = linked' ∧ after.Placed after' name name') h
      ⟨rfl, hplaced⟩
    rintro _ property linked _ after after' - hrel - ⟨rfl, hplaced⟩
    exact beside_queryUniform hrel hplaced
  refine huniforms.bind fun linked _ _ _ hrel _ hfound => ?_
  obtain ⟨rfl, hplaced⟩ := hfound
  refine (beside_queryBindings hrel (fun _ => rfl) (fun _ => rfl) (fun _ _ => rfl) (fun _ _ => rfl)
    hplaced).bind fun samplers _ _ _ hrel _ hfound => ?_
  obtain ⟨rfl, hplaced⟩ := hfound
  refine (beside_queryBindings hrel (fun _ => rfl) (fun _ => rfl) (fun _ _ => rfl) (fun _ _ => rfl)
    hplaced).bind fun uniformBlocks _ _ _ hrel _ hfound => ?_
  obtain ⟨rfl, hplaced⟩ := hfound
  refine (beside_queryBindings hrel (fun _ => rfl) (fun _ => rfl) (fun _ _ => rfl) (fun _ _ => rfl)
    hplaced).bind fun storageBlocks _ _ _ hrel _ hfound => ?_
  obtain ⟨rfl, hplaced⟩ := hfound
  refine (Bond.beside_forM hrel fun name _ _ _ hrel _ => ?_).bind fun _ _ _ _ hrel _ _ => ?_
  · exact (beside_report hrel _).imp fun _ _ _ _ _ _ => rfl
  · exact Bond.beside_pure hrel rfl

/-- Matching blueprints become programs that differ only in their names. -/
theorem beside_program {blueprint blueprint' : Blueprint} (desired : PropertyList)
    (h : Site.Paired setup site site') (hmatches : blueprint.Matches blueprint') :
    (bond setup).Beside
      (fun _ _ program program' => program' = { program with name := program'.name })
      (Building.program blueprint desired) (Building.program blueprint' desired) site site' := by
  rw [Building.program, Building.program, Blueprint.texts, Blueprint.texts, hmatches.plans,
    hmatches.sources, hmatches.program]
  refine (beside_build h).bind fun name name' _ _ hrel _ hplaced => ?_
  refine (beside_query hrel hplaced).bind fun linked _ _ _ hrel _ hlinked => ?_
  obtain rfl := hlinked
  exact Bond.beside_pure hrel rfl

end Building

end ShaderWeave
