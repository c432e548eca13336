import ShaderWeave.Program.Cache
import ShaderWeave.Proofs.HeadlessRuns

/-!
# The program cache is transparent

A program that a cache gives out is the one that a compile with nothing before it would make.

**Workshops.**  `Workshop.From` says where a workshop comes from: its registry has grown from a
base, and its device was set up like another.  Every compile keeps this, also one that fails, and
two workshops from the same place compile alike (`Compiling.beside_compile`).

**Calls.**  `CacheCall` is a call to a cache.  Every call keeps `CachedWorkshop.Sound`: the workshop
is still from the same place, and every entry is what a compile from the start would give.

**Outcomes.**  `ProgramCache.retrieve_transparent`: after any calls, retrieving gives the outcome of
the same request at the start, with the same sources if it compiles.  This holds of self-contained
tasks.  It fails of a task that asks for the name of a type that it does not use and that nobody
registered by hand: there the cache shows which types earlier calls have registered
(`ProgramCache.not_forall_transparent`).
-/

namespace ShaderWeave

/-! ## Compiles -/

/-- A workshop whose registry has grown from a base and whose device was set up like another. -/
structure Workshop.From (base : Registry) (catalogue : Catalogue) (setup : Headless)
    (workshop : Workshop Headless) : Prop where
  grown : Registry.Grown base catalogue workshop.registry
  pending : workshop.registry.pending = []
  fresh : workshop.device.fresh = setup.fresh
  named : workshop.device.Named

namespace Workshop.From

variable {base : Registry} {catalogue : Catalogue} {setup : Headless} {workshop : Workshop Headless}

lemma settle (h : workshop.From base catalogue setup) {draft : Draft}
    (hgrown : Registry.Grown base catalogue draft.registry)
    (hpending : draft.registry.pending = []) :
    (workshop.settle draft).From base catalogue setup :=
  ⟨hgrown, hpending, h.fresh, h.named⟩

lemma leave (h : workshop.From base catalogue setup) {site : Site Headless}
    (hfresh : site.device.fresh = setup.fresh) (hnamed : site.device.Named) :
    (workshop.leave site).From base catalogue setup :=
  ⟨h.grown, h.pending, hfresh, hnamed⟩

end Workshop.From

namespace Compiling

/-- The pairs of workshops that run side by side: they go on by compiling the same texts. -/
def bond (base : Registry) (catalogue : Catalogue) (setup : Headless) :
    Bond (Workshop Headless) where
  Rel workshop workshop' :=
    workshop.From base catalogue setup ∧ workshop'.From base catalogue setup
  Goes workshop workshop' after after' :=
    Headless.Onward workshop.device workshop'.device after.device after'.device
  refl workshop workshop' := Headless.Onward.refl workshop.device workshop'.device
  trans := Headless.Onward.trans

variable {base : Registry} {setting : Setting} {setup : Headless}
  {workshop workshop' : Workshop Headless}

/-- A compile drafts a program, and then makes it. -/
lemma compile_eq_bind {σ : Type} [Device σ] (requests : List StageRequest) (desired : PropertyList)
    (workshop : Workshop σ) :
    compile setting requests desired workshop =
      (Bond.onPart Workshop.draft Workshop.settle ShaderError.specification
          (Drafting.blueprint setting (Device.info workshop.device) requests desired) >>=
        fun blueprint =>
          Bond.onPart (fun workshop : Workshop σ => ⟨workshop.device, workshop.events⟩)
            Workshop.leave id (Building.program blueprint desired)) workshop := by
  rw [compile]
  cases hdraft : Drafting.blueprint setting (Device.info workshop.device) requests desired
      workshop.draft with
  | error error draft =>
      rw [Outcome.bind_of_error (e := .specification error) (by rw [Bond.onPart, hdraft])]
  | ok blueprint draft =>
      rw [Outcome.bind_of_ok (a := blueprint) (by rw [Bond.onPart, hdraft]), Bond.onPart]
      dsimp only
      cases Building.program blueprint desired
          ⟨(workshop.settle draft).device, (workshop.settle draft).events⟩ with
      | error error site => rfl
      | ok program site => rfl

/-- Two workshops from the same place compile alike. -/
theorem beside_compile (requests : List StageRequest) (desired : PropertyList)
    (hvoid : base.key? .void ≠ none ∨ setting.catalogue.shape .void = .plain)
    (htasks : setting.resolver.SelfContained base)
    (h : workshop.From base setting.catalogue setup)
    (h' : workshop'.From base setting.catalogue setup) :
    (bond base setting.catalogue setup).Beside
      (fun _ _ program program' => program' = { program with name := program'.name })
      (compile setting requests desired) (compile setting requests desired)
      workshop workshop' := by
  have hinfo : Device.info workshop.device = Device.info workshop'.device :=
    congrArg (fun d => d.info) (h.fresh.trans h'.fresh.symm)
  have hdrafts : Draft.Paired base setting.catalogue workshop.draft workshop'.draft := by
    refine ⟨hvoid, h.grown, h'.grown, h.pending, h'.pending, rfl, fun cls property hproperty => ?_⟩
    cases cls <;> cases hproperty
  rw [Bond.Beside, compile_eq_bind, compile_eq_bind, hinfo]
  have hdrafted := Drafting.beside_blueprint (Device.info workshop'.device) requests desired hdrafts
    htasks
  refine Bond.Beside.bind (Bond.beside_onPart hdrafted fun draft draft' hrel _ => ?_)
    fun blueprint blueprint' w w' hfrom _ hmatches => ?_
  · exact ⟨⟨h.settle hrel.grown hrel.pending, h'.settle hrel.grown' hrel.pending'⟩,
      Headless.Onward.refl workshop.device workshop'.device⟩
  · have hsites : Site.Paired setup ⟨w.device, w.events⟩ ⟨w'.device, w'.events⟩ :=
      ⟨hfrom.1.fresh, hfrom.2.fresh, hfrom.1.named, hfrom.2.named⟩
    refine Bond.beside_onPart (Building.beside_program desired hsites hmatches)
      fun site site' hrel hgoes => ?_
    exact ⟨⟨hfrom.1.leave hrel.fresh hrel.named, hfrom.2.leave hrel.fresh' hrel.named'⟩, hgoes⟩

end Compiling

/-! ## Calls to a cache -/

/-- Programs that differ only in their names, or the same error. -/
def Program.Same {σ : Type} :
    EStateM.Result ShaderError σ Program → EStateM.Result ShaderError σ Program → Prop
  | .ok program _, .ok program' _ => program = { program' with name := program.name }
  | .error error _, .error error' _ => error = error'
  | _, _ => False

lemma Program.Same.succeeds_eq {σ : Type} {r r' : EStateM.Result ShaderError σ Program}
    (h : Program.Same r r') : Outcome.succeeds r = Outcome.succeeds r' := by
  cases r with
  | ok program s =>
      cases r' with
      | ok program' s' => rfl
      | error error' s' => exact h.elim
  | error error s =>
      cases r' with
      | ok program' s' => exact h.elim
      | error error' s' => rfl

/-- A call to a cache. -/
inductive CacheCall where
  | retrieve (key : ProgramKey)
  | evict (key : ProgramKey)
  | clear

/-- The cache after a call, whether it succeeds or fails. -/
def CacheCall.run {σ : Type} [Device σ] (setting : Setting) (state : CachedWorkshop σ) :
    CacheCall → CachedWorkshop σ
  | retrieve key => Outcome.state (ProgramCache.retrieve setting key state)
  | evict key => (ProgramCache.evict key state).2
  | clear => ProgramCache.clear state

namespace CachedWorkshop

variable {setting : Setting} {base : Registry} {setup : Headless} {state : CachedWorkshop Headless}

/-- An empty cache with a base registry and a new device. -/
def start (base : Registry) (setup : Headless) : CachedWorkshop Headless where
  workshop := { device := setup.fresh, registry := base }

/-- The cache after calls. -/
def after (setting : Setting) (base : Registry) (setup : Headless) (calls : List CacheCall) :
    CachedWorkshop Headless :=
  calls.foldl (CacheCall.run setting) (start base setup)

/-- **What every call keeps:** every entry is what a compile at the start would give. -/
structure Sound (setting : Setting) (base : Registry) (setup : Headless)
    (state : CachedWorkshop Headless) : Prop where
  workshop : state.workshop.From base setting.catalogue setup
  entries : ∀ entry ∈ state.cache.entries, ∃ program later,
    compile setting entry.1.stages entry.1.desired (start base setup).workshop =
        .ok program later ∧ entry.2 = { program with name := entry.2.name }

lemma from_start (hclosed : base.Closed) (hpending : base.pending = []) :
    (start base setup).workshop.From base setting.catalogue setup :=
  ⟨Registry.Grown.refl hclosed, hpending, rfl, Headless.named_fresh setup⟩

lemma sound_start (hclosed : base.Closed) (hpending : base.pending = []) :
    (start base setup).Sound setting base setup :=
  ⟨from_start hclosed hpending, fun _ hentry => absurd hentry List.not_mem_nil⟩

end CachedWorkshop

namespace ProgramCache

variable {setting : Setting} {base : Registry} {setup : Headless} {state : CachedWorkshop Headless}
  {key : ProgramKey}

lemma mem_of_get? {cache : ProgramCache} {program : Program} (h : cache.get? key = some program) :
    (key, program) ∈ cache.entries := by
  obtain ⟨⟨other, found⟩, hfind, rfl⟩ := Option.map_eq_some_iff.1 h
  have hkey : other = key := by simpa using List.find?_some hfind
  rw [← hkey]
  exact List.mem_of_find?_eq_some hfind

lemma retrieve_of_ok {program : Program} {workshop : Workshop Headless}
    (hget : state.cache.get? key = none)
    (h : compile setting key.stages key.desired state.workshop = .ok program workshop) :
    retrieve setting key state = .ok program
      { cache := { entries := state.cache.entries ++ [(key, program)]
                   compileCount := state.cache.compileCount + 1 }
        workshop } := by
  rw [retrieve, hget]
  dsimp only
  rw [h]

lemma retrieve_of_error {error : ShaderError} {workshop : Workshop Headless}
    (hget : state.cache.get? key = none)
    (h : compile setting key.stages key.desired state.workshop = .error error workshop) :
    retrieve setting key state = .error error
      { cache := { state.cache with compileCount := state.cache.compileCount + 1 }, workshop } := by
  rw [retrieve, hget]
  dsimp only
  rw [h]

/-- A program that is in the cache is given out as it would be compiled at the start. -/
lemma retrieve_hit (h : state.Sound setting base setup) {program : Program}
    (hget : state.cache.get? key = some program) :
    Program.Same (retrieve setting key state) (retrieve setting key (.start base setup)) ∧
      (Outcome.state (retrieve setting key state)).workshop.device = state.workshop.device ∧
      (Outcome.state (retrieve setting key state)).Sound setting base setup := by
  obtain ⟨compiled, later, hcompiled, hprogram⟩ := h.entries _ (mem_of_get? hget)
  rw [retrieve_of_ok rfl hcompiled, retrieve, hget]
  exact ⟨hprogram, rfl, ⟨h.workshop.grown, h.workshop.pending, h.workshop.fresh, h.workshop.named⟩,
    h.entries⟩

lemma from_delete {workshop : Workshop Headless} (program : Program)
    (h : workshop.From base setting.catalogue setup) :
    (delete workshop program).From base setting.catalogue setup := by
  have hkeeps : Headless.Keeps workshop.device
      (workshop.device.answer (.deleteProgram program.name)).2 := Headless.keeps_answer _
  exact ⟨h.grown, h.pending, hkeeps.fresh.trans h.fresh, hkeeps.named h.named⟩

lemma sound_evict (h : state.Sound setting base setup) :
    (evict key state).2.Sound setting base setup := by
  rw [evict]
  cases state.cache.get? key with
  | none => exact h
  | some program =>
      exact ⟨from_delete program h.workshop, fun entry hentry =>
        h.entries entry (List.mem_of_mem_filter hentry)⟩

lemma sound_clear (h : state.Sound setting base setup) :
    (clear state).Sound setting base setup := by
  refine ⟨?_, fun _ hentry => absurd hentry List.not_mem_nil⟩
  have hdeleted : ∀ (programs : List Program) (workshop : Workshop Headless),
      workshop.From base setting.catalogue setup →
      (programs.foldl delete workshop).From base setting.catalogue setup := by
    intro programs
    induction programs with
    | nil => exact fun _ => id
    | cons program programs ih => exact fun workshop hfrom => ih _ (from_delete program hfrom)
  exact hdeleted _ _ h.workshop

section Setup

variable (hclosed : base.Closed) (hpending : base.pending = [])
  (hvoid : base.key? .void ≠ none ∨ setting.catalogue.shape .void = .plain)
  (htasks : setting.resolver.SelfContained base)
include hclosed hpending hvoid htasks

/-- A program that is not in the cache is compiled as at the start, from the same sources. -/
lemma retrieve_miss (h : state.Sound setting base setup) (hget : state.cache.get? key = none) :
    Program.Same (retrieve setting key state) (retrieve setting key (.start base setup)) ∧
      (Outcome.state (retrieve setting key state)).workshop.device.sources =
        state.workshop.device.sources ++
          (Outcome.state (retrieve setting key (.start base setup))).workshop.device.sources ∧
      (Outcome.state (retrieve setting key state)).Sound setting base setup := by
  have hbeside := Compiling.beside_compile key.stages key.desired hvoid htasks
    (CachedWorkshop.from_start hclosed hpending) h.workshop
  rw [Bond.Beside] at hbeside
  cases hcompiled : compile setting key.stages key.desired
      (CachedWorkshop.start base setup).workshop with
  | error error later =>
      cases hcompiled' : compile setting key.stages key.desired state.workshop with
      | ok program' later' =>
          rw [hcompiled, hcompiled'] at hbeside
          exact hbeside.elim
      | error error' later' =>
          rw [hcompiled, hcompiled'] at hbeside
          obtain ⟨rfl, hfrom, texts, htexts, htexts'⟩ := hbeside
          rw [retrieve_of_error rfl hcompiled, retrieve_of_error hget hcompiled']
          obtain rfl : later.device.sources = texts := htexts
          exact ⟨rfl, htexts', hfrom.2, h.entries⟩
  | ok program later =>
      cases hcompiled' : compile setting key.stages key.desired state.workshop with
      | error error' later' =>
          rw [hcompiled, hcompiled'] at hbeside
          exact hbeside.elim
      | ok program' later' =>
          rw [hcompiled, hcompiled'] at hbeside
          obtain ⟨hfrom, ⟨texts, htexts, htexts'⟩, hprogram⟩ := hbeside
          rw [retrieve_of_ok rfl hcompiled, retrieve_of_ok hget hcompiled']
          obtain rfl : later.device.sources = texts := htexts
          refine ⟨hprogram, htexts', hfrom.2, fun entry hentry => ?_⟩
          rcases List.mem_append.1 hentry with hentry | hentry
          · exact h.entries entry hentry
          · rw [List.mem_singleton.1 hentry]
            exact ⟨program, later, hcompiled, hprogram⟩

/-- Every call keeps a sound cache sound. -/
lemma sound_run (h : state.Sound setting base setup) (call : CacheCall) :
    (call.run setting state).Sound setting base setup := by
  cases call with
  | retrieve key =>
      cases hget : state.cache.get? key with
      | none => exact (retrieve_miss hclosed hpending hvoid htasks h hget).2.2
      | some program => exact (retrieve_hit h hget).2.2
  | evict key => exact sound_evict h
  | clear => exact sound_clear h

lemma sound_after (setup : Headless) (calls : List CacheCall) :
    (CachedWorkshop.after setting base setup calls).Sound setting base setup := by
  suffices hrun : ∀ state : CachedWorkshop Headless, state.Sound setting base setup →
      (calls.foldl (CacheCall.run setting) state).Sound setting base setup from
    hrun _ (CachedWorkshop.sound_start hclosed hpending)
  induction calls with
  | nil => exact fun _ => id
  | cons call calls ih =>
      exact fun state h => ih _ (sound_run hclosed hpending hvoid htasks h call)

end Setup

/-- **The cache is transparent.**  After any calls, whether they succeeded or failed, retrieving a
program gives what it would give at the start: the same error, or the same program up to its name.
If it compiles, the device gets the same sources, and otherwise none. -/
theorem retrieve_transparent (setting : Setting) (base : Registry) (setup : Headless)
    (hclosed : base.Closed) (hpending : base.pending = [])
    (hvoid : base.key? .void ≠ none ∨ setting.catalogue.shape .void = .plain)
    (htasks : setting.resolver.SelfContained base)
    (calls : List CacheCall) (key : ProgramKey) :
    Program.Same (retrieve setting key (.after setting base setup calls))
        (retrieve setting key (.start base setup)) ∧
      (Outcome.state
          (retrieve setting key (.after setting base setup calls))).workshop.device.sources =
        (CachedWorkshop.after setting base setup calls).workshop.device.sources ++
          if ((CachedWorkshop.after setting base setup calls).cache.get? key).isSome then []
          else (Outcome.state
            (retrieve setting key (.start base setup))).workshop.device.sources := by
  have hsound := sound_after hclosed hpending hvoid htasks setup calls
  cases hget : (CachedWorkshop.after setting base setup calls).cache.get? key with
  | none =>
      obtain ⟨hsame, hsources, -⟩ := retrieve_miss hclosed hpending hvoid htasks hsound hget
      exact ⟨hsame, by simpa using hsources⟩
  | some program =>
      obtain ⟨hsame, hdevice, -⟩ := retrieve_hit hsound hget
      exact ⟨hsame, by simp [hdevice]⟩

/-- A light: where it is and how bright. -/
def light : HostType := .declared "Light" 32 16

/-- Writes down what lights are called.  Lights are not among its properties, but it reports them. -/
def honest : Task :=
  { Task.remark "shade" (.ofList [⟨"spot", .vec4⟩]) (.ofList [⟨"color", .vec4⟩])
      (.ofList [⟨"l", light⟩]) false with
    collectTypes := fun types => types.insert light }

/-- One task makes a spot, one shades with it and writes down what lights are called, and one needs a
lamp from outside, which nothing can bring. -/
def lighting : TaskCollection :=
  ((TaskCollection.empty.register
    (.call "aim" { outputs := .ofList [⟨"spot", .vec4⟩] }) [.compute]).register
    honest [.compute]).register
    (.call "shine" { inputs := .ofList [⟨"lamp", light⟩], outputs := .ofList [⟨"glow", .vec4⟩] })
      [.compute]

def lightingSetting : Setting where
  catalogue := ⟨[(light, .fields [⟨"place", .vec4⟩, ⟨"power", .float⟩])]⟩
  vertexLayout := {}
  resolver := lighting.resolver
  options := {}

/-- The compute program that yields a property. -/
def yielding (name : String) : ProgramKey :=
  .compute { aliases := .empty, outputs := .ofList [⟨name, .vec4⟩], dispatch := {} }

lemma selfContained_honest : honest.SelfContained .ofBasics := by
  refine Task.selfContained_remark ?_ ?_
  · intro types type htype
    exact TypeSet.mem_insert.2 (Or.inl htype)
  · intro p hp
    obtain rfl := List.mem_singleton.1 hp
    exact Or.inl fun types => TypeSet.mem_insert.2 (Or.inr rfl)

lemma selfContained_lighting : lightingSetting.resolver.SelfContained .ofBasics := by
  apply TaskCollection.selfContained_register [.compute]
  · apply TaskCollection.selfContained_register [.compute]
    · apply TaskCollection.selfContained_register [.compute]
      · exact TaskCollection.selfContained_empty
      · exact Or.inl (.call "aim" _)
    · exact Or.inr selfContained_honest
  · exact Or.inl (.call "shine" _)

/-- The first call fails and leaves the type of lights registered; the others make a program and
drop it. -/
def lightingCalls : List CacheCall :=
  [.retrieve (yielding "glow"), .retrieve (yielding "color"), .evict (yielding "color")]

theorem retrieve_transparent_lighting :
    Outcome.succeeds (retrieve lightingSetting (yielding "color") (.start .ofBasics {})) = true ∧
      Program.Same
        (retrieve lightingSetting (yielding "color")
          (.after lightingSetting .ofBasics {} lightingCalls))
        (retrieve lightingSetting (yielding "color") (.start .ofBasics {})) ∧
      (Outcome.state (retrieve lightingSetting (yielding "color")
          (.after lightingSetting .ofBasics {} lightingCalls))).workshop.device.sources =
        (CachedWorkshop.after lightingSetting .ofBasics {} lightingCalls).workshop.device.sources ++
          if ((CachedWorkshop.after lightingSetting .ofBasics {} lightingCalls).cache.get?
            (yielding "color")).isSome then []
          else (Outcome.state (retrieve lightingSetting (yielding "color")
            (.start .ofBasics {}))).workshop.device.sources :=
  ⟨by decide +kernel, retrieve_transparent lightingSetting .ofBasics {} Registry.closed_ofBasics rfl
    (Or.inl (by decide)) selfContained_lighting lightingCalls (yielding "color")⟩

/-- A task that writes down what lights are called, and uses none. -/
def tagging : TaskCollection :=
  (TaskCollection.empty.register
    (.remark "tag" .empty (.ofList [⟨"color", .vec4⟩]) (.ofList [⟨"l", light⟩]) false)
      [.compute]).register
    (.call "shine" { inputs := .ofList [⟨"lamp", light⟩], outputs := .ofList [⟨"glow", .vec4⟩] })
      [.compute]

def taggingSetting : Setting := { lightingSetting with resolver := tagging.resolver }

/-- At the start nothing has a name for lights, so the program with the tag cannot be written.
After a call that failed, but left lights registered, it can. -/
theorem not_forall_transparent : ¬ ∀ (setting : Setting) (base : Registry) (setup : Headless)
    (calls : List CacheCall) (key : ProgramKey), base.Closed → base.pending = [] →
    (base.key? .void ≠ none ∨ setting.catalogue.shape .void = .plain) →
    Program.Same (retrieve setting key (.after setting base setup calls))
      (retrieve setting key (.start base setup)) := by
  intro hsame
  have h := (hsame taggingSetting .ofBasics {} [.retrieve (yielding "glow")] (yielding "color")
    Registry.closed_ofBasics rfl (Or.inl (by decide))).succeeds_eq
  exact absurd h (by decide +kernel)

end ProgramCache

end ShaderWeave
