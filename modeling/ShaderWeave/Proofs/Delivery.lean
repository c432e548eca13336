import ShaderWeave.Device.Headless
import ShaderWeave.Program.Compile
import ShaderWeave.Proofs.Declarations

/-!
# What a stage hands on

A stage is asked for properties, and its storage says what it hands on.  Between the two stands the
class of each property: results of tasks are handed on, changed properties are copied first, and so is
what is only handed through where nothing else delivers it.  **A property that tasks use up is not
handed on,** whether it is asked for or not.

* `StageStorage.Delivered` — what the loops of an assignment hand on, class by class.
* `Declaration.handedOn?` — what a source tells of it; `Drafting.Finished.declares_handed_iff` — a
  source declares exactly the outputs of its storage.
* `StageStorage.output_or_held_of_desired` — a desired property that carries data and is not used up is
  an output of the last stage, or held where it is bound, and none that is used up is an output.
* `StageStorage.not_forall_output_or_held` — so a program need not yield what it was asked for.
-/

namespace ShaderWeave

/-- What the declaration of a variable that is handed on tells: its type and its name. -/
def Declaration.handedOn? : Declaration → Option (String × String)
  | .output _ type name => some (type, name)
  | .target _ type name => some (type, name)
  | .global type name => some (type, name)
  | _ => none

lemma Draft.handedOn?_handed (draft : Draft) (plan : StagePlan) (property : Property) :
    (draft.handed plan property).handedOn?
      = some ((draft.registry.typeFor property.type).valueName,
          plan.request.outMark ++ property.name) := by
  unfold Draft.handed
  cases plan.request.stage with
  | vertex => rfl
  | fragment => rfl
  | compute => rfl

/-- **A stage declares exactly its outputs as handed on,** each with the type of its property. -/
lemma Drafting.Finished.declares_handed_iff {setting : Setting} {made : Blueprint} {final : Draft}
    {i : Nat} {plan : StagePlan} {storage : StageStorage} {source : StageSource}
    (h : Finished setting made final) (hat : made.At i plan storage source)
    {declaration : Declaration} {type holder : String} :
    declaration ∈ source.declarations ∧ declaration.handedOn? = some (type, holder) ↔
      ∃ p ∈ storage.outputs.entries, declaration = final.handed plan p ∧
        type = (final.registry.typeFor p.type).valueName ∧
        holder = plan.request.outMark ++ p.name := by
  rw [h.declared hat]
  constructor
  · rintro ⟨hmem, htold⟩
    rcases final.mem_declared.1 hmem with hstruct | ⟨cls, p, -, rfl⟩ | ⟨p, -, rfl⟩ | ⟨p, hp, rfl⟩
    · obtain ⟨_, _, rfl⟩ := Registry.struct_of_mem_structs hstruct
      cases htold
    · cases cls <;> cases htold
    · unfold Draft.taken at htold
      split at htold <;> cases htold
    · rw [Draft.handedOn?_handed] at htold
      cases htold
      exact ⟨p, hp, rfl, rfl, rfl⟩
  · rintro ⟨p, hp, rfl, rfl, rfl⟩
    exact ⟨final.mem_declared.2 (Or.inr (Or.inr (Or.inr ⟨p, hp, rfl⟩))),
      final.handedOn?_handed plan p⟩

lemma Drafting.Finished.output_iff {setting : Setting} {made : Blueprint} {final : Draft} {i : Nat}
    {plan : StagePlan} {storage : StageStorage} {source : StageSource} {name : String}
    (h : Finished setting made final) (hat : made.At i plan storage source) :
    name ∈ storage.outputs.names ↔ ∃ declaration ∈ source.declarations, ∃ type,
      declaration.handedOn? = some (type, plan.request.outMark ++ name) := by
  constructor
  · intro hname
    obtain ⟨p, hp, rfl⟩ := PropertyList.mem_names.1 hname
    obtain ⟨hmem, htold⟩ := (h.declares_handed_iff hat).2 ⟨p, hp, rfl, rfl, rfl⟩
    exact ⟨_, hmem, _, htold⟩
  · rintro ⟨declaration, hmem, type, htold⟩
    obtain ⟨p, hp, -, -, heq⟩ := (h.declares_handed_iff hat).1 ⟨hmem, htold⟩
    rw [String.append_right_inj] at heq
    exact heq ▸ PropertyList.name_mem_names hp

lemma StageRequest.mem_desired {request : StageRequest} {wanted : PropertyList}
    {property : Property} (h : property ∈ wanted.entries) :
    property ∈ (request.desired wanted).entries := by
  unfold StageRequest.desired
  split
  · rcases PropertyList.entries_insert wanted ⟨request.aliases.choice vertexPosition, .vec4⟩ with
      heq | heq
    · exact heq ▸ h
    · exact heq ▸ List.mem_append_left _ h
  · exact h

namespace StageStorage

variable {setting : Setting} {plan : StagePlan} {last : Bool} {storage storage' : StageStorage}
  {draft draft' : Draft} {name : String}

/-- The property is changed where it is bound. -/
def Held (storage : StageStorage) (name : String) : Prop :=
  name ∈ storage.samplers.names ∨ name ∈ storage.storageBlocks.names

instance (storage : StageStorage) (name : String) : Decidable (storage.Held name) :=
  inferInstanceAs (Decidable (name ∈ storage.samplers.names ∨ name ∈ storage.storageBlocks.names))

lemma Continues.held_iff (h : Continues storage storage') : storage'.Held name ↔ storage.Held name := by
  have hsamplers : storage'.samplers = storage.samplers := h.list .sampler
  have hblocks : storage'.storageBlocks = storage.storageBlocks := h.list .storageBlock
  rw [Held, Held, hsamplers, hblocks]

/-- **What an assignment hands on:** changed properties that are not held where they are bound, copies
of what is handed through, and results.  Nothing else is handed on. -/
structure Delivered (plan : StagePlan) (last : Bool) (storage : StageStorage) : Prop where
  filtered : ∀ name ∈ plan.pipeline.filter.solidNames, storage.Held name ∨
    name ∈ plan.desiredNames ∧ name ∈ storage.outputs.names ∨
    name ∉ plan.desiredNames ∧ name ∈ storage.innerCopies.names
  through : ∀ name ∈ plan.pipeline.pipethrough.solidNames,
    name ∈ storage.inputs.names ∨ last = true ∧ name ∈ plan.desiredNames →
      name ∈ storage.outputs.names
  entries : ∀ p ∈ storage.outputs.entries, p ∈ plan.pipeline.filter.solid ∨
    p ∈ plan.pipeline.pipethrough.solid ∨ p ∈ plan.pipeline.output.solid

/-! ## The loops -/

/-- The loop over the changed properties copies those that are not held where they are bound. -/
lemma delivered_filters
    (h : plan.pipeline.filter.solid.foldlM (Drafting.assignFilter setting plan) storage draft
      = .ok storage' draft') :
    ∀ name ∈ plan.pipeline.filter.solidNames, storage'.Held name ∨
      name ∈ plan.desiredNames ∧ name ∈ storage'.outputs.names ∨
      name ∉ plan.desiredNames ∧ name ∈ storage'.innerCopies.names := by
  refine (Outcome.steps_of_foldlM_state h).invariant
    (P := fun done storage => ∀ name ∈ done.map Property.name, storage.Held name ∨
      name ∈ plan.desiredNames ∧ name ∈ storage.outputs.names ∨
      name ∉ plan.desiredNames ∧ name ∈ storage.innerCopies.names) ?_ (by simp)
  rintro done property current current' - hdone ⟨before, after, hok⟩ name hname
  rcases mem_names_concat.1 hname with hname | rfl
  · have hcontinues := Continues.of_filter hok
    rcases hdone name hname with hheld | ⟨hdesired, hmem⟩ | ⟨hdesired, hmem⟩
    · exact Or.inl (hcontinues.held_iff.2 hheld)
    · exact Or.inr (Or.inl ⟨hdesired, hcontinues.outputs hmem⟩)
    · exact Or.inr (Or.inr ⟨hdesired, hcontinues.innerCopies hmem⟩)
  · rcases assignFilter_cases hok with ⟨hheld, rfl⟩ | ⟨-, hdesired, rfl⟩ | ⟨-, hdesired, rfl⟩
    · exact Or.inl hheld
    · exact Or.inr (Or.inl ⟨hdesired, PropertyList.mem_names_insert.2 (Or.inr rfl)⟩)
    · exact Or.inr (Or.inr ⟨hdesired, PropertyList.mem_names_insert.2 (Or.inr rfl)⟩)

/-- The loop over what is handed through copies what is needed. -/
lemma delivered_through
    (h : plan.pipeline.pipethrough.solid.foldlM (Drafting.assignThrough setting plan last) storage
      draft = .ok storage' draft') :
    ∀ name ∈ plan.pipeline.pipethrough.solidNames,
      name ∈ storage'.inputs.names ∨ last = true ∧ name ∈ plan.desiredNames →
        name ∈ storage'.outputs.names := by
  refine (Outcome.steps_of_foldlM_state h).invariant
    (P := fun done storage => ∀ name ∈ done.map Property.name,
      name ∈ storage.inputs.names ∨ last = true ∧ name ∈ plan.desiredNames →
        name ∈ storage.outputs.names) ?_ (by simp)
  rintro done property current current' - hdone ⟨before, after, hok⟩ name hname hneeded
  rcases mem_names_concat.1 hname with hname | rfl
  · have hcontinues := Continues.of_through hok
    rw [hcontinues.inputs] at hneeded
    exact hcontinues.outputs (hdone name hname hneeded)
  · rcases assignThrough_cases hok with ⟨hnot, rfl⟩ | ⟨-, rfl⟩
    · exact absurd hneeded hnot
    · exact PropertyList.mem_names_insert.2 (Or.inr rfl)

/-- A loop puts into a list only what it runs over. -/
lemma entries_of_foldlM {step : StageStorage → Property → Drafting StageStorage}
    {properties : List Property} (list : StageStorage → List Property)
    (hstep : ∀ {s p d s' d'}, step s p d = .ok s' d' → ∀ q ∈ list s', q ∈ list s ∨ q = p)
    (h : properties.foldlM step storage draft = .ok storage' draft') :
    ∀ q ∈ list storage', q ∈ list storage ∨ q ∈ properties := by
  refine (Outcome.steps_of_foldlM_state h).invariant
    (P := fun done s => ∀ q ∈ list s, q ∈ list storage ∨ q ∈ done) ?_ (fun q => Or.inl)
  rintro done property current current' - hdone ⟨before, after, hok⟩ q hq
  rw [List.mem_append, List.mem_singleton]
  rcases hstep hok q hq with hq | rfl
  · exact (hdone q hq).imp_right Or.inl
  · exact Or.inr (Or.inr rfl)

/-- A loop leaves alone what its steps leave alone. -/
lemma same_of_foldlM {β : Type} {step : StageStorage → Property → Drafting StageStorage}
    {properties : List Property} (part : StageStorage → β)
    (hstep : ∀ {s p d s' d'}, step s p d = .ok s' d' → part s' = part s)
    (h : properties.foldlM step storage draft = .ok storage' draft') :
    part storage' = part storage := by
  refine (Outcome.steps_of_foldlM_state h).invariant (P := fun _ s => part s = part storage) ?_ rfl
  rintro done property current current' - hsame ⟨before, after, hok⟩
  exact (hstep hok).trans hsame

lemma entries_of_filters
    (h : plan.pipeline.filter.solid.foldlM (Drafting.assignFilter setting plan) storage draft
      = .ok storage' draft') :
    ∀ q ∈ storage'.outputs.entries,
      q ∈ storage.outputs.entries ∨ q ∈ plan.pipeline.filter.solid := by
  refine entries_of_foldlM (·.outputs.entries) (fun hok q hq => ?_) h
  rcases assignFilter_cases hok with ⟨-, rfl⟩ | ⟨-, -, rfl⟩ | ⟨-, -, rfl⟩
  · exact Or.inl hq
  · exact PropertyList.mem_entries_of_insert hq
  · exact Or.inl hq

lemma entries_of_through
    (h : plan.pipeline.pipethrough.solid.foldlM (Drafting.assignThrough setting plan last) storage
      draft = .ok storage' draft') :
    ∀ q ∈ storage'.outputs.entries,
      q ∈ storage.outputs.entries ∨ q ∈ plan.pipeline.pipethrough.solid := by
  refine entries_of_foldlM (·.outputs.entries) (fun hok q hq => ?_) h
  rcases assignThrough_cases hok with ⟨-, rfl⟩ | ⟨-, rfl⟩
  · exact Or.inl hq
  · exact PropertyList.mem_entries_of_insert hq

lemma entries_of_outputs
    (h : plan.pipeline.output.solid.foldlM (Drafting.assignOutput setting plan) storage draft
      = .ok storage' draft') :
    ∀ q ∈ storage'.outputs.entries,
      q ∈ storage.outputs.entries ∨ q ∈ plan.pipeline.output.solid := by
  refine entries_of_foldlM (·.outputs.entries) (fun hok q hq => ?_) h
  obtain rfl := assignOutput_eq hok
  exact PropertyList.mem_entries_of_insert hq

/-- An assignment delivers. -/
lemma delivered_of_assignStage {previous : Option Handover} (hdisjoint : plan.pipeline.Disjoint)
    (h : Drafting.assignStage setting plan previous last draft = .ok storage draft') :
    storage.Delivered plan last := by
  obtain ⟨s₁, d₁, s₂, d₂, s₃, d₃, s₄, d₄, s₅, d₅, types, hsources, hfilters, hthroughs, houtputs,
    hinners, rfl, -⟩ := loops_of_assignStage h
  have hthrough := Continues.of_foldlM Continues.of_through hthroughs
  have houtput := Continues.of_foldlM Continues.of_output houtputs
  have hinner := Continues.of_foldlM Continues.of_inner hinners
  have hafter := houtput.trans hinner
  -- Each loop is looked at where it ran; the loops after it keep what it handed on.
  have hsame : s₅.outputs = s₄.outputs :=
    same_of_foldlM (·.outputs) (fun hok => by obtain rfl := assignInner_eq hok; rfl) hinners
  refine ⟨?_, ?_, ?_⟩
  · intro name hname
    rcases delivered_filters hfilters name hname with hheld | ⟨hdesired, hmem⟩ | ⟨hdesired, hmem⟩
    · exact Or.inl ((hthrough.trans hafter).held_iff.2 hheld)
    · exact Or.inr (Or.inl ⟨hdesired, (hthrough.trans hafter).outputs hmem⟩)
    · exact Or.inr (Or.inr ⟨hdesired, (hthrough.trans hafter).innerCopies hmem⟩)
  · intro name hname hneeded
    refine hafter.outputs (delivered_through hthroughs name hname ?_)
    rwa [← hafter.inputs]
  · have hentered := entered_of_sources hdisjoint.nodup_sourceNames hsources
    intro p hp
    rcases entries_of_outputs houtputs p (hsame ▸ hp) with hp | hp
    · rcases entries_of_through hthroughs p hp with hp | hp
      · rcases entries_of_filters hfilters p hp with hp | hp
        · rw [hentered.outputs] at hp
          exact absurd hp List.not_mem_nil
        · exact Or.inl hp
      · exact Or.inr (Or.inl hp)
    · exact Or.inr (Or.inr hp)

/-- Every storage of a blueprint delivers. -/
lemma delivered_of_parts {requests : List StageRequest} {desired : PropertyList} {made : Blueprint}
    {start planned assigned final : Draft} {i : Nat}
    (h : Drafting.Parts setting requests desired made start planned assigned final)
    (hplan : made.plans[i]? = some plan) (hstorage : made.storages[i]? = some storage) :
    storage.Delivered plan (decide (i + 1 = made.plans.length)) := by
  obtain ⟨before, after, hassign⟩ := Drafting.assigned_at h.assign hplan hstorage
  exact delivered_of_assignStage (h.disjoint plan (List.mem_of_getElem? hplan)) hassign

/-! ## Desired properties -/

section Desired

variable {collection : TaskCollection} {found : Pipeline} {previous : Option Handover}
  {property : Property}

/-- What is handed on carries data, and no task uses it up unless another one writes it. -/
lemma Fits.kept_of_output (h : storage.Fits previous plan) (hfound : plan.Resolved collection found)
    (hout : name ∈ storage.outputs.names) :
    plan.pipeline.Carries name ∧ (plan.Touched .consumes name → plan.Touched .writes name) := by
  rcases h.laid.outputs name hout with hname | hname | hname
  · refine ⟨⟨.filter, hname⟩, fun hconsumed => absurd hconsumed ?_⟩
    exact hfound.not_consumed (Or.inl (PropertyList.solidNames_subset _ hname))
  · refine ⟨⟨.pipethrough, hname⟩, fun hconsumed => absurd hconsumed ?_⟩
    exact hfound.not_consumed (Or.inr (PropertyList.solidNames_subset _ hname))
  · exact ⟨⟨.output, hname⟩, fun _ =>
      hfound.written_of_output (PropertyList.solidNames_subset _ hname)⟩

/-- Whatever class a desired property is in, the last stage hands it on or holds it where it is bound,
unless it is a token or tasks use it up. -/
lemma Fits.output_or_held (h : storage.Fits previous plan) (hfound : plan.Resolved collection found)
    (hdelivered : storage.Delivered plan true) (hdesired : property ∈ plan.desired.entries)
    (hown : plan.request.aliases.choice property.name = name) (hcarries : plan.pipeline.Carries name)
    (hkept : plan.Touched .consumes name → plan.Touched .writes name) :
    name ∈ storage.outputs.names ∨ storage.Held name := by
  subst hown
  have hwanted : TaskCollection.Desired plan.request.aliases plan.desired _ :=
    ⟨property, hdesired, rfl⟩
  have hlisted : plan.request.aliases.choice property.name ∈ plan.desiredNames :=
    List.mem_map_of_mem (PropertyList.name_mem_names hdesired)
  obtain ⟨cls, hcls⟩ := hfound.exists_class (List.mem_append_left _ hdesired)
  have hbelongs := (TaskCollection.mem_class_iff hfound.resolved cls _).1 hcls
  have hsolid := hfound.disjoint.mem_solidNames cls (hfound.widened.names_subset cls hcls) hcarries
  cases cls with
  | output => exact Or.inl (h.outputs _ hsolid)
  | inner => exact absurd hwanted hbelongs.2
  | input => exact absurd hwanted hbelongs.2.2.2.1
  | consuming =>
      -- No loop hands this class on.
      exact absurd (hfound.touched_iff.2 (hkept (hfound.touched_iff.1 hbelongs.2))) hbelongs.1
  | filter =>
      rcases hdelivered.filtered _ hsolid with hheld | ⟨-, hout⟩ | ⟨hnot, -⟩
      · exact Or.inr hheld
      · exact Or.inl hout
      · exact absurd hlisted hnot
  | pipethrough => exact Or.inl (hdelivered.through _ hsolid (Or.inr ⟨rfl, hlisted⟩))

end Desired

/-- **A desired property is there unless tasks use it up.**  In every program that can be drafted from
a collection, a property that was asked for carries data, if it is no token and the last stage was told
of no token under its name.  The outputs of that stage are what its source declares as handed on.  If
the property carries data, and no task uses it up without another one writing it, it is among them, or
a sampler or a storage block of the stage holds it; if tasks only use it up, it is not among them. -/
theorem output_or_held_of_desired (collection : TaskCollection) (setting : Setting)
    (hresolver : setting.resolver = collection.resolver) (info : DeviceInfo)
    (requests : List StageRequest) (desired : PropertyList) {draft draft' : Draft}
    {made : Blueprint}
    (h : Drafting.blueprint setting info requests desired draft = .ok made draft')
    {i : Nat} {plan : StagePlan} {storage : StageStorage} {source : StageSource}
    (hat : made.At i plan storage source) (hlast : i + 1 = made.plans.length)
    {property : Property} (hproperty : property ∈ desired.entries)
    (hsolid : property.isVoid = false) :
    let own := plan.request.aliases.choice property.name
    (own ∈ storage.outputs.names ↔ ∃ declaration ∈ source.declarations, ∃ type,
      declaration.handedOn? = some (type, plan.request.outMark ++ own)) ∧
    ((∀ spec ∈ plan.specs, plan.request.aliases.choice spec.name = own → spec.isVoid = false) →
      plan.pipeline.Carries own) ∧
    (plan.pipeline.Carries own → (plan.Touched .consumes own → plan.Touched .writes own) →
      own ∈ storage.outputs.names ∨ storage.Held own) ∧
    (own ∈ storage.outputs.names →
      plan.pipeline.Carries own ∧ (plan.Touched .consumes own → plan.Touched .writes own)) := by
  intro own
  obtain ⟨start, planned, assigned, hparts⟩ := Drafting.parts_of_blueprint h
  obtain ⟨⟨found, hfound⟩, hasked⟩ := hparts.resolved hresolver hat.plan
  have hfits := hparts.fits hat.plan hat.storage
  have hdelivered := delivered_of_parts hparts hat.plan hat.storage
  rw [decide_eq_true hlast] at hdelivered
  have hyield : Drafting.yieldOf desired made.plans i = desired := by
    rw [Drafting.yieldOf, List.getElem?_eq_none (Nat.le_of_eq hlast.symm)]
    rfl
  have hdesired : property ∈ plan.desired.entries := by
    rw [hasked, hyield]
    exact StageRequest.mem_desired hproperty
  exact ⟨(Drafting.finished_of_parts hparts).output_iff hat,
    hfound.carries_of_solid (List.mem_append_left _ hdesired) hsolid,
    hfits.output_or_held hfound hdelivered hdesired rfl, hfits.kept_of_output hfound⟩

/-- A setting with one task of the fragment stage. -/
def painter (lists : TaskLists) : Setting where
  catalogue := .empty
  vertexLayout := {}
  resolver := (TaskCollection.empty.register (.call "paint" lists) [.fragment]).resolver
  options := {}

/-- A result, a changed property, a changed texture and a property that no task touches, which has an
alias: the texture is held by its sampler, the others are outputs. -/
theorem output_or_held_of_desired_painted :
    let setting := painter { filters := .ofList [⟨"tone", .vec4⟩, ⟨"cover", .texture⟩]
                             outputs := .ofList [⟨"color", .vec4⟩] }
    let desired := PropertyList.ofList
      [⟨"color", .vec4⟩, ⟨"tone", .vec4⟩, ⟨"cover", .texture⟩, ⟨"spare", .vec4⟩]
    ∃ made draft', Drafting.blueprint setting .ideal [.fragment (.ofList [("spare", "rest")])]
        desired { registry := .ofBasics } = .ok made draft' ∧
      ∃ plan storage source, made.At 0 plan storage source ∧ 0 + 1 = made.plans.length ∧
        storage.samplers.names = ["cover"] ∧ storage.outputs.names = ["tone", "rest", "color"] ∧
        ((∀ spec ∈ plan.specs, plan.request.aliases.choice spec.name = "rest" →
          spec.isVoid = false) → plan.pipeline.Carries "rest") ∧
        ∃ declaration ∈ source.declarations, ∃ type,
          declaration.handedOn? = some (type, "frag_rest") := by
  intro setting desired
  have htest : Outcome.passes (fun made : Blueprint =>
        decide (0 + 1 = made.plans.length) && made.stageTest 0 fun plan storage _ =>
          decide (storage.samplers.names = ["cover"] ∧
            storage.outputs.names = ["tone", "rest", "color"] ∧
            plan.request.aliases.choice "spare" = "rest" ∧ plan.request.outMark = "frag_"))
      (Drafting.blueprint setting .ideal [.fragment (.ofList [("spare", "rest")])] desired
        { registry := .ofBasics }) = true := by decide +kernel
  obtain ⟨made, draft', hmade, htest⟩ := Outcome.exists_of_passes htest
  rw [Bool.and_eq_true, decide_eq_true_eq] at htest
  obtain ⟨hlast, htest⟩ := htest
  obtain ⟨plan, storage, source, hat, htest⟩ := Blueprint.exists_of_stageTest htest
  obtain ⟨hsamplers, houtputs, hown, hmark⟩ := of_decide_eq_true htest
  have hspare : (⟨"spare", .vec4⟩ : Property) ∈ desired.entries := by decide
  obtain ⟨hdeclared, htokens, -, -⟩ := output_or_held_of_desired _ setting rfl .ideal _ desired
    hmade hat hlast hspare rfl
  rw [hown] at hdeclared htokens
  rw [hmark, houtputs] at hdeclared
  exact ⟨made, draft', hmade, plan, storage, source, hat, hlast, hsamplers, houtputs, htokens,
    hdeclared.1 (by simp)⟩

/-- **A program need not yield what it was asked for.**  A height is asked for, and a task uses it up;
the program compiles and names the height among its outputs, but no stage hands it on or holds it. -/
theorem not_forall_output_or_held :
    let setting := painter { consuming := .ofList [⟨"height", .vec4⟩]
                             outputs := .ofList [⟨"color", .vec4⟩] }
    let workshop : Workshop Headless := ⟨{}, .ofBasics, [], []⟩
    let desired := PropertyList.ofList [⟨"color", .vec4⟩, ⟨"height", .vec4⟩]
    (∃ program workshop', compile setting [.fragment .empty] desired workshop
        = .ok program workshop' ∧ program.outputs.names = ["color", "height"]) ∧
    ∃ made draft', Drafting.blueprint setting .ideal [.fragment .empty] desired workshop.draft
        = .ok made draft' ∧
      ¬ ∀ i plan storage source, made.At i plan storage source → i + 1 = made.plans.length →
        ∀ property ∈ desired.entries, property.isVoid = false →
          plan.request.aliases.choice property.name ∈ storage.outputs.names ∨
            storage.Held (plan.request.aliases.choice property.name) := by
  intro setting workshop desired
  have hcompiles : Outcome.passes
      (fun program : Program => decide (program.outputs.names = ["color", "height"]))
      (compile setting [.fragment .empty] desired workshop) = true := by decide +kernel
  have htest : Outcome.passes (fun made : Blueprint =>
        decide (0 + 1 = made.plans.length) && made.stageTest 0 fun plan storage _ =>
          decide (plan.request.aliases.choice "height" ∉ storage.outputs.names ∧
            ¬ storage.Held (plan.request.aliases.choice "height")))
      (Drafting.blueprint setting .ideal [.fragment .empty] desired workshop.draft) = true := by
    decide +kernel
  obtain ⟨program, workshop', hprogram, hnames⟩ := Outcome.exists_of_passes hcompiles
  refine ⟨⟨program, workshop', hprogram, of_decide_eq_true hnames⟩, ?_⟩
  obtain ⟨made, draft', hmade, htest⟩ := Outcome.exists_of_passes htest
  rw [Bool.and_eq_true, decide_eq_true_eq] at htest
  obtain ⟨hlast, htest⟩ := htest
  obtain ⟨plan, storage, source, hat, htest⟩ := Blueprint.exists_of_stageTest htest
  obtain ⟨hout, hheld⟩ := of_decide_eq_true htest
  have hheight : (⟨"height", .vec4⟩ : Property) ∈ desired.entries := by decide
  refine ⟨made, draft', hmade, ?_⟩
  intro hall
  exact (hall 0 plan storage source hat hlast _ hheight rfl).elim hout hheld

end StageStorage

end ShaderWeave
