import ShaderWeave.Proofs.Delivery

/-!
# Which variables can be written

A task writes the properties that it outputs or filters, and its code names the variables that storage
chose for them.  Inputs, uniforms and members of uniform blocks cannot be written; samplers and storage
blocks stand for what is behind them, so a property is changed there where it is bound.

* `Place` — the kinds of variables, and which of them can be written.
* `StageStorage.place?` — the place of a property, as the lists of a storage tell it;
  `StageStorage.placeMark?_eq_map` — the marks follow from the places.
* `StageStorage.isWritable_place_of_changed` — **what a task writes is put where it can be written, if
  no task uses it up without another one writing it.**  What tasks only use up stays where it came in.
* `StageStorage.not_forall_isWritable_place` — so a task that filters it may write a uniform.
-/

namespace ShaderWeave

/-- The kinds of variables that hold a property while the tasks run. -/
inductive Place where
  /-- A variable of `main`. -/
  | inner
  /-- A variable that is handed on. -/
  | output
  /-- A copy in `main` of what a task changes. -/
  | copy
  /-- A vertex component, or what the stage before handed on. -/
  | input
  | resource (cls : StorageClass)
deriving DecidableEq, Repr

namespace Place

/-- The place can be written. -/
def isWritable : Place → Bool
  | inner | output | copy | resource .sampler | resource .storageBlock => true
  | input | resource .uniform | resource .uniformBlock => false

def mark (storage : StageStorage) (plan : StagePlan) : Place → String
  | inner => Mark.inner
  | output | copy => plan.request.outMark
  | input => storage.inMark
  | resource cls => cls.mark

end Place

namespace StageStorage

variable {setting : Setting} {plan : StagePlan} {storage : StageStorage} {name : String}

/-- The place where a property comes in. -/
def entryPlace? (storage : StageStorage) (name : String) : Option Place :=
  if storage.inputs.contains name then some .input
  else ([StorageClass.uniform, .sampler, .uniformBlock, .storageBlock].find? fun cls =>
    (storage.list cls).contains name).map .resource

/-- **The place of a property while the tasks run.** -/
def place? (storage : StageStorage) (plan : StagePlan) (name : String) : Option Place :=
  if storage.inner.contains name then some .inner
  else if storage.innerCopies.contains name then some .copy
  else if storage.outputs.contains name && !plan.pipeline.pipethrough.contains name then
    some .output
  else storage.entryPlace? name

lemma entryMark?_eq_map (storage : StageStorage) (plan : StagePlan) (name : String) :
    storage.entryMark? name = (storage.entryPlace? name).map (Place.mark storage plan) := by
  unfold entryMark? entryPlace?
  split_ifs with hinputs huniforms hsamplers hblocks hbuffers
  · rfl
  all_goals simp [list, Place.mark, StorageClass.mark, *]

lemma placeMark?_eq_map (storage : StageStorage) (plan : StagePlan) (name : String) :
    storage.placeMark? plan name = (storage.place? plan name).map (Place.mark storage plan) := by
  unfold placeMark? place?
  rw [entryMark?_eq_map storage plan]
  cases storage.inner.contains name with
  | true => rfl
  | false =>
      cases storage.innerCopies.contains name with
      | true => rfl
      | false =>
          cases storage.outputs.contains name && !plan.pipeline.pipethrough.contains name with
          | true => rfl
          | false => rfl

/-! ## Where a property is found -/

/-- What a stage makes itself can be written, and all else is where it came in. -/
lemma place?_cases (storage : StageStorage) (plan : StagePlan) (name : String) :
    (∃ place, storage.place? plan name = some place ∧ place.isWritable = true) ∨
      storage.place? plan name = storage.entryPlace? name := by
  unfold place?
  split_ifs
  · exact Or.inl ⟨_, rfl, rfl⟩
  · exact Or.inl ⟨_, rfl, rfl⟩
  · exact Or.inl ⟨_, rfl, rfl⟩
  · exact Or.inr rfl

lemma exists_writable_of_made (h : name ∈ storage.inner.names ∨ name ∈ storage.innerCopies.names ∨
      name ∈ storage.outputs.names ∧ name ∉ plan.pipeline.pipethrough.names) :
    ∃ place, storage.place? plan name = some place ∧ place.isWritable = true := by
  unfold place?
  simp only [Bool.and_eq_true, Bool.not_eq_true', ← Bool.not_eq_true, PropertyList.contains_iff]
  split_ifs with hinner hcopy hout
  · exact ⟨_, rfl, rfl⟩
  · exact ⟨_, rfl, rfl⟩
  · exact ⟨_, rfl, rfl⟩
  · rcases h with h | h | h
    exacts [absurd h hinner, absurd h hcopy, absurd h hout]

lemma place?_eq_entryPlace? (hinner : name ∉ storage.inner.names)
    (hcopy : name ∉ storage.innerCopies.names) (hout : name ∉ storage.outputs.names) :
    storage.place? plan name = storage.entryPlace? name := by
  simp [place?, PropertyList.contains, hinner, hcopy, hout]

lemma input_or_resource {place : Place} (h : storage.entryPlace? name = some place) :
    place = .input ∨ ∃ cls, place = .resource cls := by
  unfold entryPlace? at h
  split_ifs at h
  · exact Or.inl (Option.some.inj h).symm
  · obtain ⟨cls, -, rfl⟩ := Option.map_eq_some_iff.1 h
    exact Or.inr ⟨cls, rfl⟩

/-- A property that comes through one class, and not as an input, is found in that class. -/
lemma entryPlace?_of_mem (cls : StorageClass) (hinputs : name ∉ storage.inputs.names)
    (hname : name ∈ (storage.list cls).names)
    (honly : ∀ cls', name ∈ (storage.list cls').names → cls' = cls) :
    storage.entryPlace? name = some (.resource cls) := by
  have hcontains : ∀ cls', (storage.list cls').contains name = decide (cls' = cls) := by
    intro cls'
    rw [Bool.eq_iff_iff, PropertyList.contains_iff, decide_eq_true_eq]
    exact ⟨honly cls', fun heq => heq ▸ hname⟩
  simp only [entryPlace?, hcontains, PropertyList.contains_iff, hinputs, if_false]
  cases cls <;> rfl

/-! ## What tasks change -/

section Changed

variable {collection : TaskCollection} {found : Pipeline} {previous : Option Handover} {last : Bool}
  {takes : String → Bool} {program : ProgramStorage} {sources : List Property}

lemma Sorted.writable_of_held (h : storage.Sorted takes program sources) (hapart : program.Apart)
    (hheld : storage.Held name) :
    ∃ place, storage.place? plan name = some place ∧ place.isWritable = true := by
  rcases place?_cases storage plan name with hwritable | hplace
  · exact hwritable
  · rw [hplace]
    rcases hheld with hname | hname
    · obtain ⟨hinputs, honly⟩ := h.only hapart .sampler hname
      exact ⟨_, entryPlace?_of_mem .sampler hinputs hname honly, rfl⟩
    · obtain ⟨hinputs, honly⟩ := h.only hapart .storageBlock hname
      exact ⟨_, entryPlace?_of_mem .storageBlock hinputs hname honly, rfl⟩

/-- Results have variables of their own, and what is changed is copied or held where it is bound. -/
lemma Fits.writable_of_changed (h : storage.Fits previous plan)
    (hfound : plan.Resolved collection found) (hdelivered : storage.Delivered plan last)
    (hsorted : storage.Sorted takes program sources) (hapart : program.Apart)
    (hcarries : plan.pipeline.Carries name)
    (hchanged : plan.Touched .filters name ∨ plan.Touched .writes name)
    (hkept : plan.Touched .consumes name → plan.Touched .writes name) :
    ∃ place, storage.place? plan name = some place ∧ place.isWritable = true := by
  have hclash := hfound.disjoint
  by_cases hwritten : plan.Touched .writes name
  · rcases hfound.output_or_inner hwritten with hname | hname
    · refine exists_writable_of_made (Or.inr (Or.inr ⟨h.outputs name ?_, ?_⟩))
      · exact hclash.mem_solidNames .output hname hcarries
      · exact hclash.not_mem .output .pipethrough (by decide) hname
    · exact exists_writable_of_made
        (Or.inl (h.inner name (hclash.mem_solidNames .inner hname hcarries)))
  -- If no task writes it, none uses it up either, which leaves the one class that is copied.
  · have hname : name ∈ plan.pipeline.filter.names := by
      refine (hfound.mem_class_iff (by decide : PropertyClass.filter ≠ .input)).2 ⟨?_, ?_, ?_⟩
      · exact fun htouched => hwritten (hfound.touched_iff.1 htouched)
      · exact fun htouched => hwritten (hkept (hfound.touched_iff.1 htouched))
      · exact hfound.touched_iff.2 (hchanged.resolve_right hwritten)
    rcases hdelivered.filtered name (hclash.mem_solidNames .filter hname hcarries) with
      hheld | ⟨-, hout⟩ | ⟨-, hcopy⟩
    · exact hsorted.writable_of_held hapart hheld
    · exact exists_writable_of_made
        (Or.inr (Or.inr ⟨hout, hclash.not_mem .filter .pipethrough (by decide) hname⟩))
    · exact exists_writable_of_made (Or.inr (Or.inl hcopy))

/-- What tasks use up, and none writes, stays where it came in. -/
lemma Fits.place?_of_consumed (h : storage.Fits previous plan)
    (hfound : plan.Resolved collection found) (hconsumed : plan.Touched .consumes name)
    (hwritten : ¬ plan.Touched .writes name) :
    storage.place? plan name = storage.entryPlace? name := by
  refine place?_eq_entryPlace? ?_ ?_ ?_
  · intro hname
    exact hwritten
      (hfound.written_of_inner (PropertyList.solidNames_subset _ (h.laid.inner name hname)))
  · intro hname
    exact hfound.not_consumed
      (Or.inl (PropertyList.solidNames_subset _ (h.laid.innerCopies name hname))) hconsumed
  · intro hname
    exact hwritten ((h.kept_of_output hfound hname).2 hconsumed)

end Changed

/-- **What a task writes can be written, unless it is used up.**  In every program that can be drafted
from a collection, a property that a task filters or outputs carries data, if it is no token and the
stage was told of no token under its name.  If it carries data, the stage has a variable for it.  That
variable can be written if no task uses the property up without another one writing it; if tasks only
use it up, it is an input or a resource. -/
theorem isWritable_place_of_changed (collection : TaskCollection) (setting : Setting)
    (hresolver : setting.resolver = collection.resolver) (info : DeviceInfo)
    (requests : List StageRequest) (desired : PropertyList) {draft draft' : Draft}
    {made : Blueprint}
    (h : Drafting.blueprint setting info requests desired draft = .ok made draft')
    {i : Nat} {plan : StagePlan} {storage : StageStorage} {source : StageSource}
    (hat : made.At i plan storage source) {task : Task} (htask : task ∈ plan.tasks)
    {property : Property}
    (hproperty : property ∈ task.lists.filters.entries ∨ property ∈ task.lists.outputs.entries)
    (hsolid : property.isVoid = false) :
    let own := plan.request.aliases.choice property.name
    ((∀ spec ∈ plan.specs, plan.request.aliases.choice spec.name = own → spec.isVoid = false) →
      plan.pipeline.Carries own) ∧
    (plan.pipeline.Carries own → ∃ place, storage.place? plan own = some place ∧
      storage.renames.get? own = some (place.mark storage plan ++ own) ∧
      ((plan.Touched .consumes own → plan.Touched .writes own) → place.isWritable = true) ∧
      (plan.Touched .consumes own → ¬ plan.Touched .writes own →
        place = .input ∨ ∃ cls, place = .resource cls)) := by
  intro own
  obtain ⟨start, planned, assigned, hparts⟩ := Drafting.parts_of_blueprint h
  obtain ⟨⟨found, hfound⟩, -⟩ := hparts.resolved hresolver hat.plan
  have hfits := hparts.fits hat.plan hat.storage
  have hfinished := Drafting.finished_of_parts hparts
  have htouch : ∀ access, property ∈ (task.lists.under access).entries →
      plan.Touched access own := by
    intro access hmem
    exact ⟨task, htask, property, hmem, rfl⟩
  have hchanged : plan.Touched .filters own ∨ plan.Touched .writes own :=
    hproperty.imp (htouch .filters) (htouch .writes)
  have hspec : property ∈ plan.specs :=
    hproperty.elim (StagePlan.mem_specs_of_task .filters htask)
      (StagePlan.mem_specs_of_task .writes htask)
  refine ⟨hfound.carries_of_solid hspec hsolid, ?_⟩
  intro hcarries
  obtain ⟨mark, hmark⟩ := hfits.exists_mark hfound.disjoint hcarries
  obtain ⟨place, hplace, rfl⟩ :=
    Option.map_eq_some_iff.1 ((placeMark?_eq_map storage plan own).symm.trans hmark)
  refine ⟨place, hplace, ?_, ?_, ?_⟩
  · rw [hfits.laid.named, hmark, Option.map_some]
  · intro hkept
    obtain ⟨place', hplace', hwritable⟩ := hfits.writable_of_changed hfound
      (delivered_of_parts hparts hat.plan hat.storage) (hfinished.sorted hat.plan hat.storage)
      hfinished.apart hcarries hchanged hkept
    rw [hplace] at hplace'
    exact Option.some.inj hplace' ▸ hwritable
  · intro hconsumed hwritten
    rw [hfits.place?_of_consumed hfound hconsumed hwritten] at hplace
    exact input_or_resource hplace

/-- Of three properties that a task filters, one is asked for, one is a texture and one is neither. -/
theorem isWritable_place_of_changed_painted :
    let setting := painter
      { filters := .ofList [⟨"tone", .vec4⟩, ⟨"cover", .texture⟩, ⟨"haze", .float⟩]
        outputs := .ofList [⟨"color", .vec4⟩] }
    ∃ made draft', Drafting.blueprint setting .ideal [.fragment .empty]
        (.ofList [⟨"color", .vec4⟩, ⟨"tone", .vec4⟩]) { registry := .ofBasics } = .ok made draft' ∧
      ∃ plan storage source, made.At 0 plan storage source ∧
        storage.place? plan "tone" = some .output ∧
        storage.place? plan "cover" = some (.resource .sampler) ∧
        storage.place? plan "haze" = some .copy ∧
        ∃ place, storage.place? plan "haze" = some place ∧
          storage.renames.get? "haze" = some (place.mark storage plan ++ "haze") ∧
          place.isWritable = true := by
  intro setting
  have htest : Outcome.passes (Blueprint.stageTest 0 fun plan storage _ =>
        decide (storage.place? plan "tone" = some .output ∧
          storage.place? plan "cover" = some (.resource .sampler) ∧
          storage.place? plan "haze" = some .copy ∧
          plan.request.aliases.choice "haze" = "haze" ∧
          (∀ spec ∈ plan.specs, spec.isVoid = false) ∧ ¬ plan.Touched .consumes "haze" ∧
          ∃ task ∈ plan.tasks, (⟨"haze", .float⟩ : Property) ∈ task.lists.filters.entries))
      (Drafting.blueprint setting .ideal [.fragment .empty]
        (.ofList [⟨"color", .vec4⟩, ⟨"tone", .vec4⟩]) { registry := .ofBasics }) = true := by
    decide +kernel
  obtain ⟨made, draft', hmade, htest⟩ := Outcome.exists_of_passes htest
  obtain ⟨plan, storage, source, hat, htest⟩ := Blueprint.exists_of_stageTest htest
  obtain ⟨htone, hcover, hhaze, hown, htokens, hconsumed, task, htask, hfilters⟩ :=
    of_decide_eq_true htest
  obtain ⟨hcarries, hplaced⟩ := isWritable_place_of_changed _ setting rfl .ideal _ _ hmade hat htask
    (Or.inl hfilters) rfl
  rw [hown] at hcarries hplaced
  obtain ⟨place, hplace, hname, hwritable, -⟩ :=
    hplaced (hcarries fun spec hspec _ => htokens spec hspec)
  exact ⟨made, draft', hmade, plan, storage, source, hat, htone, hcover, hhaze, place, hplace, hname,
    hwritable fun htouched => absurd htouched hconsumed⟩

/-- One task uses a height up, and another one changes it. -/
def landscape : Setting where
  catalogue := .empty
  vertexLayout := {}
  resolver := ((TaskCollection.empty.register (.call "erode"
      { consuming := .ofList [⟨"height", .vec4⟩]
        outputs := .ofList [⟨"color", .vec4⟩] }) [.compute]).register (.call "raise"
      { filters := .ofList [⟨"height", .vec4⟩]
        outputs := .ofList [⟨"bright", .vec4⟩] }) [.compute]).resolver
  options := {}

/-- **A task may write a uniform.**  A height that one task uses up and another one changes is not
copied; the program compiles, and the code of the second task names the uniform. -/
theorem not_forall_isWritable_place :
    let workshop : Workshop Headless := ⟨{}, .ofBasics, [], []⟩
    let desired := PropertyList.ofList [⟨"color", .vec4⟩, ⟨"bright", .vec4⟩]
    (∃ program workshop', compile landscape [.compute .empty {}] desired workshop
      = .ok program workshop') ∧
    ∃ made draft', Drafting.blueprint landscape .ideal [.compute .empty {}] desired workshop.draft
        = .ok made draft' ∧
      (∃ source ∈ made.sources,
        .task "raise(uniform_height, comp_bright);" ∈ source.body) ∧
      ¬ ∀ i plan storage source, made.At i plan storage source → ∀ task ∈ plan.tasks, ∀ property,
        property ∈ task.lists.filters.entries ∨ property ∈ task.lists.outputs.entries →
          property.isVoid = false →
            ∃ place, storage.place? plan (plan.request.aliases.choice property.name) = some place ∧
              place.isWritable = true := by
  intro workshop desired
  have hcompiles : Outcome.succeeds (compile landscape [.compute .empty {}] desired workshop)
      = true := by decide +kernel
  have htest : Outcome.passes (Blueprint.stageTest 0 fun plan storage source =>
        decide (.task "raise(uniform_height, comp_bright);" ∈ source.body ∧
          storage.place? plan (plan.request.aliases.choice "height")
            = some (.resource .uniform) ∧
          ∃ task ∈ plan.tasks, (⟨"height", .vec4⟩ : Property) ∈ task.lists.filters.entries))
      (Drafting.blueprint landscape .ideal [.compute .empty {}] desired workshop.draft)
        = true := by decide +kernel
  refine ⟨Outcome.exists_of_succeeds hcompiles, ?_⟩
  obtain ⟨made, draft', hmade, htest⟩ := Outcome.exists_of_passes htest
  obtain ⟨plan, storage, source, hat, htest⟩ := Blueprint.exists_of_stageTest htest
  obtain ⟨hcode, hplace, task, htask, hfilters⟩ := of_decide_eq_true htest
  refine ⟨made, draft', hmade, ⟨source, List.mem_of_getElem? hat.source, hcode⟩, ?_⟩
  intro hall
  obtain ⟨place, hplace', hwritable⟩ :=
    hall 0 plan storage source hat task htask _ (Or.inl hfilters) rfl
  rw [hplace] at hplace'
  obtain rfl := Option.some.inj hplace'
  cases hwritable

end StageStorage

end ShaderWeave
