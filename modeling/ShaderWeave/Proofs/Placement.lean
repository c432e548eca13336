import ShaderWeave.Proofs.Effects
import ShaderWeave.Proofs.Plan

/-!
# Where storage puts a property

Storage is assigned in five loops over the classes of a plan, which insert into the lists and the
renames of one `StageStorage`.  **The lists alone tell where a property was put, and the renames
agree with them.**

* `StageStorage.entryMark?` — the mark of the variable through which a property comes in.
* `StageStorage.placeMark?` — the mark of the variable that holds a property while the tasks run.
* `StageStorage.Named` — the renames send each name to its mark and itself, and no other name
  anywhere; every step of every loop keeps this.
* `StageStorage.Fits` — what a finished storage has to do with its plan;
  `StageStorage.fits_of_assignStage` gets it from a successful assignment.
-/

namespace ShaderWeave

/-- The names of the properties that carry data. -/
def PropertyList.solidNames (list : PropertyList) : List String := list.solid.map Property.name

lemma PropertyList.solidNames_subset (list : PropertyList) : list.solidNames ⊆ list.names := by
  intro name hname
  obtain ⟨p, hp, rfl⟩ := List.mem_map.1 hname
  exact PropertyList.name_mem_names (PropertyList.mem_solid.1 hp).1

/-! Loops over properties: the names that are done, and the one that comes next. -/

lemma mem_names_concat {done : List Property} {property : Property} {name : String} :
    name ∈ (done ++ [property]).map Property.name ↔
      name ∈ done.map Property.name ∨ name = property.name := by
  rw [List.map_append, List.map_singleton, List.mem_append, List.mem_singleton]

lemma name_not_mem_done {properties done : List Property} {property : Property}
    (hnodup : (properties.map Property.name).Nodup) (hfront : done ++ [property] <+: properties) :
    property.name ∉ done.map Property.name := by
  have hsub := (hfront.map Property.name).sublist.nodup hnodup
  rw [List.map_append, List.map_singleton, List.nodup_append] at hsub
  exact fun hmem => hsub.2.2 _ hmem _ (List.mem_singleton_self _) rfl

/-- Some class holds the name, and its property carries data. -/
def Pipeline.Carries (pipeline : Pipeline) (name : String) : Prop :=
  ∃ cls, name ∈ (pipeline.list cls).solidNames

/-- The name comes from outside, and its property carries data. -/
def Pipeline.Supplied (pipeline : Pipeline) (name : String) : Prop :=
  ∃ cls, cls ≠ .output ∧ cls ≠ .inner ∧ name ∈ (pipeline.list cls).solidNames

lemma Pipeline.Supplied.carries {pipeline : Pipeline} {name : String} (h : pipeline.Supplied name) :
    pipeline.Carries name := by
  obtain ⟨cls, -, -, hname⟩ := h
  exact ⟨cls, hname⟩

/-- Where no name is in two classes, a name carries data exactly if its one property does. -/
lemma Pipeline.Disjoint.carries_iff {pipeline : Pipeline} (h : pipeline.Disjoint)
    {cls : PropertyClass} {property : Property} (hproperty : property ∈ (pipeline.list cls).entries) :
    pipeline.Carries property.name ↔ property.isVoid = false := by
  constructor
  · rintro ⟨cls', hname⟩
    obtain rfl := h (PropertyList.name_mem_names hproperty)
      (PropertyList.solidNames_subset _ hname)
    obtain ⟨other, hother, heq⟩ := List.mem_map.1 hname
    obtain ⟨hmem, hsolid⟩ := PropertyList.mem_solid.1 hother
    rwa [PropertyList.eq_of_name_eq hmem hproperty heq] at hsolid
  · intro hsolid
    exact ⟨cls, List.mem_map.2 ⟨property, PropertyList.mem_solid.2 ⟨hproperty, hsolid⟩, rfl⟩⟩

lemma Pipeline.Disjoint.mem_solidNames {pipeline : Pipeline} (h : pipeline.Disjoint)
    (cls : PropertyClass) {name : String} (hname : name ∈ (pipeline.list cls).names)
    (hcarries : pipeline.Carries name) : name ∈ (pipeline.list cls).solidNames := by
  obtain ⟨cls', hsolid⟩ := hcarries
  rwa [h hname (PropertyList.solidNames_subset _ hsolid)]

/-- A name carries data in its class exactly if it does where the stage was told of it, unless it is a
token in one place and not in another. -/
lemma StagePlan.Resolved.carries_iff {plan : StagePlan} {collection : TaskCollection}
    {found : Pipeline} {property : Property} (h : plan.Resolved collection found)
    (hspec : property ∈ plan.specs)
    (htokens : ∀ spec ∈ plan.specs, plan.request.aliases.choice spec.name
      = plan.request.aliases.choice property.name → spec.isVoid = property.isVoid) :
    plan.pipeline.Carries (plan.request.aliases.choice property.name) ↔
      property.isVoid = false := by
  obtain ⟨cls, hcls⟩ := h.exists_class hspec
  obtain ⟨held, hheld, hname⟩ := PropertyList.mem_names.1 (h.widened.names_subset cls hcls)
  rw [← hname, h.disjoint.carries_iff hheld]
  rcases h.spec_of_mem_class hheld with ⟨spec, hmem, heq⟩ | ⟨-, hnone⟩
  · have hchosen : plan.request.aliases.choice spec.name = held.name := congrArg Property.name heq
    have hvoid : held.isVoid = spec.isVoid := by
      rw [← heq]
      rfl
    rw [hvoid, htokens spec hmem (hchosen.trans hname)]
  · exact absurd hname.symm (hnone property hspec)

/-- A property that is no token carries data, if the stage was told of no token under its name. -/
lemma StagePlan.Resolved.carries_of_solid {plan : StagePlan} {collection : TaskCollection}
    {found : Pipeline} {property : Property} (h : plan.Resolved collection found)
    (hspec : property ∈ plan.specs) (hsolid : property.isVoid = false)
    (htokens : ∀ spec ∈ plan.specs, plan.request.aliases.choice spec.name
      = plan.request.aliases.choice property.name → spec.isVoid = false) :
    plan.pipeline.Carries (plan.request.aliases.choice property.name) := by
  refine (h.carries_iff hspec ?_).2 hsolid
  intro spec hmem heq
  rw [htokens spec hmem heq, hsolid]

/-- The names of the sources, in the order of the loop over them. -/
def Pipeline.sourceNames (pipeline : Pipeline) : List String :=
  (pipeline.sources.flatMap PropertyList.solid).map Property.name

lemma Pipeline.sourceNames_eq (pipeline : Pipeline) :
    pipeline.sourceNames = pipeline.input.solidNames ++ (pipeline.consuming.solidNames ++
      (pipeline.filter.solidNames ++ pipeline.pipethrough.solidNames)) := by
  simp [sourceNames, sources, PropertyList.solidNames]

lemma Pipeline.mem_sourceNames {pipeline : Pipeline} {name : String} :
    name ∈ pipeline.sourceNames ↔ pipeline.Supplied name := by
  simp only [sourceNames_eq, List.mem_append]
  constructor
  · rintro (h | h | h | h)
    exacts [⟨.input, by decide, by decide, h⟩, ⟨.consuming, by decide, by decide, h⟩,
      ⟨.filter, by decide, by decide, h⟩, ⟨.pipethrough, by decide, by decide, h⟩]
  · rintro ⟨cls, houtput, hinner, h⟩
    cases cls with
    | input => exact Or.inl h
    | consuming => exact Or.inr (Or.inl h)
    | filter => exact Or.inr (Or.inr (Or.inl h))
    | pipethrough => exact Or.inr (Or.inr (Or.inr h))
    | output => exact absurd rfl houtput
    | inner => exact absurd rfl hinner

lemma PropertyList.nodup_solidNames (list : PropertyList) : list.solidNames.Nodup :=
  list.nodup.sublist (List.filter_sublist.map Property.name)

/-- No source has a name twice, and no two sources have a name in common. -/
lemma Pipeline.Disjoint.nodup_sourceNames {pipeline : Pipeline} (h : pipeline.Disjoint) :
    pipeline.sourceNames.Nodup := by
  have hapart : ∀ cls cls', cls ≠ cls' → ∀ a ∈ (pipeline.list cls).solidNames,
      ∀ b ∈ (pipeline.list cls').solidNames, a ≠ b := by
    rintro cls cls' hne a ha b hb rfl
    exact h.not_mem cls cls' hne (PropertyList.solidNames_subset _ ha)
      (PropertyList.solidNames_subset _ hb)
  simp only [sourceNames_eq, List.nodup_append, PropertyList.nodup_solidNames, List.mem_append, true_and]
  refine ⟨⟨hapart .filter .pipethrough (by decide), ?_⟩, ?_⟩
  · rintro a ha b (hb | hb)
    · exact hapart .consuming .filter (by decide) a ha b hb
    · exact hapart .consuming .pipethrough (by decide) a ha b hb
  · rintro a ha b (hb | hb | hb)
    · exact hapart .input .consuming (by decide) a ha b hb
    · exact hapart .input .filter (by decide) a ha b hb
    · exact hapart .input .pipethrough (by decide) a ha b hb

namespace StageStorage

variable {plan : StagePlan} {storage storage' : StageStorage} {name mark : String}
  {property : Property}

/-- The mark of the variable through which a property comes into the stage. -/
def entryMark? (storage : StageStorage) (name : String) : Option String :=
  if storage.inputs.contains name then some storage.inMark
  else if storage.uniforms.contains name then some Mark.uniform
  else if storage.samplers.contains name then some Mark.sampler
  else if storage.uniformBlocks.contains name then some Mark.uniformContent
  else if storage.storageBlocks.contains name then some Mark.storageContent
  else none

/-- **The mark of the place where a property was put.**  A property that is only handed through stays
where it came in: tasks read it there, and its copy is for the stage after. -/
def placeMark? (storage : StageStorage) (plan : StagePlan) (name : String) : Option String :=
  if storage.inner.contains name then some Mark.inner
  else if storage.innerCopies.contains name ||
      (storage.outputs.contains name && !plan.pipeline.pipethrough.contains name) then
    some plan.request.outMark
  else storage.entryMark? name

lemma placeMark?_eq (storage : StageStorage) (plan : StagePlan) (name : String) :
    storage.placeMark? plan name =
      if name ∈ storage.inner.names then some Mark.inner
      else if name ∈ storage.innerCopies.names ∨
          name ∈ storage.outputs.names ∧ name ∉ plan.pipeline.pipethrough.names then
        some plan.request.outMark
      else storage.entryMark? name := by
  simp [placeMark?, PropertyList.contains]

/-- The renames agree with the places. -/
def Named (storage : StageStorage) (plan : StagePlan) : Prop :=
  ∀ name, storage.renames.get? name = (storage.placeMark? plan name).map (· ++ name)

/-- A step puts one property behind a mark. -/
structure Puts (plan : StagePlan) (name mark : String) (storage storage' : StageStorage) : Prop where
  renames : storage'.renames = storage.renames.insert name (mark ++ name)
  place : ∀ other, storage'.placeMark? plan other =
    if other = name then some mark else storage.placeMark? plan other

lemma Named.puts (h : storage.Named plan) (hputs : Puts plan name mark storage storage') :
    storage'.Named plan := by
  intro other
  rw [hputs.renames, hputs.place, NameMap.get?_insert]
  by_cases hother : other = name
  · subst hother
    simp
  · simp only [hother, if_false]
    exact h other

/-! ## Coming in -/

/-- A step lets a property in behind a mark. -/
structure Enters (name mark : String) (storage storage' : StageStorage) : Prop where
  renames : storage'.renames = storage.renames.insert name (mark ++ name)
  entry : ∀ other, storage'.entryMark? other =
    if other = name then some mark else storage.entryMark? other
  inMark : storage'.inMark = storage.inMark
  outputs : storage'.outputs = storage.outputs
  inner : storage'.inner = storage.inner
  innerCopies : storage'.innerCopies = storage.innerCopies
  copies : storage'.copies = storage.copies

lemma entryMark?_eq_none : storage.entryMark? name = none ↔
    name ∉ storage.inputs.names ∧ name ∉ storage.uniforms.names ∧ name ∉ storage.samplers.names ∧
      name ∉ storage.uniformBlocks.names ∧ name ∉ storage.storageBlocks.names := by
  simp only [entryMark?, PropertyList.contains_iff]
  split_ifs <;> simp_all

lemma enters_addInput (storage : StageStorage) (property : Property) :
    Enters property.name storage.inMark storage
      ((storage.addInput property).rename property.name (storage.inMark ++ property.name)) where
  renames := rfl
  entry := by
    intro other
    by_cases hother : other = property.name
    · simp [entryMark?, rename, addInput, hother]
    · simp [entryMark?, rename, addInput, hother]
  inMark := rfl
  outputs := rfl
  inner := rfl
  innerCopies := rfl
  copies := rfl

lemma enters_insert (h : storage.entryMark? property.name = none) (cls : StorageClass) :
    Enters property.name cls.mark storage
      ((storage.insert cls property).rename property.name (cls.mark ++ property.name)) := by
  obtain ⟨hinputs, huniforms, hsamplers, hblocks, -⟩ := entryMark?_eq_none.1 h
  refine ⟨by cases cls <;> rfl, ?_, by cases cls <;> rfl, by cases cls <;> rfl,
    by cases cls <;> rfl, by cases cls <;> rfl, by cases cls <;> rfl⟩
  intro other
  by_cases hother : other = property.name
  · subst hother
    cases cls <;>
      simp [entryMark?, rename, insert, StorageClass.mark, hinputs, huniforms, hsamplers, hblocks]
  · cases cls <;> simp [entryMark?, rename, insert, hother]

/-- A property from outside is let in, behind whatever mark. -/
lemma enters_of_assignSource {setting : Setting} {previous : Option Handover} {draft draft' : Draft}
    (hmark : storage.inMark = plan.request.inMark previous)
    (hnew : storage.entryMark? property.name = none)
    (h : Drafting.assignSource setting plan previous storage property draft = .ok storage' draft') :
    ∃ mark, Enters property.name mark storage storage' := by
  unfold Drafting.assignSource at h
  dsimp only at h
  split_ifs at h with hvertex hhanded
  · obtain ⟨-, draft₁, -, h⟩ := Outcome.bind_ok h
    obtain ⟨rfl, -⟩ := Outcome.pure_ok h
    have hstage : plan.request.stage = .vertex := by
      rw [Bool.and_eq_true, decide_eq_true_eq] at hvertex
      exact hvertex.1
    have helement : storage.inMark = Mark.element := by
      simp only [hmark, StageRequest.inMark, hstage]
    exact ⟨storage.inMark, helement ▸ enters_addInput storage property⟩
  · obtain ⟨rfl, -⟩ := Outcome.pure_ok h
    exact ⟨storage.inMark, enters_addInput storage property⟩
  · obtain ⟨cls, draft₁, -, h⟩ := Outcome.bind_ok h
    obtain ⟨rfl, -⟩ := Outcome.pure_ok h
    exact ⟨cls.mark, enters_insert hnew cls⟩

/-- **After the loop over the sources:** what came in has its variable, and nothing else happened. -/
structure Entered (previous : Option Handover) (plan : StagePlan) (names : List String)
    (storage : StageStorage) : Prop where
  inMark : storage.inMark = plan.request.inMark previous
  named : ∀ name, storage.renames.get? name = (storage.entryMark? name).map (· ++ name)
  entry : ∀ name, storage.entryMark? name ≠ none ↔ name ∈ names
  outputs : storage.outputs = .empty
  inner : storage.inner = .empty
  innerCopies : storage.innerCopies = .empty
  copies : storage.copies = []

lemma entered_start (previous : Option Handover) (plan : StagePlan) :
    Entered previous plan [] { inMark := plan.request.inMark previous } where
  inMark := rfl
  named := fun _ => rfl
  entry := by
    intro name
    simp [entryMark?]
  outputs := rfl
  inner := rfl
  innerCopies := rfl
  copies := rfl

lemma Entered.enters {previous : Option Handover} {names : List String}
    (h : Entered previous plan names storage) (henters : Enters name mark storage storage') :
    Entered previous plan (names ++ [name]) storage' where
  inMark := henters.inMark.trans h.inMark
  named := by
    intro other
    rw [henters.renames, henters.entry, NameMap.get?_insert]
    by_cases hother : other = name
    · subst hother
      simp
    · simp only [hother, if_false]
      exact h.named other
  entry := by
    intro other
    rw [henters.entry, List.mem_append, List.mem_singleton, ← h.entry]
    by_cases hother : other = name
    · simp [hother]
    · simp [hother]
  outputs := henters.outputs.trans h.outputs
  inner := henters.inner.trans h.inner
  innerCopies := henters.innerCopies.trans h.innerCopies
  copies := henters.copies.trans h.copies

/-- The loop over the sources.  No name is let in twice, since the sources have no name in common. -/
lemma entered_of_sources {setting : Setting} {previous : Option Handover} {draft draft' : Draft}
    {sources : List Property} (hnodup : (sources.map Property.name).Nodup)
    (h : sources.foldlM (Drafting.assignSource setting plan previous)
      { inMark := plan.request.inMark previous } draft = .ok storage draft') :
    Entered previous plan (sources.map Property.name) storage := by
  refine (Outcome.steps_of_foldlM_state h).invariant
    (P := fun done storage => Entered previous plan (done.map Property.name) storage) ?_
    (entered_start previous plan)
  rintro done property current current' hfront hentered ⟨draft, draft', hok⟩
  have hnew : current.entryMark? property.name = none := by
    by_contra hsome
    exact name_not_mem_done hnodup hfront ((hentered.entry property.name).1 hsome)
  obtain ⟨mark, henters⟩ := enters_of_assignSource hentered.inMark hnew hok
  rw [List.map_append, List.map_singleton]
  exact hentered.enters henters

/-! ## Variables of its own

After the sources the entries stay as they are, and the other four loops give out variables of the
stage itself. -/

/-- A changed property stays where it is bound, or is copied and then handed on or kept. -/
lemma assignFilter_cases {setting : Setting} {draft draft' : Draft}
    (h : Drafting.assignFilter setting plan storage property draft = .ok storage' draft') :
    let target := plan.request.outMark ++ property.name
    let copied := (storage.copy target property.name).rename property.name target
    let bound := property.name ∈ storage.samplers.names ∨ property.name ∈ storage.storageBlocks.names
    bound ∧ storage' = storage ∨
      ¬ bound ∧ property.name ∈ plan.desiredNames ∧ storage' = copied.addOutput property ∨
      ¬ bound ∧ property.name ∉ plan.desiredNames ∧
        storage' = { copied with innerCopies := copied.innerCopies.insert property } := by
  unfold Drafting.assignFilter at h
  simp only [Bool.or_eq_true, PropertyList.contains_iff] at h
  split_ifs at h with hbound hdesired
  · obtain ⟨rfl, -⟩ := Outcome.pure_ok h
    exact Or.inl ⟨hbound, rfl⟩
  · obtain ⟨valued, draft₁, -, h⟩ := Outcome.bind_ok h
    split_ifs at h with hvalued
    · exact absurd h (by rintro ⟨⟩)
    · obtain ⟨rfl, -⟩ := Outcome.pure_ok h
      exact Or.inr (Or.inl ⟨hbound, hdesired, rfl⟩)
  · obtain ⟨valued, draft₁, -, h⟩ := Outcome.bind_ok h
    split_ifs at h with hvalued
    · exact absurd h (by rintro ⟨⟩)
    · obtain ⟨rfl, -⟩ := Outcome.pure_ok h
      exact Or.inr (Or.inr ⟨hbound, hdesired, rfl⟩)

/-- A property that is handed through is copied and handed on, or left alone. -/
lemma assignThrough_cases {setting : Setting} {last : Bool} {draft draft' : Draft}
    (h : Drafting.assignThrough setting plan last storage property draft = .ok storage' draft') :
    let needed := property.name ∈ storage.inputs.names ∨
      last = true ∧ property.name ∈ plan.desiredNames
    ¬ needed ∧ storage' = storage ∨ needed ∧ storage' =
      (storage.copy (plan.request.outMark ++ property.name) property.name).addOutput property := by
  unfold Drafting.assignThrough at h
  dsimp only at h
  have hleft : (!storage.inputs.contains property.name &&
        !(last && decide (property.name ∈ plan.desiredNames))) = true ↔
      ¬ (property.name ∈ storage.inputs.names ∨
        last = true ∧ property.name ∈ plan.desiredNames) := by
    cases last <;> simp [PropertyList.contains]
  simp only [hleft] at h
  split_ifs at h with hneeded
  · obtain ⟨valued, draft₁, -, h⟩ := Outcome.bind_ok h
    split_ifs at h with hvalued
    · exact absurd h (by rintro ⟨⟩)
    · obtain ⟨rfl, -⟩ := Outcome.pure_ok h
      exact Or.inr ⟨hneeded, rfl⟩
  · obtain ⟨rfl, -⟩ := Outcome.pure_ok h
    exact Or.inl ⟨hneeded, rfl⟩

lemma assignOutput_eq {setting : Setting} {draft draft' : Draft}
    (h : Drafting.assignOutput setting plan storage property draft = .ok storage' draft') :
    storage' = (storage.rename property.name (plan.request.outMark ++ property.name)).addOutput
      property := by
  unfold Drafting.assignOutput at h
  obtain ⟨type, draft₁, -, h⟩ := Outcome.bind_ok h
  split_ifs at h with hstorable
  · exact absurd h (by rintro ⟨⟩)
  · obtain ⟨rfl, -⟩ := Outcome.pure_ok h
    rfl

lemma assignInner_eq {setting : Setting} {draft draft' : Draft}
    (h : Drafting.assignInner setting storage property draft = .ok storage' draft') :
    storage' = { storage.rename property.name (Mark.inner ++ property.name) with
      inner := storage.inner.insert property } := by
  unfold Drafting.assignInner at h
  obtain ⟨type, draft₁, -, h⟩ := Outcome.bind_ok h
  dsimp only at h
  split_ifs at h with hstorable
  · exact absurd h (by rintro ⟨⟩)
  · obtain ⟨rfl, -⟩ := Outcome.pure_ok h
    rfl

lemma puts_addOutput (hthrough : property.name ∉ plan.pipeline.pipethrough.names)
    (hinner : property.name ∉ storage.inner.names) :
    Puts plan property.name plan.request.outMark storage
      ((storage.rename property.name (plan.request.outMark ++ property.name)).addOutput property) where
  renames := rfl
  place := by
    intro other
    by_cases hother : other = property.name
    · subst hother
      simp [placeMark?_eq, addOutput, rename, hthrough, hinner]
    · have hentry : ((storage.rename property.name (plan.request.outMark ++ property.name)).addOutput
          property).entryMark? other = storage.entryMark? other := rfl
      rw [placeMark?_eq, placeMark?_eq, hentry]
      simp [addOutput, rename, hother]

lemma puts_innerCopies (hinner : property.name ∉ storage.inner.names) :
    Puts plan property.name plan.request.outMark storage
      { storage.rename property.name (plan.request.outMark ++ property.name) with
        innerCopies := storage.innerCopies.insert property } where
  renames := rfl
  place := by
    intro other
    by_cases hother : other = property.name
    · subst hother
      simp [placeMark?_eq, rename, hinner]
    · have hentry : StageStorage.entryMark?
          { storage.rename property.name (plan.request.outMark ++ property.name) with
            innerCopies := storage.innerCopies.insert property } other = storage.entryMark? other := rfl
      rw [placeMark?_eq, placeMark?_eq, hentry]
      simp [rename, hother]

lemma puts_inner (storage : StageStorage) (plan : StagePlan) (property : Property) :
    Puts plan property.name Mark.inner storage
      { storage.rename property.name (Mark.inner ++ property.name) with
        inner := storage.inner.insert property } where
  renames := rfl
  place := by
    intro other
    by_cases hother : other = property.name
    · subst hother
      simp [placeMark?_eq]
    · have hentry : StageStorage.entryMark?
          { storage.rename property.name (Mark.inner ++ property.name) with
            inner := storage.inner.insert property } other = storage.entryMark? other := rfl
      rw [placeMark?_eq, placeMark?_eq, hentry]
      by_cases hinner : other ∈ storage.inner.names
      · simp [hinner, hother]
      · rw [if_neg hother, if_neg hinner, if_neg (by simp [hinner, hother])]
        rfl

/-- Handing a property through does not change where it was put. -/
lemma placeMark?_addOutput (hthrough : property.name ∈ plan.pipeline.pipethrough.names)
    (other : String) :
    (storage.addOutput property).placeMark? plan other = storage.placeMark? plan other := by
  have hentry : (storage.addOutput property).entryMark? other = storage.entryMark? other := rfl
  rw [placeMark?_eq, placeMark?_eq, hentry]
  by_cases hother : other = property.name
  · subst hother
    simp [addOutput, hthrough]
  · simp [addOutput, hother]

/-! ## What the loops keep -/

/-- A property was copied from where it came in. -/
def Copied (storage : StageStorage) (plan : StagePlan) (name : String) : Prop :=
  ∃ mark, storage.entryMark? name = some mark ∧
    ⟨plan.request.outMark ++ name, mark ++ name⟩ ∈ storage.copies

/-- **What every loop after the sources keeps.**  Each list holds only properties of its classes, and
whatever is handed on without being written by a task was copied from where it came in. -/
structure Laid (previous : Option Handover) (plan : StagePlan) (entered : List String)
    (storage : StageStorage) : Prop where
  inMark : storage.inMark = plan.request.inMark previous
  named : storage.Named plan
  entry : ∀ name, storage.entryMark? name ≠ none ↔ name ∈ entered
  copies : ∀ copy ∈ storage.copies, ∃ name mark, storage.entryMark? name = some mark ∧
    copy = ⟨plan.request.outMark ++ name, mark ++ name⟩
  handed : ∀ name, name ∈ storage.outputs.names ∨ name ∈ storage.innerCopies.names →
    name ∈ plan.pipeline.output.solidNames ∨ storage.Copied plan name
  outputs : ∀ name ∈ storage.outputs.names, name ∈ plan.pipeline.filter.solidNames ∨
    name ∈ plan.pipeline.pipethrough.solidNames ∨ name ∈ plan.pipeline.output.solidNames
  inner : ∀ name ∈ storage.inner.names, name ∈ plan.pipeline.inner.solidNames
  innerCopies : ∀ name ∈ storage.innerCopies.names, name ∈ plan.pipeline.filter.solidNames

namespace Laid

variable {previous : Option Handover} {entered : List String}

lemma of_entered (h : Entered previous plan entered storage) :
    Laid previous plan entered storage where
  inMark := h.inMark
  named := by
    intro name
    rw [h.named, placeMark?_eq, h.inner, h.innerCopies, h.outputs]
    simp
  entry := h.entry
  copies := by
    rw [h.copies]
    simp
  handed := by
    rw [h.outputs, h.innerCopies]
    simp
  outputs := by
    rw [h.outputs]
    simp
  inner := by
    rw [h.inner]
    simp
  innerCopies := by
    rw [h.innerCopies]
    simp

/-- Copying a property from where it came in. -/
lemma copy (h : Laid previous plan entered storage) (hname : name ∈ entered)
    (hplace : storage.placeMark? plan name = storage.entryMark? name) :
    Laid previous plan entered (storage.copy (plan.request.outMark ++ name) name) ∧
      (storage.copy (plan.request.outMark ++ name) name).Copied plan name := by
  obtain ⟨mark, hmark⟩ := Option.ne_none_iff_exists'.1 ((h.entry name).2 hname)
  have hholder : storage.holder name = mark ++ name := by
    rw [holder, h.named, hplace, hmark]
    rfl
  have hcopies : (storage.copy (plan.request.outMark ++ name) name).copies
      = storage.copies ++ [⟨plan.request.outMark ++ name, mark ++ name⟩] := by
    rw [← hholder]
    rfl
  refine ⟨⟨h.inMark, h.named, h.entry, ?_, ?_, h.outputs, h.inner, h.innerCopies⟩, ?_⟩
  · intro copy hcopy
    rw [hcopies, List.mem_append, List.mem_singleton] at hcopy
    rcases hcopy with hcopy | rfl
    · exact h.copies copy hcopy
    · exact ⟨name, mark, hmark, rfl⟩
  · intro other hother
    rcases h.handed other hother with houtput | ⟨mark', hmark', hcopy⟩
    · exact Or.inl houtput
    · exact Or.inr ⟨mark', hmark', hcopies ▸ List.mem_append_left _ hcopy⟩
  · exact ⟨mark, hmark, hcopies ▸ List.mem_append_right _ (List.mem_singleton_self _)⟩

/-- Handing a property on. -/
lemma handOn (h : Laid previous plan entered storage) (renames : NameMap)
    (hnamed : StageStorage.Named
      { storage with renames, outputs := storage.outputs.insert property } plan)
    (hclass : property.name ∈ plan.pipeline.filter.solidNames ∨
      property.name ∈ plan.pipeline.pipethrough.solidNames ∨
        property.name ∈ plan.pipeline.output.solidNames)
    (hhanded : property.name ∈ plan.pipeline.output.solidNames ∨
      storage.Copied plan property.name) :
    Laid previous plan entered
      { storage with renames, outputs := storage.outputs.insert property } where
  inMark := h.inMark
  named := hnamed
  entry := h.entry
  copies := h.copies
  handed := by
    intro name hname
    rw [PropertyList.mem_names_insert] at hname
    rcases hname with (hname | rfl) | hname
    · exact h.handed name (Or.inl hname)
    · exact hhanded
    · exact h.handed name (Or.inr hname)
  outputs := by
    intro name hname
    rcases PropertyList.mem_names_insert.1 hname with hname | rfl
    · exact h.outputs name hname
    · exact hclass
  inner := h.inner
  innerCopies := h.innerCopies

/-- Keeping the copy of a changed property inside the stage. -/
lemma keepCopy (h : Laid previous plan entered storage) (renames : NameMap)
    (hnamed : StageStorage.Named
      { storage with renames, innerCopies := storage.innerCopies.insert property } plan)
    (hclass : property.name ∈ plan.pipeline.filter.solidNames)
    (hcopied : storage.Copied plan property.name) :
    Laid previous plan entered
      { storage with renames, innerCopies := storage.innerCopies.insert property } where
  inMark := h.inMark
  named := hnamed
  entry := h.entry
  copies := h.copies
  handed := by
    intro name hname
    rw [PropertyList.mem_names_insert] at hname
    rcases hname with hname | hname | rfl
    · exact h.handed name (Or.inl hname)
    · exact h.handed name (Or.inr hname)
    · exact Or.inr hcopied
  outputs := h.outputs
  inner := h.inner
  innerCopies := by
    intro name hname
    rcases PropertyList.mem_names_insert.1 hname with hname | rfl
    · exact h.innerCopies name hname
    · exact hclass

/-- Keeping the result of a task inside the stage. -/
lemma keepInner (h : Laid previous plan entered storage)
    (hclass : property.name ∈ plan.pipeline.inner.solidNames) :
    Laid previous plan entered
      { storage.rename property.name (Mark.inner ++ property.name) with
        inner := storage.inner.insert property } where
  inMark := h.inMark
  named := h.named.puts (puts_inner storage plan property)
  entry := h.entry
  copies := h.copies
  handed := h.handed
  outputs := h.outputs
  inner := by
    intro name hname
    rcases PropertyList.mem_names_insert.1 hname with hname | rfl
    · exact h.inner name hname
    · exact hclass
  innerCopies := h.innerCopies

end Laid

/-! ## The four loops -/

section Loops

variable {setting : Setting} {previous : Option Handover} {entered : List String}
  {draft draft' : Draft}

lemma mem_solidNames {list : PropertyList} {done : List Property}
    (hfront : done ++ [property] <+: list.solid) : property.name ∈ list.solidNames :=
  List.mem_map_of_mem (hfront.subset (List.mem_append_right _ (List.mem_singleton_self _)))

/-- The loop over the changed properties.  A property is copied from where it came in, because it was
not put anywhere else before: no name occurs twice in a class. -/
lemma laid_of_filters (hdisjoint : plan.pipeline.Disjoint)
    (hentered : Entered previous plan entered storage)
    (hsources : ∀ name ∈ plan.pipeline.filter.solidNames, name ∈ entered)
    (h : plan.pipeline.filter.solid.foldlM (Drafting.assignFilter setting plan) storage draft
      = .ok storage' draft') :
    Laid previous plan entered storage' ∧ storage'.inner = .empty := by
  suffices hloop : Laid previous plan entered storage' ∧ storage'.inner = .empty ∧
      ∀ name, name ∈ storage'.outputs.names ∨ name ∈ storage'.innerCopies.names →
        name ∈ plan.pipeline.filter.solid.map Property.name from ⟨hloop.1, hloop.2.1⟩
  refine (Outcome.steps_of_foldlM_state h).invariant
    (P := fun done storage => Laid previous plan entered storage ∧ storage.inner = .empty ∧
      ∀ name, name ∈ storage.outputs.names ∨ name ∈ storage.innerCopies.names →
        name ∈ done.map Property.name) ?_
    ⟨Laid.of_entered hentered, hentered.inner, by simp [hentered.outputs, hentered.innerCopies]⟩
  rintro done property current current' hfront ⟨hlaid, hinner, hdone⟩ ⟨draft, draft', hok⟩
  have hclass := mem_solidNames hfront
  have hthrough : property.name ∉ plan.pipeline.pipethrough.names :=
    hdisjoint.not_mem .filter .pipethrough (by decide)
      (PropertyList.solidNames_subset _ hclass)
  have hempty : property.name ∉ current.inner.names := by simp [hinner]
  have hnew : property.name ∉ done.map Property.name :=
    name_not_mem_done (PropertyList.nodup_solidNames plan.pipeline.filter) hfront
  have hplace : current.placeMark? plan property.name = current.entryMark? property.name := by
    rw [placeMark?_eq, if_neg hempty, if_neg]
    rintro (hmem | ⟨hmem, -⟩)
    · exact hnew (hdone _ (Or.inr hmem))
    · exact hnew (hdone _ (Or.inl hmem))
  obtain ⟨hlaid', hcopied⟩ := hlaid.copy (hsources _ hclass) hplace
  rcases assignFilter_cases hok with ⟨-, rfl⟩ | ⟨-, -, rfl⟩ | ⟨-, -, rfl⟩
  · refine ⟨hlaid, hinner, ?_⟩
    intro name hname
    exact mem_names_concat.2 (Or.inl (hdone name hname))
  · refine ⟨hlaid'.handOn _ (hlaid'.named.puts (puts_addOutput hthrough hempty)) (Or.inl hclass)
      (Or.inr hcopied), hinner, ?_⟩
    intro name hname
    simp only [addOutput, rename, PropertyList.mem_names_insert] at hname
    rw [mem_names_concat]
    rcases hname with (hname | hname) | hname
    · exact Or.inl (hdone name (Or.inl hname))
    · exact Or.inr hname
    · exact Or.inl (hdone name (Or.inr hname))
  · refine ⟨hlaid'.keepCopy _ (hlaid'.named.puts (puts_innerCopies hempty)) hclass hcopied,
      hinner, ?_⟩
    intro name hname
    simp only [rename, PropertyList.mem_names_insert] at hname
    rw [mem_names_concat]
    rcases hname with hname | hname | hname
    · exact Or.inl (hdone name (Or.inl hname))
    · exact Or.inl (hdone name (Or.inr hname))
    · exact Or.inr hname

/-- The loop over what is handed through. -/
lemma laid_of_through {last : Bool} (hdisjoint : plan.pipeline.Disjoint)
    (hlaid : Laid previous plan entered storage) (hinner : storage.inner = .empty)
    (hsources : ∀ name ∈ plan.pipeline.pipethrough.solidNames, name ∈ entered)
    (h : plan.pipeline.pipethrough.solid.foldlM (Drafting.assignThrough setting plan last) storage
      draft = .ok storage' draft') :
    Laid previous plan entered storage' ∧ storage'.inner = .empty := by
  refine (Outcome.steps_of_foldlM_state h).invariant
    (P := fun _ storage => Laid previous plan entered storage ∧ storage.inner = .empty) ?_
    ⟨hlaid, hinner⟩
  rintro done property current current' hfront ⟨hlaid, hinner⟩ ⟨draft, draft', hok⟩
  have hclass := mem_solidNames hfront
  have hthrough := PropertyList.solidNames_subset _ hclass
  have hplace : current.placeMark? plan property.name = current.entryMark? property.name := by
    rw [placeMark?_eq, if_neg (by simp [hinner]), if_neg]
    rintro (hmem | ⟨-, hnot⟩)
    · exact hdisjoint.not_mem .pipethrough .filter (by decide) hthrough
        (PropertyList.solidNames_subset _ (hlaid.innerCopies _ hmem))
    · exact hnot hthrough
  obtain ⟨hlaid', hcopied⟩ := hlaid.copy (hsources _ hclass) hplace
  rcases assignThrough_cases hok with ⟨-, rfl⟩ | ⟨-, rfl⟩
  · exact ⟨hlaid, hinner⟩
  · refine ⟨hlaid'.handOn _ ?_ (Or.inr (Or.inl hclass)) (Or.inr hcopied), hinner⟩
    intro name
    exact (hlaid'.named name).trans (by rw [← placeMark?_addOutput hthrough]; rfl)

/-- The loop over the outputs. -/
lemma laid_of_outputs (hdisjoint : plan.pipeline.Disjoint)
    (hlaid : Laid previous plan entered storage) (hinner : storage.inner = .empty)
    (h : plan.pipeline.output.solid.foldlM (Drafting.assignOutput setting plan) storage draft
      = .ok storage' draft') :
    Laid previous plan entered storage' ∧
      ∀ name ∈ plan.pipeline.output.solidNames, name ∈ storage'.outputs.names := by
  suffices hloop : Laid previous plan entered storage' ∧ storage'.inner = .empty ∧
      ∀ name ∈ plan.pipeline.output.solid.map Property.name, name ∈ storage'.outputs.names from
    ⟨hloop.1, hloop.2.2⟩
  refine (Outcome.steps_of_foldlM_state h).invariant
    (P := fun done storage => Laid previous plan entered storage ∧ storage.inner = .empty ∧
      ∀ name ∈ done.map Property.name, name ∈ storage.outputs.names) ?_ ⟨hlaid, hinner, by simp⟩
  rintro done property current current' hfront ⟨hlaid, hinner, hdone⟩ ⟨draft, draft', hok⟩
  have hclass := mem_solidNames hfront
  have hthrough := hdisjoint.not_mem .output .pipethrough (by decide)
    (PropertyList.solidNames_subset _ hclass)
  have hempty : property.name ∉ current.inner.names := by simp [hinner]
  obtain rfl := assignOutput_eq hok
  refine ⟨hlaid.handOn _ (hlaid.named.puts (puts_addOutput hthrough hempty))
    (Or.inr (Or.inr hclass)) (Or.inl hclass), hinner, ?_⟩
  intro name hname
  exact PropertyList.mem_names_insert.2 ((mem_names_concat.1 hname).imp_left (hdone name))

/-- The loop over what stays inside. -/
lemma laid_of_inner (hlaid : Laid previous plan entered storage)
    (h : plan.pipeline.inner.solid.foldlM (Drafting.assignInner setting) storage draft
      = .ok storage' draft') :
    Laid previous plan entered storage' ∧ storage'.outputs = storage.outputs ∧
      ∀ name ∈ plan.pipeline.inner.solidNames, name ∈ storage'.inner.names := by
  refine (Outcome.steps_of_foldlM_state h).invariant
    (P := fun done current => Laid previous plan entered current ∧
      current.outputs = storage.outputs ∧
      ∀ name ∈ done.map Property.name, name ∈ current.inner.names) ?_ ⟨hlaid, rfl, by simp⟩
  rintro done property current current' hfront ⟨hlaid, houtputs, hdone⟩ ⟨draft, draft', hok⟩
  obtain rfl := assignInner_eq hok
  refine ⟨hlaid.keepInner (mem_solidNames hfront), houtputs, ?_⟩
  intro name hname
  exact PropertyList.mem_names_insert.2 ((mem_names_concat.1 hname).imp_left (hdone name))

end Loops

/-! ## The finished storage -/

/-- **An assignment is five loops,** one after the other.  What comes after them only checks the
outputs and orders the types, and what the stages share is decided in the first. -/
lemma loops_of_assignStage {setting : Setting} {previous : Option Handover} {last : Bool}
    {draft draft' : Draft}
    (h : Drafting.assignStage setting plan previous last draft = .ok storage draft') :
    ∃ s₁ d₁ s₂ d₂ s₃ d₃ s₄ d₄ s₅ d₅ types,
      (plan.pipeline.sources.flatMap PropertyList.solid).foldlM
        (Drafting.assignSource setting plan previous) { inMark := plan.request.inMark previous }
        draft = .ok s₁ d₁ ∧
      plan.pipeline.filter.solid.foldlM (Drafting.assignFilter setting plan) s₁ d₁ = .ok s₂ d₂ ∧
      plan.pipeline.pipethrough.solid.foldlM (Drafting.assignThrough setting plan last) s₂ d₂
        = .ok s₃ d₃ ∧
      plan.pipeline.output.solid.foldlM (Drafting.assignOutput setting plan) s₃ d₃ = .ok s₄ d₄ ∧
      plan.pipeline.inner.solid.foldlM (Drafting.assignInner setting) s₄ d₄ = .ok s₅ d₅ ∧
      storage = { s₅ with aliases := .layered [plan.request.aliases] s₅.renames, types } ∧
      draft'.program = d₁.program := by
  unfold Drafting.assignStage at h
  obtain ⟨s₁, d₁, hsources, h⟩ := Outcome.bind_ok h
  obtain ⟨s₂, d₂, hfilters, h⟩ := Outcome.bind_ok h
  obtain ⟨s₃, d₃, hthrough, h⟩ := Outcome.bind_ok h
  obtain ⟨s₄, d₄, houtputs, h⟩ := Outcome.bind_ok h
  obtain ⟨s₅, d₅, hinners, h⟩ := Outcome.bind_ok h
  have hkept : d₅.program = d₁.program := by
    rw [Drafting.Keeps.foldlM (Drafting.keeps_assignInner setting) _ _ _ _ _ hinners,
      Drafting.Keeps.foldlM (Drafting.keeps_assignOutput setting plan) _ _ _ _ _ houtputs,
      Drafting.Keeps.foldlM (fun s p => Drafting.keeps_assignThrough setting plan s p last)
        _ _ _ _ _ hthrough,
      Drafting.Keeps.foldlM (Drafting.keeps_assignFilter setting plan) _ _ _ _ _ hfilters]
  have hrest : ∃ types, storage = { s₅ with
      aliases := .layered [plan.request.aliases] s₅.renames, types } ∧
      draft'.program = d₅.program := by
    split_ifs at h with hcompute
    · obtain ⟨_, d₆, hvarying, h⟩ := Outcome.bind_ok h
      obtain ⟨types, d₇, htypes, h⟩ := Outcome.bind_ok h
      obtain ⟨rfl, rfl⟩ := Outcome.pure_ok h
      refine ⟨types, rfl, ?_⟩
      rw [Drafting.keeps_declarationOrder setting plan s₅ _ _ _ htypes,
        Drafting.Keeps.forM Drafting.keeps_checkVarying _ _ _ _ hvarying]
    · obtain ⟨types, d₆, htypes, h⟩ := Outcome.bind_ok h
      obtain ⟨rfl, rfl⟩ := Outcome.pure_ok h
      exact ⟨types, rfl, Drafting.keeps_declarationOrder setting plan s₅ _ _ _ htypes⟩
  obtain ⟨types, rfl, hprogram⟩ := hrest
  exact ⟨s₁, d₁, s₂, d₂, s₃, d₃, s₄, d₄, s₅, d₅, types, hsources, hfilters, hthrough, houtputs,
    hinners, rfl, hprogram.trans hkept⟩

/-- **A finished storage fits its plan.** -/
structure Fits (previous : Option Handover) (plan : StagePlan) (storage : StageStorage) : Prop where
  laid : Laid previous plan plan.pipeline.sourceNames storage
  outputs : ∀ name ∈ plan.pipeline.output.solidNames, name ∈ storage.outputs.names
  inner : ∀ name ∈ plan.pipeline.inner.solidNames, name ∈ storage.inner.names
  aliases : storage.aliases = .layered [plan.request.aliases] storage.renames

/-- A successful assignment fits its plan. -/
theorem fits_of_assignStage {setting : Setting} {previous : Option Handover} {last : Bool}
    {draft draft' : Draft} (hdisjoint : plan.pipeline.Disjoint)
    (h : Drafting.assignStage setting plan previous last draft = .ok storage draft') :
    Fits previous plan storage := by
  obtain ⟨s₁, d₁, s₂, d₂, s₃, d₃, s₄, d₄, s₅, d₅, types, hsources, hfilters, hthrough, houtputs,
    hinners, rfl, -⟩ := loops_of_assignStage h
  have hentered := entered_of_sources hdisjoint.nodup_sourceNames hsources
  obtain ⟨hlaid₂, hempty₂⟩ := laid_of_filters hdisjoint hentered
    (fun name hname => Pipeline.mem_sourceNames.2 ⟨.filter, by decide, by decide, hname⟩) hfilters
  obtain ⟨hlaid₃, hempty₃⟩ := laid_of_through hdisjoint hlaid₂ hempty₂
    (fun name hname => Pipeline.mem_sourceNames.2 ⟨.pipethrough, by decide, by decide, hname⟩)
    hthrough
  obtain ⟨hlaid₄, hcomplete₄⟩ := laid_of_outputs hdisjoint hlaid₃ hempty₃ houtputs
  obtain ⟨hlaid₅, hsame₅, hcomplete₅⟩ := laid_of_inner hlaid₄ hinners
  refine ⟨⟨hlaid₅.inMark, hlaid₅.named, hlaid₅.entry, hlaid₅.copies, hlaid₅.handed, hlaid₅.outputs,
    hlaid₅.inner, hlaid₅.innerCopies⟩, ?_, hcomplete₅, rfl⟩
  exact fun name hname => hsame₅ ▸ hcomplete₄ name hname

namespace Fits

variable {previous : Option Handover}

lemma entry_iff (h : Fits previous plan storage) :
    storage.entryMark? name ≠ none ↔ plan.pipeline.Supplied name := by
  rw [h.laid.entry, Pipeline.mem_sourceNames]

/-- **A property has a place exactly if it carries data.** -/
lemma placed_iff (h : Fits previous plan storage) (hdisjoint : plan.pipeline.Disjoint) :
    storage.placeMark? plan name ≠ none ↔ plan.pipeline.Carries name := by
  rw [placeMark?_eq]
  constructor
  · split_ifs with hinner hown
    · exact fun _ => ⟨.inner, h.laid.inner name hinner⟩
    · intro _
      rcases hown with hcopy | ⟨houtput, -⟩
      · exact ⟨.filter, h.laid.innerCopies name hcopy⟩
      · rcases h.laid.outputs name houtput with hname | hname | hname
        exacts [⟨.filter, hname⟩, ⟨.pipethrough, hname⟩, ⟨.output, hname⟩]
    · intro hentry
      exact (h.entry_iff.1 hentry).carries
  · rintro ⟨cls, hname⟩
    split_ifs with hinner hown
    · simp
    · simp
    · by_cases houtput : cls = .output
      · subst houtput
        refine absurd (Or.inr ⟨h.outputs name hname, ?_⟩) hown
        exact hdisjoint.not_mem .output .pipethrough (by decide)
          (PropertyList.solidNames_subset _ hname)
      · by_cases hcls : cls = .inner
        · subst hcls
          exact absurd (h.inner name hname) hinner
        · exact h.entry_iff.2 ⟨cls, houtput, hcls, hname⟩

lemma exists_mark (h : Fits previous plan storage) (hdisjoint : plan.pipeline.Disjoint)
    (hname : plan.pipeline.Carries name) : ∃ mark, storage.placeMark? plan name = some mark :=
  Option.ne_none_iff_exists'.1 ((h.placed_iff hdisjoint).2 hname)

/-- A property from outside stays where it came in, or its copy holds it. -/
lemma place_of_supplied (h : Fits previous plan storage) (hdisjoint : plan.pipeline.Disjoint)
    (hsupplied : plan.pipeline.Supplied name) (hmark : storage.placeMark? plan name = some mark) :
    storage.entryMark? name = some mark ∨
      mark = plan.request.outMark ∧ storage.Copied plan name := by
  obtain ⟨cls, houtput, hinner, hname⟩ := hsupplied
  have hclass := PropertyList.solidNames_subset _ hname
  rw [placeMark?_eq] at hmark
  split_ifs at hmark with hkept hown
  · exact absurd (PropertyList.solidNames_subset _ (h.laid.inner name hkept))
      (hdisjoint.not_mem cls .inner hinner hclass)
  · refine Or.inr ⟨(Option.some.inj hmark).symm, ?_⟩
    have hhanded : name ∈ storage.outputs.names ∨ name ∈ storage.innerCopies.names :=
      hown.elim Or.inr fun hout => Or.inl hout.1
    refine (h.laid.handed name hhanded).resolve_left ?_
    intro hmem
    exact hdisjoint.not_mem cls .output houtput hclass (PropertyList.solidNames_subset _ hmem)
  · exact Or.inl hmark

/-- What is handed on, and not only handed through, is held by the variable that is handed on. -/
lemma place_of_output (h : Fits previous plan storage) (hdisjoint : plan.pipeline.Disjoint)
    (hname : name ∈ storage.outputs.names) (hthrough : name ∉ plan.pipeline.pipethrough.names) :
    storage.placeMark? plan name = some plan.request.outMark := by
  have hinner : name ∉ storage.inner.names := by
    intro hmem
    have hclass := PropertyList.solidNames_subset _ (h.laid.inner name hmem)
    rcases h.laid.outputs name hname with hout | hout | hout
    · exact hdisjoint.not_mem .inner .filter (by decide) hclass
        (PropertyList.solidNames_subset _ hout)
    · exact hthrough (PropertyList.solidNames_subset _ hout)
    · exact hdisjoint.not_mem .inner .output (by decide) hclass
        (PropertyList.solidNames_subset _ hout)
  rw [placeMark?_eq, if_neg hinner, if_pos (Or.inr ⟨hname, hthrough⟩)]

end Fits

end StageStorage

end ShaderWeave
