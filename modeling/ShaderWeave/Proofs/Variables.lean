import ShaderWeave.Device.Headless
import ShaderWeave.Program.Compile
import ShaderWeave.Proofs.Chain
import ShaderWeave.Proofs.Placement

/-!
# The variables that tasks name

A task writes its own names; the aliases of a storage lead from them to variables.  They are the
renames on top of the aliases of the stage, walked as one table, **so a name can be led past its
property:** into the variable of another property that stands earlier on the way, or on from its own
variable, if that is spelled like a name with a mapping.

* `StageStorage.Straight` — neither happens: the way to the property is free, and its variable is the
  end.
* `StageStorage.leadsTo?` — the mappings of a stage.
* `StageStorage.Detour` — the way leads past another property, and mappings lead on from there to the
  right variable.
* `StageStorage.holder_eq_place_iff` — a task names the variable of its own property exactly if the
  property has a place and one of the two holds.
* `StageStorage.not_forall_holder_eq_place` — it need not: a property `uniform_tint` takes the place
  of the uniform `tint`.
-/

namespace ShaderWeave

/-! ## The stages of a blueprint -/

namespace Drafting

variable {setting : Setting} {draft draft' : Draft}

lemma planned_of_planBackwards {resolver : Resolver} {requests : List StageRequest}
    {wanted : PropertyList} {plans : List StagePlan}
    (h : planBackwards resolver wanted requests draft = .ok plans draft') :
    ∀ plan ∈ plans, ∃ request wanted draft draft',
      planStage resolver request wanted draft = .ok plan draft' := by
  induction requests generalizing wanted plans draft draft' with
  | nil =>
      obtain ⟨rfl, -⟩ := Outcome.pure_ok h
      exact fun plan hplan => absurd hplan List.not_mem_nil
  | cons request earlier ih =>
      rw [planBackwards] at h
      obtain ⟨first, draft₁, hfirst, h⟩ := Outcome.bind_ok h
      obtain ⟨others, draft₂, hothers, h⟩ := Outcome.bind_ok h
      obtain ⟨rfl, -⟩ := Outcome.pure_ok h
      intro plan hplan
      rcases List.mem_append.1 hplan with hplan | hplan
      · exact ih hothers plan hplan
      · obtain rfl := List.mem_singleton.1 hplan
        exact ⟨request, wanted, draft, draft₁, hfirst⟩

lemma assigned_of_assignStages {previous : Option Handover} {plans : List StagePlan}
    {storages : List StageStorage}
    (h : assignStages setting previous plans draft = .ok storages draft') :
    ∀ stage ∈ plans.zip storages, ∃ previous last draft draft',
      assignStage setting stage.1 previous last draft = .ok stage.2 draft' := by
  induction plans generalizing previous storages draft draft' with
  | nil =>
      intro stage hstage
      rw [List.zip_nil_left] at hstage
      exact absurd hstage List.not_mem_nil
  | cons plan rest ih =>
      rw [assignStages] at h
      obtain ⟨storage, draft₁, hfirst, h⟩ := Outcome.bind_ok h
      obtain ⟨others, draft₂, hothers, h⟩ := Outcome.bind_ok h
      obtain ⟨rfl, -⟩ := Outcome.pure_ok h
      intro stage hstage
      rw [List.zip_cons_cons] at hstage
      rcases List.mem_cons.1 hstage with rfl | hstage
      · exact ⟨previous, rest.isEmpty, draft, draft₁, hfirst⟩
      · exact ih hothers stage hstage

/-- Every stage of a blueprint was planned from the collection, and its storage fits its plan. -/
lemma stage_of_blueprint {collection : TaskCollection} {info : DeviceInfo}
    {requests : List StageRequest} {desired : PropertyList} {made : Blueprint}
    (hresolver : setting.resolver = collection.resolver)
    (h : blueprint setting info requests desired draft = .ok made draft') {plan : StagePlan}
    {storage : StageStorage} (hstage : (plan, storage) ∈ made.plans.zip made.storages) :
    (∃ found, plan.Resolved collection found) ∧ ∃ previous, storage.Fits previous plan := by
  unfold blueprint at h
  obtain ⟨_, draft₁, -, h⟩ := Outcome.bind_ok h
  obtain ⟨plans, draft₂, hplans, h⟩ := Outcome.bind_ok h
  obtain ⟨_, draft₃, -, h⟩ := Outcome.bind_ok h
  obtain ⟨storages, draft₄, hstorages, h⟩ := Outcome.bind_ok h
  obtain ⟨sources, draft₅, -, h⟩ := Outcome.bind_ok h
  obtain ⟨final, draft₆, -, h⟩ := Outcome.bind_ok h
  obtain ⟨_, draft₇, -, h⟩ := Outcome.bind_ok h
  obtain ⟨rfl, -⟩ := Outcome.pure_ok h
  rw [hresolver] at hplans
  obtain ⟨request, wanted, before, after, hplan⟩ :=
    planned_of_planBackwards hplans plan (List.of_mem_zip hstage).1
  obtain ⟨-, found, hfound⟩ := StagePlan.resolved_of_planStage hplan
  obtain ⟨previous, last, before, after, hstorage⟩ :=
    assigned_of_assignStages hstorages (plan, storage) hstage
  exact ⟨⟨found, hfound⟩, previous, StageStorage.fits_of_assignStage hfound.disjoint hstorage⟩

end Drafting

/-! ## Straight ways and detours -/

namespace StageStorage

variable {plan : StagePlan} {storage : StageStorage} {name mark : String}
  {previous : Option Handover}

/-- **The way from a name to its variable is straight:** no name before the property has a place, and
the variable is new on the way, unless it is the property itself, and leads nowhere new. -/
def Straight (storage : StageStorage) (plan : StagePlan) (name mark : String) : Prop :=
  let table := plan.request.aliases
  let own := table.choice name
  (∀ met ∈ table.met name, met ≠ own → storage.placeMark? plan met = none) ∧
    (mark ++ own = own ∨
      mark ++ own ∉ table.met name ∧ storage.aliases.Closed ((mark ++ own) :: table.met name))

/-- **The mappings of a stage:** a name that has a place leads to its variable, any other where the
aliases of the request lead. -/
def leadsTo? (storage : StageStorage) (plan : StagePlan) (name : String) : Option String :=
  match storage.placeMark? plan name with
  | some mark => some (mark ++ name)
  | none => plan.request.aliases.direct? name

/-- The first name on the way that has a place is not the property.  Either its variable has been met
before, so that the way stops there, and it is spelled like the variable of the property; or the
mappings of the stage lead on from its variable to that of the property. -/
def Detour (storage : StageStorage) (plan : StagePlan) (name mark : String) : Prop :=
  let table := plan.request.aliases
  let own := table.choice name
  ∃ other otherMark before, table.Chain name (other :: before) ∧ other ≠ own ∧
    storage.placeMark? plan other = some otherMark ∧
    (∀ met ∈ before, storage.placeMark? plan met = none) ∧
    (otherMark ++ other ∈ other :: before ∧ mark ++ own = other ∨
      ∃ names, Onward (storage.leadsTo? plan) (other :: before) (otherMark ++ other) (mark ++ own)
        names)

/-- Of the names met, one with a place is met first. -/
lemma exists_first_placed (storage : StageStorage) (plan : StagePlan) (trail : List String)
    (h : ∃ met ∈ trail, storage.placeMark? plan met ≠ none) :
    ∃ other before, other :: before <:+ trail ∧ storage.placeMark? plan other ≠ none ∧
      ∀ met ∈ before, storage.placeMark? plan met = none := by
  induction trail with
  | nil =>
      obtain ⟨met, hmet, -⟩ := h
      exact absurd hmet List.not_mem_nil
  | cons first rest ih =>
      by_cases hrest : ∃ met ∈ rest, storage.placeMark? plan met ≠ none
      · obtain ⟨other, before, hsuffix, hother, hbefore⟩ := ih hrest
        exact ⟨other, before, hsuffix.trans (List.suffix_cons first rest), hother, hbefore⟩
      · obtain ⟨met, hmet, hplaced⟩ := h
        simp only [not_exists, not_and, ne_eq, not_not] at hrest
        rcases List.mem_cons.1 hmet with rfl | hmet
        · exact ⟨met, rest, List.suffix_refl _, hplaced, hrest⟩
        · exact absurd (hrest met hmet) hplaced

namespace Fits

lemma get?_renames (h : storage.Fits previous plan) (name : String) :
    storage.renames.get? name = (storage.placeMark? plan name).map (· ++ name) :=
  h.laid.named name

lemma direct?_aliases (h : storage.Fits previous plan) (name : String) :
    storage.aliases.direct? name = storage.leadsTo? plan name := by
  rw [h.aliases, Aliases.direct?_layered_singleton, h.get?_renames, leadsTo?]
  cases storage.placeMark? plan name <;> rfl

/-- A way that no placed name interrupts ends at the variable exactly if it is straight. -/
lemma choice_eq_iff_straight (h : storage.Fits previous plan)
    (hmark : storage.placeMark? plan (plan.request.aliases.choice name) = some mark)
    (hfree : ∀ met ∈ plan.request.aliases.met name, met ≠ plan.request.aliases.choice name →
      storage.placeMark? plan met = none) :
    storage.aliases.choice name = mark ++ plan.request.aliases.choice name ↔
      storage.Straight plan name mark := by
  obtain ⟨past, hmet⟩ := Aliases.met_eq plan.request.aliases name
  have hnodup := (Aliases.chain_met plan.request.aliases name).nodup
  rw [hmet] at hnodup
  have halone : ∀ met ∈ past, storage.renames.get? met = none := by
    intro met hmem
    have hne : met ≠ plan.request.aliases.choice name :=
      fun heq => (List.nodup_cons.1 hnodup).1 (heq ▸ hmem)
    rw [h.get?_renames, hfree met (hmet ▸ List.mem_cons_of_mem _ hmem) hne]
    rfl
  have hsent : storage.renames.get? (plan.request.aliases.choice name)
      = some (mark ++ plan.request.aliases.choice name) := by
    rw [h.get?_renames, hmark]
    rfl
  have hiff := Aliases.choice_layered_iff hmet halone hsent
  rw [← h.aliases] at hiff
  rw [hiff, Straight, hmet]
  exact ⟨fun hend => ⟨hmet ▸ hfree, hend⟩, fun hstraight => hstraight.2⟩

/-- A way that meets a placed name stops there or goes on by its variable. -/
lemma choice_eq_iff_through (h : storage.Fits previous plan) {other otherMark target : String}
    {before : List String} (hchain : plan.request.aliases.Chain name (other :: before))
    (hother : storage.placeMark? plan other = some otherMark)
    (hbefore : ∀ met ∈ before, storage.placeMark? plan met = none) :
    storage.aliases.choice name = target ↔
      otherMark ++ other ∈ other :: before ∧ target = other ∨
        ∃ names, Onward (storage.leadsTo? plan) (other :: before) (otherMark ++ other) target
          names := by
  have hmappings : (fun met => storage.aliases.direct? met) = storage.leadsTo? plan :=
    funext h.direct?_aliases
  rw [← hmappings, h.aliases]
  refine Aliases.choice_layered_through_iff hchain ?_ ?_
  · intro met hmet
    rw [h.get?_renames, hbefore met hmet]
    rfl
  · rw [h.get?_renames, hother]
    rfl

/-- **Where the way from a name ends.**  It ends at the variable of its property exactly if it is
straight or a detour. -/
lemma choice_eq_iff (h : storage.Fits previous plan)
    (hmark : storage.placeMark? plan (plan.request.aliases.choice name) = some mark) :
    storage.aliases.choice name = mark ++ plan.request.aliases.choice name ↔
      storage.Straight plan name mark ∨ storage.Detour plan name mark := by
  have hdetour : storage.Detour plan name mark →
      storage.aliases.choice name = mark ++ plan.request.aliases.choice name := by
    rintro ⟨other, otherMark, before, hchain, -, hother, hbefore, hend⟩
    exact (h.choice_eq_iff_through hchain hother hbefore).2 hend
  by_cases hfree : ∀ met ∈ plan.request.aliases.met name,
      met ≠ plan.request.aliases.choice name → storage.placeMark? plan met = none
  · have hiff := h.choice_eq_iff_straight hmark hfree
    exact ⟨fun hend => Or.inl (hiff.1 hend), fun hway => hway.elim hiff.2 hdetour⟩
  · refine ⟨fun hend => Or.inr ?_, fun hway => hway.elim (fun hs => absurd hs.1 hfree) hdetour⟩
    -- Some name before the property has a place; the first of them is where the way turns off.
    obtain ⟨past, hmet⟩ := Aliases.met_eq plan.request.aliases name
    have hchain := Aliases.chain_met plan.request.aliases name
    simp only [hmet] at hchain hfree
    have hbusy : ∃ met ∈ past, storage.placeMark? plan met ≠ none := by
      by_contra hnone
      refine hfree ?_
      intro met hmem hne
      by_contra hplaced
      exact hnone ⟨met, (List.mem_cons.1 hmem).resolve_left hne, hplaced⟩
    obtain ⟨other, before, hsuffix, hother, hbefore⟩ := exists_first_placed storage plan past hbusy
    obtain ⟨otherMark, hotherMark⟩ := Option.ne_none_iff_exists'.1 hother
    have hway := hchain.of_suffix (hsuffix.trans (List.suffix_cons _ past))
    refine ⟨other, otherMark, before, hway, ?_, hotherMark, hbefore,
      (h.choice_eq_iff_through hway hotherMark hbefore).1 hend⟩
    rintro rfl
    exact (List.nodup_cons.1 hchain.nodup).1 (hsuffix.subset List.mem_cons_self)

end Fits

/-! ## What tasks name -/

/-- **A task names the variable of its own property exactly if the way there is straight or a detour.**
For every stage of a blueprint, every task of it and every name the task lists: the property behind
the name is in a class of the stage, it has a place unless it is a void token there, and the name is
written as the mark of that place and the name of the property exactly under this condition. -/
theorem holder_eq_place_iff (collection : TaskCollection) (setting : Setting)
    (hresolver : setting.resolver = collection.resolver) (info : DeviceInfo)
    (requests : List StageRequest) (desired : PropertyList) {draft draft' : Draft}
    {blueprint : Blueprint}
    (h : Drafting.blueprint setting info requests desired draft = .ok blueprint draft')
    {plan : StagePlan} {storage : StageStorage}
    (hstage : (plan, storage) ∈ blueprint.plans.zip blueprint.storages)
    {task : Task} (htask : task ∈ plan.tasks) {property : Property}
    (hproperty : property ∈ task.lists.all) (types : TypeNames) :
    let own := plan.request.aliases.choice property.name
    (∃ cls, ∃ held ∈ (plan.pipeline.list cls).entries, held.name = own ∧
      (storage.placeMark? plan own ≠ none ↔ held.isVoid = false)) ∧
    ((∃ mark, storage.placeMark? plan own = some mark ∧
        EmitContext.holder ⟨types, storage.aliases⟩ property.name = mark ++ own) ↔
      ∃ mark, storage.placeMark? plan own = some mark ∧
        (storage.Straight plan property.name mark ∨ storage.Detour plan property.name mark)) := by
  obtain ⟨⟨found, hfound⟩, previous, hfits⟩ := Drafting.stage_of_blueprint hresolver h hstage
  refine ⟨?_, ?_⟩
  · obtain ⟨access, haccess⟩ := StagePlan.mem_all_iff.1 hproperty
    obtain ⟨cls, hcls⟩ := hfound.exists_class (StagePlan.mem_specs_of_task access htask haccess)
    obtain ⟨held, hheld, hname⟩ := PropertyList.mem_names.1 (hfound.widened.names_subset cls hcls)
    refine ⟨cls, held, hheld, hname, ?_⟩
    rw [hfits.placed_iff hfound.disjoint, ← hname, hfound.disjoint.carries_iff hheld]
  · constructor
    · rintro ⟨mark, hmark, hholder⟩
      exact ⟨mark, hmark, (hfits.choice_eq_iff hmark).1 hholder⟩
    · rintro ⟨mark, hmark, hway⟩
      exact ⟨mark, hmark, (hfits.choice_eq_iff hmark).2 hway⟩

/-- A setting with one task of the compute stage. -/
def lone (lists : TaskLists) : Setting where
  catalogue := .empty
  vertexLayout := {}
  resolver := (TaskCollection.empty.register (.call "shade" lists) [.compute]).resolver
  options := {}

/-- The draft succeeded, and some name that a task lists passes a test. -/
def someName (test : StagePlan → StageStorage → Property → Bool) :
    EStateM.Result SpecificationError Draft Blueprint → Bool
  | .ok blueprint _ => (blueprint.plans.zip blueprint.storages).any fun stage =>
      stage.1.tasks.any fun task => task.lists.all.any (test stage.1 stage.2)
  | .error _ _ => false

lemma exists_of_someName {test : StagePlan → StageStorage → Property → Bool}
    {result : EStateM.Result SpecificationError Draft Blueprint} (h : someName test result = true) :
    ∃ blueprint draft', result = .ok blueprint draft' ∧
      ∃ plan storage, (plan, storage) ∈ blueprint.plans.zip blueprint.storages ∧
        ∃ task ∈ plan.tasks, ∃ property ∈ task.lists.all, test plan storage property = true := by
  cases result with
  | error error draft' => exact absurd h (by simp [someName])
  | ok blueprint draft' =>
      simp only [someName, List.any_eq_true] at h
      obtain ⟨⟨plan, storage⟩, hstage, hnames⟩ := h
      exact ⟨blueprint, draft', rfl, plan, storage, hstage, hnames⟩

/-- A name that reaches its property by two mappings is written as the variable of that property, so
the way there is as it has to be.  Of two names that are mapped to each other, one is led into the
variable of the other; a mapping of that variable makes it a detour. -/
theorem holder_eq_place_iff_mapped :
    let setting := lone { inputs := .ofList [⟨"base", .vec4⟩]
                          outputs := .ofList [⟨"color", .vec4⟩] }
    let request := StageRequest.compute (.ofList [("base", "paint"), ("paint", "albedo")]) {}
    let crossed := lone { inputs := .ofList [⟨"front", .vec4⟩, ⟨"back", .vec4⟩]
                          outputs := .ofList [⟨"color", .vec4⟩] }
    let crossing := StageRequest.compute
      (.ofList [("front", "back"), ("back", "front"), ("uniform_front", "back")]) {}
    let desired := PropertyList.ofList [⟨"color", .vec4⟩]
    (∃ blueprint draft', Drafting.blueprint setting .ideal [request] desired
        { registry := .ofBasics } = .ok blueprint draft' ∧
      ∃ plan storage, (plan, storage) ∈ blueprint.plans.zip blueprint.storages ∧
        storage.aliases.choice "base" = "uniform_albedo" ∧
        ∃ mark, storage.placeMark? plan "albedo" = some mark ∧
          (storage.Straight plan "base" mark ∨ storage.Detour plan "base" mark)) ∧
    ∃ blueprint draft', Drafting.blueprint crossed .ideal [crossing] desired
        { registry := .ofBasics } = .ok blueprint draft' ∧
      ∃ plan storage, (plan, storage) ∈ blueprint.plans.zip blueprint.storages ∧
        storage.aliases.choice "front" = "uniform_back" ∧
        ∃ mark, storage.placeMark? plan "back" = some mark ∧ storage.Detour plan "front" mark := by
  intro setting request crossed crossing desired
  constructor
  · have hname : someName (fun plan storage property =>
          decide (property.name = "base" ∧ plan.request.aliases.choice "base" = "albedo" ∧
            storage.placeMark? plan "albedo" = some Mark.uniform ∧
            storage.aliases.choice "base" = "uniform_albedo"))
        (Drafting.blueprint setting .ideal [request] desired { registry := .ofBasics }) = true := by
      decide +kernel
    obtain ⟨blueprint, draft', hdraft, plan, storage, hstage, task, htask, property, hproperty,
      htest⟩ := exists_of_someName hname
    obtain ⟨hbase, hown, hmark, hholder⟩ := of_decide_eq_true htest
    have hiff := (holder_eq_place_iff _ setting rfl .ideal [request] desired hdraft hstage htask
      hproperty ⟨fun _ => none, fun _ => none⟩).2
    rw [hbase, hown] at hiff
    exact ⟨blueprint, draft', hdraft, plan, storage, hstage, hholder,
      hiff.1 ⟨Mark.uniform, hmark, hholder⟩⟩
  · have hname : someName (fun plan storage property =>
          decide (property.name = "front" ∧ plan.request.aliases.choice "front" = "back" ∧
            storage.placeMark? plan "back" = some Mark.uniform ∧
            storage.aliases.choice "front" = "uniform_back" ∧
            "front" ∈ plan.request.aliases.met "front" ∧
            storage.placeMark? plan "front" ≠ none))
        (Drafting.blueprint crossed .ideal [crossing] desired { registry := .ofBasics }) = true := by
      decide +kernel
    obtain ⟨blueprint, draft', hdraft, plan, storage, hstage, task, htask, property, hproperty,
      htest⟩ := exists_of_someName hname
    obtain ⟨hfront, hown, hmark, hholder, hmet, hplaced⟩ := of_decide_eq_true htest
    have hiff := (holder_eq_place_iff _ crossed rfl .ideal [crossing] desired hdraft hstage htask
      hproperty ⟨fun _ => none, fun _ => none⟩).2
    rw [hfront, hown] at hiff
    obtain ⟨mark, hmark, hway⟩ := hiff.1 ⟨Mark.uniform, hmark, hholder⟩
    -- The name itself has a place, so the way is not straight.
    have hdetour := hway.resolve_left fun hstraight =>
      hplaced (hstraight.1 "front" hmet (by rw [hown]; decide))
    exact ⟨blueprint, draft', hdraft, plan, storage, hstage, hholder, mark, hmark, hdetour⟩

/-- **A task need not name the variable of its own property.**  Of two uniforms, one is spelled like
the variable of the other; the program compiles, and both names are written as the variable of the
longer one. -/
theorem not_forall_holder_eq_place :
    let setting := lone { inputs := .ofList [⟨"tint", .vec4⟩, ⟨"uniform_tint", .vec4⟩]
                          outputs := .ofList [⟨"color", .vec4⟩] }
    let workshop : Workshop Headless := ⟨{}, .ofBasics, [], []⟩
    let desired := PropertyList.ofList [⟨"color", .vec4⟩]
    (∃ program workshop',
      compile setting [.compute .empty {}] desired workshop = .ok program workshop') ∧
    ∃ blueprint draft', Drafting.blueprint setting .ideal [.compute .empty {}] desired
        workshop.draft = .ok blueprint draft' ∧
      ¬ ∀ plan storage, (plan, storage) ∈ blueprint.plans.zip blueprint.storages →
        ∀ task ∈ plan.tasks, ∀ property ∈ task.lists.all, property.isVoid = false → ∀ types,
          ∃ mark, storage.placeMark? plan (plan.request.aliases.choice property.name) = some mark ∧
            EmitContext.holder ⟨types, storage.aliases⟩ property.name
              = mark ++ plan.request.aliases.choice property.name := by
  intro setting workshop desired
  have hcompiles : (match compile setting [.compute .empty {}] desired workshop with
      | .ok _ _ => true
      | .error _ _ => false) = true := by decide +kernel
  have hname : someName (fun plan storage property =>
        !property.isVoid && decide ((storage.placeMark? plan
            (plan.request.aliases.choice property.name)).map
              (· ++ plan.request.aliases.choice property.name)
          ≠ some (storage.aliases.choice property.name)))
      (Drafting.blueprint setting .ideal [.compute .empty {}] desired workshop.draft) = true := by
    decide +kernel
  refine ⟨?_, ?_⟩
  · cases hresult : compile setting [.compute .empty {}] desired workshop with
    | error error workshop' => simp [hresult] at hcompiles
    | ok program workshop' => exact ⟨program, workshop', rfl⟩
  · obtain ⟨blueprint, draft', hdraft, plan, storage, hstage, task, htask, property, hproperty,
      htest⟩ := exists_of_someName hname
    refine ⟨blueprint, draft', hdraft, ?_⟩
    intro hall
    rw [Bool.and_eq_true, Bool.not_eq_true', decide_eq_true_eq] at htest
    obtain ⟨hsolid, hne⟩ := htest
    obtain ⟨mark, hmark, hholder⟩ := hall plan storage hstage task htask property hproperty hsolid
      ⟨fun _ => none, fun _ => none⟩
    rw [hmark] at hne
    exact hne (congrArg some hholder.symm)

end StageStorage

end ShaderWeave
