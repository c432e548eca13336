import ShaderWeave.Proofs.Delivery

/-!
# Interfaces between stages

The sources of a stage are what the stage before it is asked for, and what that stage hands on is what
the later one takes in.  Each of the two resolves the names with aliases of its own, so that they agree
has to be carried through both.

* `Blueprint.Typed` — properties that are resolved to one name have one type.
* `Blueprint.Connected` — two stages in a row agree: what the later one takes in, the earlier one hands
  on under the same name and with the same type, and what the earlier one made for it is taken in.
* `connected_of_blueprint` — **in every typed program stages agree,** up to counts of invocations that
  the aliases of the stage before send elsewhere.
* `not_forall_input_typed` — such a count can be taken in with a type that it was not handed on with.
-/

namespace ShaderWeave

/-! ## From the sources of a stage to the stage before -/

section Wanted

variable {plan : StagePlan} {pipeline : Pipeline} {property : Property}

lemma Pipeline.exists_class_of_source (h : property ∈ pipeline.sources.flatMap PropertyList.solid) :
    ∃ cls, cls ≠ .output ∧ cls ≠ .inner ∧ property ∈ (pipeline.list cls).entries ∧
      property.isVoid = false := by
  simp only [sources, List.flatMap_cons, List.flatMap_nil, List.append_nil, List.mem_append,
    PropertyList.mem_solid] at h
  rcases h with h | h | h | h
  exacts [⟨.input, by decide, by decide, h⟩, ⟨.consuming, by decide, by decide, h⟩,
    ⟨.filter, by decide, by decide, h⟩, ⟨.pipethrough, by decide, by decide, h⟩]

lemma StagePlan.mem_names_wanted {name : String} : name ∈ plan.wanted.names ↔
    ∃ cls, cls ≠ .output ∧ cls ≠ .inner ∧ name ∈ (plan.pipeline.list cls).names := by
  simp only [wanted, PropertyList.merge, PropertyList.mem_names_extend, ← PropertyList.mem_names,
    PropertyList.names_empty, List.not_mem_nil, false_or]
  constructor
  · rintro (((h | h) | h) | h)
    exacts [⟨.input, by decide, by decide, h⟩, ⟨.filter, by decide, by decide, h⟩,
      ⟨.consuming, by decide, by decide, h⟩, ⟨.pipethrough, by decide, by decide, h⟩]
  · rintro ⟨cls, houtput, hinner, h⟩
    cases cls with
    | input => exact Or.inl (Or.inl (Or.inl h))
    | filter => exact Or.inl (Or.inl (Or.inr h))
    | consuming => exact Or.inl (Or.inr h)
    | pipethrough => exact Or.inr h
    | output => exact absurd rfl houtput
    | inner => exact absurd rfl hinner

lemma StagePlan.class_of_mem_wanted (h : property ∈ plan.wanted.entries) :
    ∃ cls, property ∈ (plan.pipeline.list cls).entries := by
  rcases PropertyList.mem_entries_of_extend h with h | h
  · rcases PropertyList.mem_entries_of_extend h with h | h
    · rcases PropertyList.mem_entries_of_extend h with h | h
      · rcases PropertyList.mem_entries_of_extend h with h | h
        · exact absurd h List.not_mem_nil
        · exact ⟨.input, h⟩
      · exact ⟨.filter, h⟩
    · exact ⟨.consuming, h⟩
  · exact ⟨.pipethrough, h⟩

/-- A source of a stage is wanted as it is, since no other class has its name. -/
lemma StagePlan.mem_wanted (hdisjoint : plan.pipeline.Disjoint)
    (h : property ∈ plan.pipeline.sources.flatMap PropertyList.solid) :
    property ∈ plan.wanted.entries := by
  obtain ⟨cls, houtput, hinner, hmem, -⟩ := Pipeline.exists_class_of_source h
  have hname := PropertyList.name_mem_names hmem
  -- Lists are merged by name: some property of that name is wanted, and it is this one.
  obtain ⟨q, hq, heq⟩ := PropertyList.mem_names.1
    (mem_names_wanted.2 ⟨cls, houtput, hinner, hname⟩)
  obtain ⟨cls', hq'⟩ := class_of_mem_wanted hq
  obtain rfl := hdisjoint (heq ▸ PropertyList.name_mem_names hq') hname
  rwa [PropertyList.eq_of_name_eq hq' hmem heq] at hq

end Wanted

/-- Properties that are resolved to one name, in whatever stages, have one type. -/
def Blueprint.Typed (made : Blueprint) : Prop :=
  ∀ plan ∈ made.plans, ∀ plan' ∈ made.plans, ∀ p ∈ plan.specs, ∀ q ∈ plan'.specs,
    plan.request.aliases.choice p.name = plan'.request.aliases.choice q.name → p.type = q.type

instance (made : Blueprint) : Decidable made.Typed :=
  inferInstanceAs (Decidable (∀ plan ∈ made.plans, ∀ plan' ∈ made.plans, ∀ p ∈ plan.specs,
    ∀ q ∈ plan'.specs,
      plan.request.aliases.choice p.name = plan'.request.aliases.choice q.name → p.type = q.type))

/-- **Two stages in a row agree.** -/
structure Blueprint.Connected (made : Blueprint) : Prop where
  /-- What a stage declares as an input, the stage before declares as handed on, under the same name.
  Its type is the same, and so is the way in which it is interpolated, if the later stage was told of
  the property or the earlier one has no alias for it. -/
  declared : ∀ i plan storage source next nextStorage nextSource,
    made.At i plan storage source → made.At (i + 1) next nextStorage nextSource →
    next.request.stage ≠ .vertex →
    ∀ flat type name, .input flat type name ∈ nextSource.declarations →
      ∃ p ∈ nextStorage.inputs.entries, name = plan.request.outMark ++ p.name ∧
        ∃ declaration ∈ source.declarations, ∃ type',
          declaration.handedOn? = some (type', name) ∧
          ((∃ spec ∈ next.specs, next.request.aliases.choice spec.name = p.name) ∨
              plan.request.aliases.choice p.name = p.name →
            type' = type ∧
              (plan.request.stage = .vertex → declaration = .output flat type name))
  /-- What a stage needs, and the stage before made or copied under that name, is an input and
  nothing else. -/
  taken : ∀ i plan storage source next nextStorage nextSource,
    made.At i plan storage source → made.At (i + 1) next nextStorage nextSource →
    next.request.stage ≠ .vertex →
    ∀ p ∈ next.pipeline.sources.flatMap PropertyList.solid,
      plan.request.aliases.choice p.name = p.name →
      (plan.Touched .writes p.name ∨
        p.name ∈ plan.pipeline.filter.names ∧ ¬ storage.Held p.name) →
      p ∈ nextStorage.inputs.entries ∧ (∀ cls, p.name ∉ (nextStorage.list cls).names) ∧
        ∃ flat type, .input flat type (plan.request.outMark ++ p.name) ∈ nextSource.declarations

/-! ## What is taken in -/

namespace Drafting.Finished

variable {setting : Setting} {made : Blueprint} {final : Draft} {i : Nat} {plan next : StagePlan}
  {storage nextStorage : StageStorage} {source nextSource : StageSource}

/-- A stage that is no vertex stage declares exactly its inputs as taken in. -/
lemma declares_input_iff (h : Finished setting made final) (hat : made.At i plan storage source)
    (hstage : plan.request.stage ≠ .vertex) {flat : Bool} {type holder : String} :
    .input flat type holder ∈ source.declarations ↔
      ∃ p ∈ storage.inputs.entries, flat = final.registry.isFlat p.type ∧
        type = (final.registry.typeFor p.type).valueName ∧ holder = storage.inMark ++ p.name := by
  have htaken : ∀ p, final.taken setting plan storage p
      = .input (final.registry.isFlat p.type) (final.registry.typeFor p.type).valueName
          (storage.inMark ++ p.name) := by
    intro p
    unfold Draft.taken
    split
    · next hvertex => exact absurd hvertex hstage
    · rfl
  rw [h.declared hat, final.mem_declared]
  constructor
  · rintro (hstruct | ⟨cls, p, -, heq⟩ | ⟨p, hp, heq⟩ | ⟨p, -, heq⟩)
    · obtain ⟨_, _, ⟨⟩⟩ := Registry.struct_of_mem_structs hstruct
    · cases cls <;> cases heq
    · rw [htaken] at heq
      cases heq
      exact ⟨p, hp, rfl, rfl, rfl⟩
    · unfold Draft.handed at heq
      split at heq <;> cases heq
  · rintro ⟨p, hp, rfl, rfl, rfl⟩
    exact Or.inr (Or.inr (Or.inl ⟨p, hp, htaken p⟩))

/-- A stage takes in those of its sources that the stage before hands on. -/
lemma mem_inputs_iff (h : Finished setting made final) (hat : made.At i plan storage source)
    (hnext : made.At (i + 1) next nextStorage nextSource) (hstage : next.request.stage ≠ .vertex)
    {p : Property} :
    p ∈ nextStorage.inputs.entries ↔
      p ∈ next.pipeline.sources.flatMap PropertyList.solid ∧ p.name ∈ storage.outputs.names := by
  rw [(h.sorted hnext.plan hnext.storage).inputs, StagePlan.takesIn, if_neg hstage,
    handedTo_of_at hat, Option.any_some, PropertyList.contains_iff]
  rfl

end Drafting.Finished

namespace Drafting.Parts

variable {setting : Setting} {requests : List StageRequest} {desired : PropertyList}
  {made : Blueprint} {start planned assigned final : Draft} {i : Nat} {plan next : StagePlan}
  {storage nextStorage : StageStorage} {source nextSource : StageSource} {property : Property}

/-- What a stage needs, the stage before is asked for. -/
lemma desired_of_source (h : Parts setting requests desired made start planned assigned final)
    {collection : TaskCollection} (hresolver : setting.resolver = collection.resolver)
    (hplan : made.plans[i]? = some plan) (hnext : made.plans[i + 1]? = some next)
    (hproperty : property ∈ next.pipeline.sources.flatMap PropertyList.solid) :
    property ∈ plan.desired.entries := by
  obtain ⟨-, hasked⟩ := h.resolved hresolver hplan
  have hdisjoint := h.disjoint next (List.mem_of_getElem? hnext)
  rw [hasked, yieldOf, hnext]
  exact StageRequest.mem_desired (StagePlan.mem_wanted hdisjoint hproperty)

/-- What comes from the stage before keeps the mark under which it was handed on. -/
lemma inMark_eq (h : Parts setting requests desired made start planned assigned final)
    (hat : made.At i plan storage source) (hnext : made.At (i + 1) next nextStorage nextSource)
    (hstage : next.request.stage ≠ .vertex) : nextStorage.inMark = plan.request.outMark := by
  rw [(h.fits hnext.plan hnext.storage).laid.inMark, handedTo_of_at hat]
  unfold StageRequest.inMark
  cases hkind : next.request.stage with
  | vertex => exact absurd hkind hstage
  | fragment => rfl
  | compute => rfl

end Drafting.Parts

/-! ## Agreement -/

section Agreement

variable {collection : TaskCollection} {found : Pipeline} {made : Blueprint}
  {plan next : StagePlan} {storage : StageStorage} {p q : Property}

/-- What is handed on is something the stage was told of. -/
lemma StageStorage.Delivered.spec_of_output {last : Bool} (h : storage.Delivered plan last)
    (hfound : plan.Resolved collection found) (hq : q ∈ storage.outputs.entries) :
    ∃ spec ∈ plan.specs, plan.request.aliases.chosen spec = q := by
  have hclass : ∃ cls, cls ≠ .input ∧ q ∈ (plan.pipeline.list cls).entries := by
    rcases h.entries q hq with hmem | hmem | hmem
    · exact ⟨.filter, by decide, (PropertyList.mem_solid.1 hmem).1⟩
    · exact ⟨.pipethrough, by decide, (PropertyList.mem_solid.1 hmem).1⟩
    · exact ⟨.output, by decide, (PropertyList.mem_solid.1 hmem).1⟩
  obtain ⟨cls, hcls, hmem⟩ := hclass
  rw [hfound.widened.others cls hcls] at hmem
  exact hfound.spec_of_mem_found cls hmem

/-- A property that a stage takes in has the type of the one that is handed on under its name, if the
stage was told of it or the stage before has no alias for it. -/
lemma Blueprint.Typed.type_eq (h : made.Typed) (hplan : plan ∈ made.plans)
    (hnext : next ∈ made.plans) (hfound : next.Resolved collection found) {cls : PropertyClass}
    (hp : p ∈ (next.pipeline.list cls).entries) (hdesired : p ∈ plan.desired.entries)
    (hq : ∃ spec ∈ plan.specs, plan.request.aliases.chosen spec = q) (hname : q.name = p.name)
    (htold : (∃ spec ∈ next.specs, next.request.aliases.choice spec.name = p.name) ∨
      plan.request.aliases.choice p.name = p.name) : q.type = p.type := by
  obtain ⟨spec, hspec, rfl⟩ := hq
  -- Types are compared in both stages if the later one was told of the name, in the earlier one else.
  rcases htold with ⟨told, htold, hchoice⟩ | hown
  · rcases hfound.spec_of_mem_class hp with ⟨other, hother, rfl⟩ | ⟨-, hnone⟩
    · exact h plan hplan next hnext spec hspec other hother hname
    · exact absurd hchoice (hnone told htold)
  · exact h plan hplan plan hplan spec hspec p (List.mem_append_left _ hdesired)
      (hname.trans hown.symm)

/-- In a typed program no token stands in for a property that carries data. -/
lemma Blueprint.Typed.carries (h : made.Typed) (hplan : plan ∈ made.plans)
    (hfound : plan.Resolved collection found) (hspec : p ∈ plan.specs) (hsolid : p.isVoid = false) :
    plan.pipeline.Carries (plan.request.aliases.choice p.name) := by
  refine hfound.carries_of_solid hspec hsolid ?_
  intro spec hmem heq
  rw [Property.isVoid, h plan hplan plan hplan spec hmem p hspec heq]
  exact hsolid

/-- What the next stage needs is handed on, if this stage makes or copies it under that name. -/
lemma StageStorage.Fits.output_of_needed {previous : Option Handover} {last : Bool}
    (h : storage.Fits previous plan) (hfound : plan.Resolved collection found)
    (hdelivered : storage.Delivered plan last) (hdesired : p ∈ plan.desired.entries)
    (hown : plan.request.aliases.choice p.name = p.name) (hcarries : plan.pipeline.Carries p.name)
    (hmade : plan.Touched .writes p.name ∨
      p.name ∈ plan.pipeline.filter.names ∧ ¬ storage.Held p.name) :
    p.name ∈ storage.outputs.names := by
  rcases hmade with hwritten | ⟨hfilter, hheld⟩
  · have hname : p.name ∈ plan.pipeline.output.names :=
      (hfound.mem_class_iff (by decide : PropertyClass.output ≠ .input)).2
        ⟨hfound.touched_iff.2 hwritten, p, hdesired, hown⟩
    exact h.outputs _ (hfound.disjoint.mem_solidNames .output hname hcarries)
  · have hlisted : p.name ∈ plan.desiredNames :=
      List.mem_map.2 ⟨p.name, PropertyList.name_mem_names hdesired, hown⟩
    rcases hdelivered.filtered _ (hfound.disjoint.mem_solidNames .filter hfilter hcarries) with
      hmem | ⟨-, hout⟩ | ⟨hnot, -⟩
    exacts [absurd hmem hheld, hout, absurd hlisted hnot]

end Agreement

/-- Whatever aliases the stages have: in every program that can be drafted from a collection, if
properties of one name have one type, stages in a row agree. -/
theorem connected_of_blueprint (collection : TaskCollection) (setting : Setting)
    (hresolver : setting.resolver = collection.resolver) (info : DeviceInfo)
    (requests : List StageRequest) (desired : PropertyList) {draft draft' : Draft}
    {made : Blueprint}
    (h : Drafting.blueprint setting info requests desired draft = .ok made draft')
    (htyped : made.Typed) : made.Connected := by
  obtain ⟨start, planned, assigned, hparts⟩ := Drafting.parts_of_blueprint h
  have hfinished := Drafting.finished_of_parts hparts
  refine ⟨?_, ?_⟩
  · intro i plan storage source next nextStorage nextSource hat hnext hstage flat type name hmem
    obtain ⟨⟨found, hfound⟩, -⟩ := hparts.resolved hresolver hat.plan
    obtain ⟨⟨nextFound, hnextFound⟩, -⟩ := hparts.resolved hresolver hnext.plan
    obtain ⟨p, hp, rfl, rfl, rfl⟩ := (hfinished.declares_input_iff hnext hstage).1 hmem
    obtain ⟨hsource, hout⟩ := (hfinished.mem_inputs_iff hat hnext hstage).1 hp
    obtain ⟨q, hq, hname⟩ := PropertyList.mem_names.1 hout
    obtain ⟨hdeclared, htold⟩ := (hfinished.declares_handed_iff hat).2 ⟨q, hq, rfl, rfl, rfl⟩
    rw [hparts.inMark_eq hat hnext hstage]
    rw [hname] at htold
    refine ⟨p, hp, rfl, draft'.handed plan q, hdeclared, _, htold, ?_⟩
    intro hagreed
    obtain ⟨cls, -, -, hclass, -⟩ := Pipeline.exists_class_of_source hsource
    have htype : q.type = p.type :=
      htyped.type_eq (List.mem_of_getElem? hat.plan) (List.mem_of_getElem? hnext.plan) hnextFound
        hclass (hparts.desired_of_source hresolver hat.plan hnext.plan hsource)
        ((StageStorage.delivered_of_parts hparts hat.plan hat.storage).spec_of_output hfound hq)
        hname hagreed
    refine ⟨by rw [htype], ?_⟩
    intro hvertex
    simp only [Draft.handed, hvertex, htype, hname]
  · intro i plan storage source next nextStorage nextSource hat hnext hstage p hp hown hmade
    obtain ⟨⟨found, hfound⟩, -⟩ := hparts.resolved hresolver hat.plan
    have hasked := hparts.desired_of_source hresolver hat.plan hnext.plan hp
    obtain ⟨-, -, -, -, hsolid⟩ := Pipeline.exists_class_of_source hp
    have hcarries := htyped.carries (List.mem_of_getElem? hat.plan) hfound
      (List.mem_append_left _ hasked) hsolid
    rw [hown] at hcarries
    have hout := (hparts.fits hat.plan hat.storage).output_of_needed hfound
      (StageStorage.delivered_of_parts hparts hat.plan hat.storage) hasked hown hcarries hmade
    have hinput := (hfinished.mem_inputs_iff hat hnext hstage).2 ⟨hp, hout⟩
    refine ⟨hinput, ?_, ?_⟩
    · intro cls hcls
      exact ((hfinished.sorted hnext.plan hnext.storage).only hfinished.apart cls hcls).1
        (PropertyList.name_mem_names hinput)
    · refine ⟨_, _, (hfinished.declares_input_iff hnext hstage).2 ⟨p, hinput, rfl, rfl, ?_⟩⟩
      rw [hparts.inMark_eq hat hnext hstage]

/-- A task of a vertex stage and one of a later stage. -/
def handing (stage : Stage) (first second : TaskLists) : Setting where
  catalogue := .empty
  vertexLayout := {}
  resolver := ((TaskCollection.empty.register (.call "fill" first) [.vertex]).register
    (.call "shade" second) [stage]).resolver
  options := {}

/-- A whole number that the vertex stage makes, and a tone that it changes and hands on. -/
theorem connected_of_blueprint_layered :
    let setting := handing .fragment
      { filters := .ofList [⟨"tone", .vec4⟩]
        outputs := .ofList [⟨vertexPosition, .vec4⟩, ⟨"layer", .uint⟩] }
      { inputs := .ofList [⟨"tone", .vec4⟩, ⟨"layer", .uint⟩]
        outputs := .ofList [⟨"color", .vec4⟩] }
    ∃ made draft', Drafting.blueprint setting .ideal [.vertex .empty, .fragment .empty]
        (.ofList [⟨"color", .vec4⟩]) { registry := .ofBasics } = .ok made draft' ∧
      made.Typed ∧ made.Connected ∧
      ∃ plan storage source, made.At 1 plan storage source ∧ plan.request.stage ≠ .vertex ∧
        storage.inputs.names = ["tone", "layer"] ∧
        .input true "uint" "vert_layer" ∈ source.declarations := by
  intro setting
  have htest : Outcome.passes (fun made : Blueprint =>
        decide made.Typed && made.stageTest 1 fun plan storage source =>
          decide (plan.request.stage ≠ .vertex ∧ storage.inputs.names = ["tone", "layer"] ∧
            .input true "uint" "vert_layer" ∈ source.declarations))
      (Drafting.blueprint setting .ideal [.vertex .empty, .fragment .empty]
        (.ofList [⟨"color", .vec4⟩]) { registry := .ofBasics }) = true := by decide +kernel
  obtain ⟨made, draft', hmade, htest⟩ := Outcome.exists_of_passes htest
  rw [Bool.and_eq_true, decide_eq_true_eq] at htest
  obtain ⟨htyped, htest⟩ := htest
  obtain ⟨plan, storage, source, hat, htest⟩ := Blueprint.exists_of_stageTest htest
  obtain ⟨hstage, hinputs, hdeclared⟩ := of_decide_eq_true htest
  exact ⟨made, draft', hmade, htyped, connected_of_blueprint _ setting rfl .ideal _ _ hmade htyped,
    plan, storage, source, hat, hstage, hinputs, hdeclared⟩

/-- **A count of invocations can be taken in with a type that it was not handed on with.**  The aliases
of the vertex stage run in a circle, so that it makes one property under the name of the count; the
program is typed and compiles, and its stages declare one variable with two types. -/
theorem not_forall_input_typed :
    let setting := handing .compute
      { outputs := .ofList [⟨"s", .vec4⟩] }
      { inputs := .ofList [⟨"s", .vec4⟩]
        outputs := .ofList [⟨"color", .vec4⟩] }
    let requests : List StageRequest :=
      [.vertex (.ofList [("s", "x"), ("x", "n"), ("n", "s")]),
        .compute .empty { counts := ⟨.property ⟨"n", .uint⟩, .fixed 1, .fixed 1⟩ }]
    let workshop : Workshop Headless := ⟨{}, .ofBasics, [], []⟩
    let desired := PropertyList.ofList [⟨"color", .vec4⟩]
    (∃ program workshop', compile setting requests desired workshop = .ok program workshop') ∧
    ∃ made draft', Drafting.blueprint setting .ideal requests desired workshop.draft
        = .ok made draft' ∧ made.Typed ∧
      ¬ ∀ i plan storage source next nextStorage nextSource,
        made.At i plan storage source → made.At (i + 1) next nextStorage nextSource →
        next.request.stage ≠ .vertex →
        ∀ flat type name, .input flat type name ∈ nextSource.declarations →
          ∃ declaration ∈ source.declarations, declaration.handedOn? = some (type, name) := by
  intro setting requests workshop desired
  have hcompiles : Outcome.succeeds (compile setting requests desired workshop) = true := by
    decide +kernel
  have htest : Outcome.passes (fun made : Blueprint => decide made.Typed &&
        ((made.stageTest 0 fun _ _ source => decide (∀ declaration ∈ source.declarations,
          declaration.handedOn? ≠ some ("uint", "vert_n"))) &&
        made.stageTest 1 fun plan _ source => decide (plan.request.stage ≠ .vertex ∧
          .input true "uint" "vert_n" ∈ source.declarations)))
      (Drafting.blueprint setting .ideal requests desired workshop.draft) = true := by
    decide +kernel
  refine ⟨Outcome.exists_of_succeeds hcompiles, ?_⟩
  obtain ⟨made, draft', hmade, htest⟩ := Outcome.exists_of_passes htest
  rw [Bool.and_eq_true, Bool.and_eq_true, decide_eq_true_eq] at htest
  obtain ⟨htyped, hfirst, hsecond⟩ := htest
  obtain ⟨plan, storage, source, hat, hfirst⟩ := Blueprint.exists_of_stageTest hfirst
  obtain ⟨next, nextStorage, nextSource, hnext, hsecond⟩ := Blueprint.exists_of_stageTest hsecond
  have hnone := of_decide_eq_true hfirst
  obtain ⟨hstage, hinput⟩ := of_decide_eq_true hsecond
  refine ⟨made, draft', hmade, htyped, ?_⟩
  intro hall
  obtain ⟨declaration, hmem, htold⟩ :=
    hall 0 plan storage source next nextStorage nextSource hat hnext hstage _ _ _ hinput
  exact hnone declaration hmem htold

end ShaderWeave
