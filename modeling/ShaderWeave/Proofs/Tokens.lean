import ShaderWeave.Proofs.Interface
import ShaderWeave.Proofs.Needs

/-!
# What one stage makes for the next

What a program needs is to come from outside.  A property that the first of two stages makes and the
second one reads comes from the first, and if it carries data it has no storage class, so it is not
listed (`Drafting.Parts.not_classed_of_made`).  **A token has no storage class either way and is
listed all the same:** it has nothing to be bound, but whoever uses the program is told to supply
what the program makes itself.

* `listed_iff_token` — exactly when such a property is listed, for every program of two stages.
* `not_forall_unlisted` — a token that a vertex task makes for a fragment task is listed as changed.
-/

namespace ShaderWeave

namespace Drafting

variable {setting : Setting} {resolver : Resolver} {requests : List StageRequest}
  {desired : PropertyList} {draft draft' : Draft}

/-- Every stage that is asked for is planned. -/
lemma requests_of_planBackwards {wanted : PropertyList} {plans : List StagePlan}
    (h : planBackwards resolver wanted requests draft = .ok plans draft') :
    plans.map StagePlan.request = requests.reverse := by
  induction requests generalizing wanted plans draft draft' with
  | nil =>
      obtain ⟨rfl, -⟩ := Outcome.pure_ok h
      rfl
  | cons request earlier ih =>
      rw [planBackwards] at h
      obtain ⟨last, draft₁, hlast, h⟩ := Outcome.bind_ok h
      obtain ⟨others, draft₂, hothers, h⟩ := Outcome.bind_ok h
      obtain ⟨rfl, -⟩ := Outcome.pure_ok h
      rw [List.map_append, ih hothers, List.map_singleton, (asked_of_planStage hlast).1,
        List.reverse_cons]

variable {made : Blueprint} {start planned assigned final : Draft}

/-- A program of two stages has two plans. -/
lemma Parts.exists_two_plans {first second : StageRequest}
    (h : Parts setting [first, second] desired made start planned assigned final) :
    ∃ plan next, made.plans = [plan, next] ∧ plan.request = first ∧ next.request = second := by
  have hrequests := requests_of_planBackwards h.plan
  rw [List.reverse_reverse] at hrequests
  obtain ⟨plan, rest, hplans, hplan, hrest⟩ := List.map_eq_cons_iff.1 hrequests
  obtain ⟨next, none, rfl, hnext, hnone⟩ := List.map_eq_cons_iff.1 hrest
  obtain rfl := List.map_eq_nil_iff.1 hnone
  exact ⟨plan, next, hplans, hplan, hnext⟩

end Drafting

lemma Pipeline.exists_class_of_mem_sourceProperties {pipeline : Pipeline} {property : Property}
    (h : property ∈ pipeline.sourceProperties) :
    ∃ cls, cls ≠ .output ∧ property ∈ (pipeline.list cls).entries := by
  simp only [sourceProperties, sources, List.flatMap_cons, List.flatMap_nil, List.append_nil,
    List.mem_append] at h
  rcases h with h | h | h | h
  exacts [⟨.input, by decide, h⟩, ⟨.consuming, by decide, h⟩, ⟨.filter, by decide, h⟩,
    ⟨.pipethrough, by decide, h⟩]

/-- No source of a stage is among its results. -/
lemma Pipeline.Disjoint.not_source_of_output {pipeline : Pipeline} (h : pipeline.Disjoint)
    {result source : Property} (hresult : result ∈ pipeline.output.entries)
    (hsource : source ∈ pipeline.sourceProperties) : source.name ≠ result.name := by
  obtain ⟨cls, hne, hmem⟩ := Pipeline.exists_class_of_mem_sourceProperties hsource
  have hout : result.name ∈ (pipeline.list .output).names := PropertyList.name_mem_names hresult
  intro hname
  exact hne (h (PropertyList.name_mem_names hmem) (hname ▸ hout))

/-- A name stands for one source of a stage. -/
lemma Pipeline.Disjoint.source_eq {pipeline : Pipeline} (h : pipeline.Disjoint)
    {source other : Property} (hsource : source ∈ pipeline.sourceProperties)
    (hother : other ∈ pipeline.sourceProperties) (hname : source.name = other.name) :
    source = other := by
  obtain ⟨cls, -, hmem⟩ := Pipeline.exists_class_of_mem_sourceProperties hsource
  obtain ⟨cls', -, hmem'⟩ := Pipeline.exists_class_of_mem_sourceProperties hother
  obtain rfl := h (PropertyList.name_mem_names hmem) (hname ▸ PropertyList.name_mem_names hmem')
  exact PropertyList.eq_of_name_eq hmem hmem' hname

section TwoStages

variable {setting : Setting} {requests : List StageRequest} {desired : PropertyList}
  {made : Blueprint} {start planned assigned final : Draft} {plan next : StagePlan}
  {result source : Property}

/-- Data that the first of two stages makes has no storage class. -/
lemma Drafting.Parts.not_classed_of_made
    (h : Parts setting requests desired made start planned assigned final)
    (hplans : made.plans = [plan, next]) (hstage : next.request.stage ≠ .vertex)
    (hresult : result ∈ plan.pipeline.output.entries) (hdata : result.isVoid = false)
    (cls : StorageClass) : result.name ∉ (made.program.list cls).names := by
  have hfinished := finished_of_parts h
  intro hname
  obtain ⟨storage, hstorage, hmem⟩ := hfinished.added cls result.name hname
  obtain ⟨i, hi⟩ := List.mem_iff_getElem?.1 hstorage
  obtain ⟨stage, text, hat⟩ := h.exists_at hi
  obtain ⟨p, hp, heq⟩ := PropertyList.mem_names.1 hmem
  obtain ⟨hsource, htakes, -⟩ := ((hfinished.sorted hat.plan hat.storage).lists cls p).1 hp
  have hplan := hat.plan
  rw [hplans] at hplan
  -- The first stage has no source of that name, and the second one takes it in from the first.
  rcases i with _ | _ | i
  · obtain rfl : plan = stage := by simpa using hplan
    exact (h.disjoint plan (List.mem_of_getElem? hat.plan)).not_source_of_output hresult
      (Pipeline.mem_sourceProperties_of_solid hsource).1 heq
  · obtain rfl : next = stage := by simpa using hplan
    have hlt : 0 < made.storages.length :=
      Nat.lt_of_succ_lt (List.getElem?_eq_some_iff.1 hi).1
    obtain ⟨first, text₁, hat₁⟩ := h.exists_at (List.getElem?_eq_getElem hlt)
    obtain rfl : plan = first := by simpa [hplans] using hat₁.plan
    have hout := (h.fits hat₁.plan hat₁.storage).outputs result.name
      (List.mem_map.2 ⟨result, PropertyList.mem_solid.2 ⟨hresult, hdata⟩, rfl⟩)
    rw [StagePlan.takesIn, if_neg hstage, handedTo_of_at hat₁, Option.any_some, heq,
      ← Bool.not_eq_true, PropertyList.contains_iff] at htakes
    exact htakes hout
  · simp at hplan

/-- **Exactly when something that one stage makes and the next one reads is listed.** -/
lemma Program.Queried.listed_iff_of_made {told : List Finding} {program : Program}
    (hqueried : program.Queried made told)
    (h : Drafting.Parts setting requests desired made start planned assigned final)
    (hplans : made.plans = [plan, next]) (hstage : next.request.stage ≠ .vertex)
    (hresult : result ∈ plan.pipeline.output.entries)
    (hsource : source ∈ next.pipeline.sourceProperties) (hname : result.name = source.name) :
    (∃ need, source.name ∈ (program.needs.list need).names) ↔ source.isVoid = true ∨
      result.isVoid = true ∧
        ∃ finding ∈ told, finding.property.name = source.name ∧ finding.location ≠ none := by
  have hfinished := Drafting.finished_of_parts h
  have hfirst : plan ∈ made.plans := by simp [hplans]
  have hsecond : next ∈ made.plans := by simp [hplans]
  simp only [hqueried.mem_list_iff hfinished.apart]
  constructor
  · rintro ⟨need, -, stage, hmem, p, hp, heq, hneeded⟩
    rw [hplans, List.mem_pair] at hmem
    rcases hmem with rfl | rfl
    · exact absurd (heq.trans hname.symm) ((h.disjoint _ hfirst).not_source_of_output hresult hp)
    · obtain rfl := (h.disjoint _ hsecond).source_eq hp hsource heq
      refine hneeded.imp_right ?_
      rintro ⟨finding, hfinding, hfound, hsome⟩
      refine ⟨?_, finding, hfinding, hfound, hsome⟩
      by_contra hdata
      refine h.not_classed_of_made hplans hstage hresult (Bool.not_eq_true _ ▸ hdata) finding.cls ?_
      rw [hname, ← hfound]
      exact hqueried.classed hfinding
  · rintro (hvoid | ⟨-, hfound⟩)
    · exact ⟨_, rfl, next, hsecond, source, hsource, rfl, Or.inl hvoid⟩
    · exact ⟨_, rfl, next, hsecond, source, hsource, rfl, Or.inr hfound⟩

end TwoStages

/-- In every program of two stages that is compiled, on every device and with whatever tasks: what
the first stage makes and the second one reads is never listed as only read.  It is listed exactly
if it is a token for the second stage, or a token for the first one and data that the device knows
for the second.  So data that is handed on as data is not listed, and every token is. -/
theorem listed_iff_token {σ : Type} [Device σ] (setting : Setting) (first second : StageRequest)
    (hstage : second.stage ≠ .vertex) (desired : PropertyList) {workshop workshop' : Workshop σ}
    {made : Blueprint} {draft : Draft} {program : Program}
    (hmade : Drafting.blueprint setting (Device.info workshop.device) [first, second] desired
      workshop.draft = .ok made draft)
    (h : compile setting [first, second] desired workshop = .ok program workshop') :
    ∃ plan next site, made.plans = [plan, next] ∧ plan.request = first ∧ next.request = second ∧
      Building.build made.texts ⟨workshop.device, draft.events⟩ = .ok program.name site ∧
      ∀ result ∈ plan.pipeline.output.entries, ∀ source ∈ next.pipeline.sourceProperties,
        result.name = source.name →
          source.name ∉ program.needs.inputs.names ∧
          ((∃ need, source.name ∈ (program.needs.list need).names) ↔ source.isVoid = true ∨
            result.isVoid = true ∧
              ∃ finding ∈ (locateAll program.name made.program.resources site.device).1,
                finding.property.name = source.name ∧ finding.location ≠ none) := by
  obtain ⟨start, planned, assigned, hparts⟩ := Drafting.parts_of_blueprint hmade
  obtain ⟨plan, next, hplans, rfl, rfl⟩ := hparts.exists_two_plans
  obtain ⟨site, hbuild, hqueried⟩ := queried_of_compile hmade h
  refine ⟨plan, next, site, hplans, rfl, rfl, hbuild, ?_⟩
  intro result hresult source hsource hname
  refine ⟨?_, hqueried.listed_iff_of_made hparts hplans hstage hresult hsource hname⟩
  intro hread
  have hneed := ((hqueried.mem_list_iff (Drafting.finished_of_parts hparts).apart).1
    (show source.name ∈ (program.needs.list .read).names from hread)).1
  refine Need.of_ne_read (hplans ▸ List.mem_cons_self) ?_ hneed.symm
  rw [← hname]
  exact PropertyList.name_mem_names hresult

/-- A vertex task that makes a tone and says when it is done, and a fragment task that waits for it.
-/
def placing : Setting :=
  handing .fragment
    { outputs := .ofList [⟨vertexPosition, .vec4⟩, ⟨"placed", .void⟩, ⟨"tone", .vec4⟩] }
    { inputs := .ofList [⟨"placed", .void⟩, ⟨"tone", .vec4⟩]
      outputs := .ofList [⟨"color", .vec4⟩] }

/-- A workshop with a device that knows everything. -/
def plainWorkshop : Workshop Headless := ⟨{}, .ofBasics, [], []⟩

/-- A tone and a token, both made by the first stage and read by the second. -/
theorem listed_iff_token_placing : ∃ made draft program workshop',
    Drafting.blueprint placing .ideal [.vertex .empty, .fragment .empty]
      (.ofList [⟨"color", .vec4⟩]) plainWorkshop.draft = .ok made draft ∧
    compile placing [.vertex .empty, .fragment .empty] (.ofList [⟨"color", .vec4⟩]) plainWorkshop
      = .ok program workshop' ∧
    ∃ plan next site, made.plans = [plan, next] ∧
      plan.request = .vertex .empty ∧ next.request = .fragment .empty ∧
      Building.build made.texts ⟨plainWorkshop.device, draft.events⟩ = .ok program.name site ∧
      ∀ result ∈ plan.pipeline.output.entries, ∀ source ∈ next.pipeline.sourceProperties,
        result.name = source.name →
          source.name ∉ program.needs.inputs.names ∧
          ((∃ need, source.name ∈ (program.needs.list need).names) ↔ source.isVoid = true ∨
            result.isVoid = true ∧
              ∃ finding ∈ (locateAll program.name made.program.resources site.device).1,
                finding.property.name = source.name ∧ finding.location ≠ none) := by
  have hmade : Outcome.succeeds (Drafting.blueprint placing .ideal
      [.vertex .empty, .fragment .empty] (.ofList [⟨"color", .vec4⟩]) plainWorkshop.draft)
      = true := by decide +kernel
  have hprogram : Outcome.succeeds (compile placing [.vertex .empty, .fragment .empty]
      (.ofList [⟨"color", .vec4⟩]) plainWorkshop) = true := by decide +kernel
  obtain ⟨made, draft, hmade⟩ := Outcome.exists_of_succeeds hmade
  obtain ⟨program, workshop', hprogram⟩ := Outcome.exists_of_succeeds hprogram
  exact ⟨made, draft, program, workshop', hmade, hprogram,
    listed_iff_token placing _ _ (by decide) _ hmade hprogram⟩

/-- **A program can be said to need what it makes itself.**  The fragment task waits for a token
that the vertex task makes; the compiled program lists the token as changed. -/
theorem not_forall_unlisted : ∃ made draft program workshop',
    Drafting.blueprint placing .ideal [.vertex .empty, .fragment .empty]
      (.ofList [⟨"color", .vec4⟩]) plainWorkshop.draft = .ok made draft ∧
    compile placing [.vertex .empty, .fragment .empty] (.ofList [⟨"color", .vec4⟩]) plainWorkshop
      = .ok program workshop' ∧
    ¬ ∀ plan next, made.plans[0]? = some plan → made.plans[1]? = some next →
      ∀ name ∈ plan.pipeline.output.names, name ∈ next.pipeline.input.names →
        ∀ need, name ∉ (program.needs.list need).names := by
  have hmade : Outcome.passes (fun made : Blueprint =>
        (made.stageTest 0 fun plan _ _ => decide ("placed" ∈ plan.pipeline.output.names)) &&
          made.stageTest 1 fun plan _ _ => decide ("placed" ∈ plan.pipeline.input.names))
      (Drafting.blueprint placing .ideal [.vertex .empty, .fragment .empty]
        (.ofList [⟨"color", .vec4⟩]) plainWorkshop.draft) = true := by decide +kernel
  have hprogram : Outcome.passes
      (fun program : Program => decide ("placed" ∈ program.needs.filters.names))
      (compile placing [.vertex .empty, .fragment .empty] (.ofList [⟨"color", .vec4⟩])
        plainWorkshop) = true := by decide +kernel
  obtain ⟨made, draft, hmade, htest⟩ := Outcome.exists_of_passes hmade
  obtain ⟨program, workshop', hprogram, hlisted⟩ := Outcome.exists_of_passes hprogram
  rw [Bool.and_eq_true] at htest
  obtain ⟨plan, _, _, hat, hout⟩ := Blueprint.exists_of_stageTest htest.1
  obtain ⟨next, _, _, hnext, hread⟩ := Blueprint.exists_of_stageTest htest.2
  refine ⟨made, draft, program, workshop', hmade, hprogram, ?_⟩
  intro hall
  exact hall plan next hat.plan hnext.plan "placed" (of_decide_eq_true hout)
    (of_decide_eq_true hread) .changed (of_decide_eq_true hlisted)

end ShaderWeave
