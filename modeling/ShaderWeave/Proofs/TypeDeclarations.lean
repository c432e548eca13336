import ShaderWeave.Proofs.Delivery
import ShaderWeave.Proofs.Sources
import ShaderWeave.Proofs.StructNames

/-!
# Types are declared before they are used

The types of a stage are collected from its tasks and from seven of the eight lists of its variables.
Copies of changed properties that nothing after the stage reads are on none of those seven.  **A
changed property comes from outside, though,** so it is on one of the lists too: no name is in two
classes of a stage (`StagePlan.checkDisjoint`), and so no property from outside hides another.

* `StageStorage.properties` — all that a stage declares variables for.
* `Drafting.walked_of_assignStage` — the types of all variables are collected, and none is void.
* `Drafting.covers_of_declarationOrder` — what is collected is among the types of the stage.
* `Registry.InOrder.contained_before` — whatever a type contains, however deep, stands before it.
* `Drafting.structs_of_writeStage` — a source declares the structs of its types in order, one for each
  key, and everything else behind them.
-/

namespace ShaderWeave

open Registry (Grown Grows InOrder)

/-! ## The variables of a stage -/

namespace StageStorage

/-- The properties that came in from outside. -/
def entered (storage : StageStorage) : List Property :=
  storage.uniforms.entries ++ storage.samplers.entries ++ storage.uniformBlocks.entries
    ++ storage.storageBlocks.entries ++ storage.inputs.entries

/-- The properties that a stage declares variables for. -/
def properties (storage : StageStorage) : List Property :=
  storage.entered ++ storage.outputs.entries ++ storage.inner.entries
    ++ storage.innerCopies.entries

variable {setting : Setting} {plan : StagePlan} {previous : Option Handover} {last : Bool}
  {storage storage' : StageStorage} {property q : Property} {draft draft' : Draft}

lemma mem_entered : q ∈ storage.entered ↔
    q ∈ storage.inputs.entries ∨ ∃ cls, q ∈ (storage.list cls).entries := by
  simp only [entered, List.mem_append]
  constructor
  · rintro ((((h | h) | h) | h) | h)
    exacts [Or.inr ⟨.uniform, h⟩, Or.inr ⟨.sampler, h⟩, Or.inr ⟨.uniformBlock, h⟩,
      Or.inr ⟨.storageBlock, h⟩, Or.inl h]
  · rintro (h | ⟨cls, h⟩)
    · exact Or.inr h
    · cases cls <;> simp only [list] at h <;> simp [h]

/-- A property from outside goes to the inputs or to the list of a storage class. -/
lemma assignSource_eq
    (h : Drafting.assignSource setting plan previous storage property draft = .ok storage' draft') :
    (∃ holder, storage' = (storage.addInput property).rename property.name holder) ∨
      ∃ cls holder, storage' = (storage.insert cls property).rename property.name holder := by
  unfold Drafting.assignSource at h
  dsimp only at h
  split_ifs at h with hvertex hhanded
  · obtain ⟨-, draft₁, -, h⟩ := Outcome.bind_ok h
    obtain ⟨rfl, -⟩ := Outcome.pure_ok h
    exact Or.inl ⟨_, rfl⟩
  · obtain ⟨rfl, -⟩ := Outcome.pure_ok h
    exact Or.inl ⟨_, rfl⟩
  · obtain ⟨cls, draft₁, -, h⟩ := Outcome.bind_ok h
    obtain ⟨rfl, -⟩ := Outcome.pure_ok h
    exact Or.inr ⟨cls, _, rfl⟩

lemma mem_entered_of_assignSource (hnew : property.name ∉ storage.entered.map Property.name)
    (h : Drafting.assignSource setting plan previous storage property draft = .ok storage' draft') :
    q ∈ storage'.entered ↔ q ∈ storage.entered ∨ q = property := by
  have hfresh : ∀ list : PropertyList, (∀ p ∈ list.entries, p ∈ storage.entered) →
      property.name ∉ list.names := by
    intro list hlist hname
    obtain ⟨p, hp, heq⟩ := PropertyList.mem_names.1 hname
    exact hnew (List.mem_map.2 ⟨p, hlist p hp, heq⟩)
  rcases assignSource_eq h with ⟨holder, rfl⟩ | ⟨cls, holder, rfl⟩
  · have hinputs := hfresh storage.inputs fun p hp => mem_entered.2 (Or.inl hp)
    simp only [entered, rename, addInput, List.mem_append, PropertyList.mem_entries_insert hinputs,
      or_assoc]
  · have hlist := hfresh (storage.list cls) fun p hp => mem_entered.2 (Or.inr ⟨cls, hp⟩)
    cases cls <;> simp only [list] at hlist <;>
      simp only [entered, rename, insert, List.mem_append, PropertyList.mem_entries_insert hlist] <;>
      tauto

/-- The loop over the sources lets each of them in, since no two have a name in common. -/
lemma mem_entered_of_sources {sources : List Property} {mark : String}
    (hnodup : (sources.map Property.name).Nodup)
    (h : sources.foldlM (Drafting.assignSource setting plan previous) { inMark := mark } draft
      = .ok storage draft') : q ∈ storage.entered ↔ q ∈ sources := by
  refine (Outcome.steps_of_foldlM_state h).invariant
    (P := fun done storage => ∀ q, q ∈ storage.entered ↔ q ∈ done) ?_ (by simp [entered]) q
  rintro done property current current' hfront hdone ⟨before, after, hok⟩ q
  have hnew : property.name ∉ current.entered.map Property.name := by
    intro hname
    obtain ⟨p, hp, heq⟩ := List.mem_map.1 hname
    exact name_not_mem_done hnodup hfront (List.mem_map.2 ⟨p, (hdone p).1 hp, heq⟩)
  rw [mem_entered_of_assignSource hnew hok, hdone, List.mem_append, List.mem_singleton]

/-- Where the properties of a finished storage come from. -/
structure Drawn (plan : StagePlan) (storage : StageStorage) : Prop where
  entered : ∀ q, q ∈ storage.entered ↔ q ∈ plan.pipeline.sources.flatMap PropertyList.solid
  inner : ∀ q ∈ storage.inner.entries, q ∈ plan.pipeline.inner.solid
  innerCopies : ∀ q ∈ storage.innerCopies.entries, q ∈ plan.pipeline.filter.solid

lemma drawn_of_assignStage (hdisjoint : plan.pipeline.Disjoint)
    (h : Drafting.assignStage setting plan previous last draft = .ok storage draft') :
    storage.Drawn plan := by
  obtain ⟨s₁, d₁, s₂, d₂, s₃, d₃, s₄, d₄, s₅, d₅, types, hsources, hfilters, hthroughs, houtputs,
    hinners, rfl, -⟩ := loops_of_assignStage h
  have hstart := entered_of_sources hdisjoint.nodup_sourceNames hsources
  have hcontinues : Continues s₁ s₅ :=
    (Continues.of_foldlM Continues.of_filter hfilters).trans <|
      (Continues.of_foldlM Continues.of_through hthroughs).trans <|
        (Continues.of_foldlM Continues.of_output houtputs).trans
          (Continues.of_foldlM Continues.of_inner hinners)
  -- Only the loop over the changed properties makes copies, and only the last has inner properties.
  have hinner₂ : s₂.inner = s₁.inner := by
    refine same_of_foldlM (·.inner) (fun hok => ?_) hfilters
    rcases assignFilter_cases hok with ⟨-, rfl⟩ | ⟨-, -, rfl⟩ | ⟨-, -, rfl⟩ <;> rfl
  have hsame₃ : (s₃.inner, s₃.innerCopies) = (s₂.inner, s₂.innerCopies) := by
    refine same_of_foldlM (fun s => (s.inner, s.innerCopies)) (fun hok => ?_) hthroughs
    rcases assignThrough_cases hok with ⟨-, rfl⟩ | ⟨-, rfl⟩ <;> rfl
  have hsame₄ : (s₄.inner, s₄.innerCopies) = (s₃.inner, s₃.innerCopies) := by
    refine same_of_foldlM (fun s => (s.inner, s.innerCopies)) (fun hok => ?_) houtputs
    rw [assignOutput_eq hok]
    rfl
  have hcopies₅ : s₅.innerCopies = s₄.innerCopies := by
    refine same_of_foldlM (·.innerCopies) (fun hok => ?_) hinners
    rw [assignInner_eq hok]
    rfl
  obtain ⟨hinner₄, hcopies₄⟩ := Prod.mk.inj (hsame₄.trans hsame₃)
  refine ⟨fun q => ?_, fun q hq => ?_, fun q hq => ?_⟩
  · rw [← mem_entered_of_sources hdisjoint.nodup_sourceNames hsources, mem_entered, mem_entered,
      ← hcontinues.inputs]
    refine or_congr_right (exists_congr fun cls => ?_)
    rw [← hcontinues.list cls]
    cases cls <;> rfl
  · refine (entries_of_foldlM (·.inner.entries) (fun hok p hp => ?_) hinners q hq).resolve_left ?_
    · rw [assignInner_eq hok] at hp
      exact PropertyList.mem_entries_of_insert hp
    · rw [hinner₄, hinner₂, hstart.inner]
      exact List.not_mem_nil
  · have hq₂ : q ∈ s₂.innerCopies.entries := by
      rw [← hcopies₄, ← hcopies₅]
      exact hq
    refine (entries_of_foldlM (·.innerCopies.entries) (fun hok p hp => ?_) hfilters q
      hq₂).resolve_left ?_
    · rcases assignFilter_cases hok with ⟨-, rfl⟩ | ⟨-, -, rfl⟩ | ⟨-, -, rfl⟩
      · exact Or.inl hp
      · exact Or.inl hp
      · exact PropertyList.mem_entries_of_insert hp
    · rw [hstart.innerCopies]
      exact List.not_mem_nil

end StageStorage

/-! ## The types that are collected -/

namespace Drafting

variable {base : Registry} {setting : Setting} {plan : StagePlan} {previous : Option Handover}
  {last : Bool} {storage : StageStorage} {property : Property} {draft draft' : Draft}

/-- The types of all variables of a stage are collected, and none of them is void. -/
lemma walked_of_assignStage (hdisjoint : plan.pipeline.Disjoint)
    (h : assignStage setting plan previous last draft = .ok storage draft')
    (hproperty : property ∈ storage.properties) :
    property.type ∈ (stageTypes plan storage).order ∧ property.type.isVoid = false := by
  have hdrawn := StageStorage.drawn_of_assignStage hdisjoint h
  have hsolid : ∀ list : PropertyList, property ∈ list.solid → property.type.isVoid = false :=
    fun list hlist => (PropertyList.mem_solid.1 hlist).2
  have hentered : property ∈ storage.entered → property.type ∈ (stageTypes plan storage).order := by
    intro hmem
    rcases StageStorage.mem_entered.1 hmem with hmem | ⟨cls, hmem⟩
    · exact mem_stageTypes_of_list (by simp) hmem
    · exact mem_stageTypes_of_list (by cases cls <;> simp [StageStorage.list]) hmem
  simp only [StageStorage.properties, List.mem_append] at hproperty
  rcases hproperty with ((hmem | hmem) | hmem) | hmem
  · obtain ⟨list, -, hlist⟩ := List.mem_flatMap.1 ((hdrawn.entered property).1 hmem)
    exact ⟨hentered hmem, hsolid list hlist⟩
  · refine ⟨mem_stageTypes_of_list (by simp) hmem, ?_⟩
    rcases (StageStorage.delivered_of_assignStage hdisjoint h).entries property hmem with
      hlist | hlist | hlist
    all_goals exact hsolid _ hlist
  · exact ⟨mem_stageTypes_of_list (by simp) hmem, hsolid _ (hdrawn.inner property hmem)⟩
  · -- A copy is made of a changed property, and that came in from outside.
    have hfilter := hdrawn.innerCopies property hmem
    have hsource : property ∈ plan.pipeline.sources.flatMap PropertyList.solid :=
      List.mem_flatMap.2 ⟨plan.pipeline.filter, by simp [Pipeline.sources], hfilter⟩
    exact ⟨hentered ((hdrawn.entered property).2 hsource), hsolid _ hfilter⟩

/-- What is collected is among the types of the stage, under the keys that the registry has. -/
lemma covers_of_declarationOrder {types : List TypeKey} {type : HostType}
    (hgrown : Grown base setting.catalogue draft.registry)
    (h : declarationOrder setting plan storage draft = .ok types draft')
    (htype : type ∈ (stageTypes plan storage).order) (hsolid : type.isVoid = false) :
    ∃ key ∈ types, draft'.registry.typeKey? type = some key := by
  suffices hloop : Grown base setting.catalogue draft'.registry ∧
      ∀ type ∈ (stageTypes plan storage).order.filter (!·.isVoid),
        ∃ key ∈ types, draft'.registry.typeKey? type = some key from
    hloop.2 type (List.mem_filter.2 ⟨htype, by simp [hsolid]⟩)
  refine (Outcome.steps_of_foldlM_states h).invariant
    (P := fun done now => Grown base setting.catalogue now.2.registry ∧
      ∀ type ∈ done, ∃ key ∈ now.1, now.2.registry.typeKey? type = some key) ?_ ⟨hgrown, by simp⟩
  rintro done type ⟨order, now⟩ ⟨order', next⟩ - ⟨hgrown, hdone⟩ hstep
  obtain ⟨conversion, next', hconvert, hstep⟩ := Outcome.bind_ok hstep
  obtain ⟨_, _, ⟨⟩, hstep⟩ := Outcome.bind_ok hstep
  obtain ⟨rfl, rfl⟩ := Outcome.pure_ok hstep
  obtain ⟨hregistry, -, hlookup⟩ := convert_ok hconvert
  have hgrows : Grows base setting.catalogue now.registry next'.registry := by
    rw [hregistry]
    exact Registry.grows_afterConvert hgrown
  have hkey := Registry.typeKey?_of_lookup? hlookup
  have hdeclares : next'.registry.Declares conversion.type order
      (next'.registry.declare next'.registry.types.size order conversion.type) :=
    Registry.declares_declare hgrows.grown.closed (Registry.typeKey?_lt hgrows.grown.closed hkey)
  refine ⟨hgrows.grown, fun other hother => ?_⟩
  rcases List.mem_append.1 hother with hother | hother
  · obtain ⟨key, hmem, hknown⟩ := hdone other hother
    exact ⟨key, Registry.subset_of_puts hdeclares.run hmem,
      hgrows.extends_start.typeKey? hgrown.closed hknown⟩
  · rw [List.mem_singleton.1 hother]
    exact ⟨conversion.type, hdeclares.mem, hkey⟩

end Drafting

/-! ## Types in types -/

namespace Registry

variable {base registry : Registry} {order before after : List TypeKey} {key other : TypeKey}

/-- The second type is that of a member of the first. -/
def Contains (registry : Registry) (key other : TypeKey) : Prop :=
  other ∈ (registry.type key).dependencies

lemma InOrder.dependencies_before (h : InOrder base registry order)
    (hsplit : order = before ++ key :: after) (hcontains : registry.Contains key other) :
    other ∈ before := by
  obtain ⟨hrun, -⟩ := h
  induction hrun generalizing before after with
  | refl => simp at hsplit
  | @tail order _ _ hstep ih =>
      obtain ⟨hnew, hbehind⟩ := hstep
      -- The type that was put last is the one at hand, or it stands behind it.
      rcases List.eq_nil_or_concat after with rfl | ⟨rest, last, rfl⟩
      · obtain ⟨rfl, hlast⟩ := List.append_inj' hsplit rfl
        cases hlast
        exact hbehind other hcontains
      · rw [List.concat_eq_append, ← List.cons_append, ← List.append_assoc] at hsplit
        exact ih (List.append_inj' hsplit rfl).1

/-- **Whatever a type contains, however deep, stands before it.** -/
lemma InOrder.contained_before (h : InOrder base registry order)
    (hsplit : order = before ++ key :: after)
    (hcontains : Relation.TransGen registry.Contains key other) : other ∈ before := by
  induction hcontains with
  | single hstep => exact h.dependencies_before hsplit hstep
  | @tail middle other _ hstep ih =>
      obtain ⟨front, back, rfl⟩ := List.append_of_mem ih
      have hmiddle : order = front ++ middle :: (back ++ key :: after) := by simp [hsplit]
      exact List.mem_append_left _ (h.dependencies_before hmiddle hstep)

end Registry

/-! ## The structs of a source -/

/-- The declaration of a struct. -/
def Registry.struct (registry : Registry) (key : TypeKey) : Declaration :=
  .struct (registry.type key).valueName (registry.type key).body

/-- What is registered later leaves the structs of earlier types as they are. -/
lemma Registry.Extends.structs {registry registry' : Registry} {order : List TypeKey}
    (hextends : registry.Extends registry') (hlt : ∀ key ∈ order, key.index < registry.types.size) :
    (order.filter registry'.isStruct).map registry'.struct =
      (order.filter registry.isStruct).map registry.struct := by
  have hsame : ∀ key ∈ order, registry'.type key = registry.type key :=
    fun key hkey => hextends.type (hlt key hkey)
  have hfilter : order.filter registry'.isStruct = order.filter registry.isStruct :=
    List.filter_congr fun key hkey => by rw [isStruct, isStruct, hsame key hkey]
  rw [hfilter]
  refine List.map_congr_left fun key hkey => ?_
  rw [struct, struct, hsame key (List.mem_filter.1 hkey).1]

namespace Drafting

variable {setting : Setting} {plans : List StagePlan} {plan : StagePlan} {storage : StageStorage}
  {source : StageSource} {draft draft' : Draft}

/-- A source declares the structs of its types in order, and behind them no struct. -/
lemma structs_of_writeStage
    (h : writeStage setting plans (plan, storage) draft = .ok source draft') :
    ∃ others,
      source.declarations =
        (storage.types.filter draft.registry.isStruct).map draft.registry.struct ++ others ∧
      ∀ declaration ∈ others, declaration.structName? = none := by
  obtain ⟨hregistry, -, hdeclared⟩ := yields_writeStage setting plans (plan, storage) _ _ _ h
  have hsource := hdeclared draft' (Draft.Later.refl draft')
  have hnames := draft'.structNames_declared setting plans plan storage
  obtain ⟨others, hothers⟩ : ∃ others,
      draft'.declared setting plans plan storage =
        (storage.types.filter draft'.registry.isStruct).map draft'.registry.struct ++ others := by
    rw [Draft.declared, Registry.structs_eq]
    simp only [List.append_assoc]
    exact ⟨_, rfl⟩
  rw [hothers, List.filterMap_append, List.filterMap_map] at hnames
  have hnone : others.filterMap Declaration.structName? = [] := by
    refine List.append_cancel_left (hnames.trans ?_)
    rw [List.append_nil]
    exact (congrFun List.filterMap_eq_map _).symm
  rw [← hregistry]
  exact ⟨others, hsource.trans hothers, List.filterMap_eq_nil_iff.1 hnone⟩

end Drafting

/-- **Types are declared before they are used, and once.**  Take a stage without a name in two
classes, which is checked before storage is assigned, and any registry whose keys point to records.

* No key is twice among the types of the stage, and all that a type contains stands before it.
* The types that its tasks report are there, unless they are void, as long as no task drops what
  another reported.  Those are the types of all their properties, if the tasks do not say otherwise.
* The types of all that it declares variables for are there.
* Its source begins with the structs of these types, in this order and one for each key.  No struct
  comes behind them, and everything else does.  It makes no difference what was registered in
  between. -/
theorem types_declared_first {setting : Setting} {plan : StagePlan} {previous : Option Handover}
    {last : Bool} {storage : StageStorage} {draft draft' : Draft}
    (hclosed : draft.registry.Closed) (hdisjoint : plan.checkDisjoint = .ok ())
    (h : Drafting.assignStage setting plan previous last draft = .ok storage draft') :
    storage.types.Nodup ∧
      (∀ before key after, storage.types = before ++ key :: after →
        ∀ other, Relation.TransGen draft'.registry.Contains key other → other ∈ before) ∧
      ((∀ task ∈ plan.tasks, task.KeepsTypes) → ∀ task ∈ plan.tasks, ∀ type, task.Reports type →
        type.isVoid = false → ∃ key ∈ storage.types, draft'.registry.typeKey? type = some key) ∧
      ((∀ task ∈ plan.tasks, task.collectTypes = task.lists.collectTypes) →
        ∀ task ∈ plan.tasks, ∀ property ∈ task.lists.all, property.type.isVoid = false →
          ∃ key ∈ storage.types, draft'.registry.typeKey? property.type = some key) ∧
      (∀ property ∈ storage.properties,
        ∃ key ∈ storage.types, draft'.registry.typeKey? property.type = some key) ∧
      ∀ plans later source final, draft'.registry.Extends later.registry →
        Drafting.writeStage setting plans (plan, storage) later = .ok source final →
          ∃ others, source.declarations =
              (storage.types.filter draft'.registry.isStruct).map draft'.registry.struct ++ others ∧
            ∀ declaration ∈ others, declaration.structName? = none := by
  obtain ⟨sorted, before, hreaches, horder, hstorage⟩ := Drafting.order_of_assignStage h
  have hgrown : Grown draft.registry setting.catalogue before.registry :=
    (hreaches.grows (Grown.refl hclosed)).grown
  have hgrown' : Grown draft.registry setting.catalogue draft'.registry :=
    ((Drafting.advances_assignStage setting plan previous last _ _ _ h).grows
      (Grown.refl hclosed)).grown
  have hinOrder := Drafting.inOrder_of_declarationOrder hgrown horder
  have hcovers : ∀ type ∈ (Drafting.stageTypes plan storage).order, type.isVoid = false →
      ∃ key ∈ storage.types, draft'.registry.typeKey? type = some key := by
    rw [hstorage]
    exact fun type => Drafting.covers_of_declarationOrder hgrown horder
  have hreported : (∀ task ∈ plan.tasks, task.KeepsTypes) → ∀ task ∈ plan.tasks, ∀ type,
      task.Reports type → type.isVoid = false →
        ∃ key ∈ storage.types, draft'.registry.typeKey? type = some key :=
    fun hkeeps task htask type hreports =>
      hcovers type (Drafting.mem_stageTypes_of_task hkeeps htask hreports)
  refine ⟨hinOrder.nodup, ?_, hreported, ?_, ?_, ?_⟩
  · intro front key back hsplit other
    exact hinOrder.contained_before hsplit
  · intro hdefault task htask property hproperty hsolid
    have hused : property ∈ task.lists.arguments := by
      simp only [TaskLists.all, TaskLists.arguments, List.mem_append] at hproperty ⊢
      tauto
    exact hreported (fun other hother => Task.keepsTypes_of_default (hdefault other hother)) task
      htask _ (Task.reports_of_default (hdefault task htask) hused) hsolid
  · intro property hproperty
    obtain ⟨htype, hsolid⟩ :=
      Drafting.walked_of_assignStage (StagePlan.disjoint_of_checkDisjoint hdisjoint) h hproperty
    exact hcovers _ htype hsolid
  · intro plans later source final hextends hwrite
    obtain ⟨others, hsource, hothers⟩ := Drafting.structs_of_writeStage hwrite
    have hlt : ∀ key ∈ storage.types, key.index < draft'.registry.types.size :=
      fun key hkey => (hinOrder.issued key hkey).lt hgrown'
    exact ⟨others, hsource.trans (congrArg (· ++ others) (hextends.structs hlt)), hothers⟩

/-- Dots are made in one task.  Another reads them and changes a tone that nothing reads after it. -/
def tonedPlan : StagePlan where
  request := .compute .empty {}
  pipeline :=
    { filter := .ofList [⟨"tone", .vec4⟩]
      inner := .ofList [⟨"dots", dotPair⟩]
      output := .ofList [⟨"color", .vec4⟩] }
  desired := .ofList [⟨"color", .vec4⟩]
  tasks := [.call "make" { outputs := .ofList [⟨"dots", dotPair⟩] },
    .call "shade"
      { inputs := .ofList [⟨"dots", dotPair⟩]
        filters := .ofList [⟨"tone", .vec4⟩]
        outputs := .ofList [⟨"color", .vec4⟩] }]

theorem types_declared_first_toned :
    tonedPlan.checkDisjoint = .ok () ∧
      ∃ storage draft' source final,
        Drafting.assignStage (dotted turnType) tonedPlan none true { registry := .ofBasics } =
          .ok storage draft' ∧
        Drafting.writeStage (dotted turnType) [tonedPlan] (tonedPlan, storage) draft' =
          .ok source final ∧
        storage.innerCopies.names = ["tone"] ∧
        source.structNames = ["Dot", "Pair4Dot7_d23b622eb6914b9e"] ∧
        storage.types.Nodup ∧
        (∀ task ∈ tonedPlan.tasks, ∀ property ∈ task.lists.all, property.type.isVoid = false →
          ∃ key ∈ storage.types, draft'.registry.typeKey? property.type = some key) ∧
        (∀ property ∈ storage.properties,
          ∃ key ∈ storage.types, draft'.registry.typeKey? property.type = some key) ∧
        ∃ others, source.declarations =
            (storage.types.filter draft'.registry.isStruct).map draft'.registry.struct ++ others ∧
          ∀ declaration ∈ others, declaration.structName? = none := by
  have hdisjoint : tonedPlan.checkDisjoint = .ok () := by rfl
  have htest : Outcome.passes (fun made : StageStorage × StageSource =>
        decide (made.1.innerCopies.names = ["tone"] ∧
          made.2.structNames = ["Dot", "Pair4Dot7_d23b622eb6914b9e"]))
      ((do
        let storage ← Drafting.assignStage (dotted turnType) tonedPlan none true
        let source ← Drafting.writeStage (dotted turnType) [tonedPlan] (tonedPlan, storage)
        return (storage, source)) { registry := .ofBasics }) = true := by decide +kernel
  obtain ⟨⟨storage, source⟩, _, hmade, htest⟩ := Outcome.exists_of_passes htest
  obtain ⟨hnames, hstructs⟩ := of_decide_eq_true htest
  obtain ⟨_, draft', hassign, hmade⟩ := Outcome.bind_ok hmade
  obtain ⟨_, written, hwrite, hmade⟩ := Outcome.bind_ok hmade
  obtain ⟨hpair, rfl⟩ := Outcome.pure_ok hmade
  cases hpair
  have hdefault : ∀ task ∈ tonedPlan.tasks, task.collectTypes = task.lists.collectTypes := by
    simp [tonedPlan, Task.call]
  obtain ⟨hnodup, -, -, htasks, hproperties, hsource⟩ :=
    types_declared_first Registry.closed_ofBasics hdisjoint hassign
  exact ⟨hdisjoint, storage, draft', source, written, hassign, hwrite, hnames, hstructs, hnodup,
    htasks hdefault, hproperties, hsource _ _ _ _ (Registry.Extends.refl _) hwrite⟩

end ShaderWeave
