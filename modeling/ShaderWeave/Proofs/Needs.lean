import ShaderWeave.Device.Headless
import ShaderWeave.Program.Compile
import ShaderWeave.Proofs.Bindings

/-!
# What a program needs

A linked program tells in two ways what has to be bound before it is used.  Its records are made
from the storage classes and the answers of the device, its lists from the plans of the stages.
**The two agree:** what is listed has a record, and what the device does not know is in neither.

* `locateAll` — what a device says when it is asked for the resources of a program, one after the
  other.
* `Building.findings_of_query` — the records are the answers with a location, in the same order.
* `SourceLists.mem_list_collect` — which names are listed, and where.
* `Program.Accounts` — what it means that lists, records and answers agree;
  `accounts_of_compile` — they do in every program that is compiled, on every device.
-/

namespace ShaderWeave

/-! ## Asking for resources -/

/-- What a device says of a resource: where it is, if the program has it. -/
structure Finding where
  cls : StorageClass
  property : Property
  location : Option Nat
deriving DecidableEq

namespace StorageClass

/-- All storage classes, in the order in which a device is asked for them. -/
def all : List StorageClass := [uniform, sampler, uniformBlock, storageBlock]

/-- The question for a resource.  A block has a name of its own; all else goes by its variable. -/
def question (program : ProgramName) (name : String) : StorageClass → Request (Option Nat)
  | uniform => .uniformLocation program (Mark.uniform ++ name)
  | sampler => .uniformLocation program (Mark.sampler ++ name)
  | uniformBlock => .blockIndex .uniform program (Mark.uniformBlock ++ name)
  | storageBlock => .blockIndex .storage program (Mark.storageBlock ++ name)

lemma mem_all (cls : StorageClass) : cls ∈ all := by cases cls <;> decide

end StorageClass

/-- The question for the resource that is declared. -/
def Declaration.question? (program : ProgramName) : Declaration → Option (Request (Option Nat))
  | .uniform _ name => some (.uniformLocation program name)
  | .sampler _ _ name => some (.uniformLocation program name)
  | .uniformBlock _ block _ _ => some (.blockIndex .uniform program block)
  | .storageBlock _ _ _ block _ _ => some (.blockIndex .storage program block)
  | _ => none

/-- The resources of a program, in the order in which a device is asked for them. -/
def ProgramStorage.resources (program : ProgramStorage) : List (StorageClass × Property) :=
  StorageClass.all.flatMap fun cls => (program.list cls).entries.map (cls, ·)

section Locating

variable {σ : Type} [Device σ] (program : ProgramName)

/-- Asks a device for resources, one after the other. -/
def locateAll : List (StorageClass × Property) → σ → List Finding × σ
  | [], device => ([], device)
  | (cls, property) :: rest, device =>
    let answer := ask (cls.question program property.name) device
    let others := locateAll rest answer.2
    (⟨cls, property, answer.1⟩ :: others.1, others.2)

lemma locateAll_append (first second : List (StorageClass × Property)) (device : σ) :
    locateAll program (first ++ second) device =
      ((locateAll program first device).1 ++
          (locateAll program second (locateAll program first device).2).1,
        (locateAll program second (locateAll program first device).2).2) := by
  induction first generalizing device with
  | nil => rfl
  | cons resource rest ih =>
      simp only [List.cons_append, locateAll, ih]

/-- Every resource is asked for once. -/
lemma map_locateAll (resources : List (StorageClass × Property)) (device : σ) :
    (locateAll program resources device).1.map (fun finding => (finding.cls, finding.property))
      = resources := by
  induction resources generalizing device with
  | nil => rfl
  | cons resource rest ih =>
      simp only [locateAll, List.map_cons, ih]

end Locating

namespace Finding

/-- The findings with a location. -/
def present (findings : List Finding) : List Finding :=
  findings.filter fun finding => finding.location.isSome

/-- The names of the findings without one. -/
def lost (findings : List Finding) : List String :=
  (findings.filter fun finding => finding.location.isNone).map fun finding => finding.property.name

lemma present_append (first second : List Finding) :
    present (first ++ second) = present first ++ present second :=
  List.filter_append ..

lemma lost_append (first second : List Finding) :
    lost (first ++ second) = lost first ++ lost second := by
  simp only [lost, List.filter_append, List.map_append]

end Finding

/-! ## Records -/

/-- The record of a uniform as a finding. -/
def UniformRecord.finding (record : UniformRecord) : Finding :=
  ⟨.uniform, record.property, some record.location⟩

/-- A record with a binding point as a finding. -/
def BindingRecord.finding (cls : StorageClass) (record : BindingRecord) : Finding :=
  ⟨cls, record.property, some record.location⟩

/-- All records of a linked program. -/
def LinkedStorage.findings (linked : LinkedStorage) : List Finding :=
  linked.uniforms.map UniformRecord.finding
    ++ linked.samplers.map (BindingRecord.finding .sampler)
    ++ linked.uniformBlocks.map (BindingRecord.finding .uniformBlock)
    ++ linked.storageBlocks.map (BindingRecord.finding .storageBlock)

namespace Building

variable {σ : Type} [Device σ] {program : ProgramName} {storage : ProgramStorage}
  {site site' : Site σ}

lemma request_ok {α : Type} (question : Request α) (site : Site σ) :
    request question site
      = .ok (ask question site.device).1 { site with device := (ask question site.device).2 } :=
  rfl

/-- The device was asked for resources, and what it said was put down: what has a location is kept,
and what has none is lost. -/
structure Asks {β : Type} (kept : β → List Finding) (lost : β → List String) (program : ProgramName)
    (resources : List (StorageClass × Property)) (now next : β × Site σ) : Prop where
  kept : kept next.1 = kept now.1 ++ Finding.present (locateAll program resources now.2.device).1
  lost : lost next.1 = lost now.1 ++ Finding.lost (locateAll program resources now.2.device).1
  device : next.2.device = (locateAll program resources now.2.device).2

section Loop

variable {β : Type} {kept : β → List Finding} {lost : β → List String}
  {first second : List (StorageClass × Property)}

lemma Asks.nil (now : β × Site σ) : Asks kept lost program [] now now :=
  ⟨(List.append_nil _).symm, (List.append_nil _).symm, rfl⟩

lemma Asks.append {before now next : β × Site σ} (h : Asks kept lost program first before now)
    (h' : Asks kept lost program second now next) :
    Asks kept lost program (first ++ second) before next := by
  constructor
  · rw [h'.kept, h.kept, h.device, locateAll_append, Finding.present_append, List.append_assoc]
  · rw [h'.lost, h.lost, h.device, locateAll_append, Finding.lost_append, List.append_assoc]
  · rw [h'.device, h.device, locateAll_append]

/-- A loop that asks for one property after the other asks for all of them. -/
lemma asks_of_foldlM {cls : StorageClass} {properties : List Property}
    {step : β → Property → Building σ β} {b b' : β}
    (hstep : ∀ property ∈ properties, ∀ now next, step now.1 property now.2 = .ok next.1 next.2 →
      Asks kept lost program [(cls, property)] now next)
    (h : properties.foldlM step b site = .ok b' site') :
    Asks kept lost program (properties.map (cls, ·)) (b, site) (b', site') := by
  refine (Outcome.steps_of_foldlM_states h).invariant
    (P := fun done now => Asks kept lost program (done.map (cls, ·)) (b, site) now) ?_
    (Asks.nil _)
  intro done property now next hfront hasks hok
  have hmem : property ∈ properties := hfront.subset (by simp)
  rw [List.map_append, List.map_singleton]
  exact hasks.append (hstep property hmem now next hok)

end Loop

lemma asks_of_queryUniform {property : Property} {now next : LinkedStorage × Site σ}
    (h : queryUniform program now.1 property now.2 = .ok next.1 next.2) :
    Asks (fun linked => linked.uniforms.map UniformRecord.finding) LinkedStorage.eliminated program
      [(.uniform, property)] now next := by
  obtain ⟨linked, before⟩ := now
  obtain ⟨linked', after⟩ := next
  rw [queryUniform, Outcome.bind_of_ok (request_ok _ _)] at h
  cases hlocation :
      (ask (Request.uniformLocation program (Mark.uniform ++ property.name)) before.device).1 with
  | some location =>
      simp only [hlocation] at h
      obtain ⟨rfl, rfl⟩ := Outcome.pure_ok h
      refine ⟨?_, ?_, rfl⟩
      · simp [Finding.present, locateAll, StorageClass.question, hlocation, UniformRecord.finding]
      · simp [Finding.lost, locateAll, StorageClass.question, hlocation]
  | none =>
      simp only [hlocation] at h
      obtain ⟨_, reported, ⟨⟩, h⟩ := Outcome.bind_ok h
      obtain ⟨rfl, rfl⟩ := Outcome.pure_ok h
      refine ⟨?_, ?_, rfl⟩
      · simp [Finding.present, locateAll, StorageClass.question, hlocation]
      · simp [Finding.lost, locateAll, StorageClass.question, hlocation]

/-- Properties with binding points are lost only where the device does not know them. -/
lemma asks_of_queryBindings (cls : StorageClass) (hne : cls ≠ .uniform)
    (hbound : ∀ name ∈ storage.boundNames, storage.binding? name ≠ none)
    {found : List BindingRecord × List String}
    (h : queryBindings storage (fun name => cls.question program name) (storage.list cls).entries
      site = .ok found site') :
    Asks (fun found => found.1.map (BindingRecord.finding cls)) Prod.snd program
      ((storage.list cls).entries.map (cls, ·)) (([], []), site) (found, site') := by
  refine asks_of_foldlM ?_ h
  rintro property hmem ⟨found, before⟩ ⟨found', after⟩ hok
  obtain ⟨binding, hbinding⟩ := Option.ne_none_iff_exists'.1 (hbound property.name
    (ProgramStorage.mem_boundNames.2 ⟨cls, hne, PropertyList.name_mem_names hmem⟩))
  rw [Outcome.bind_of_ok (request_ok _ _)] at hok
  simp only [hbinding] at hok
  cases hlocation : (ask (cls.question program property.name) before.device).1 with
  | some location =>
      simp only [hlocation] at hok
      obtain ⟨rfl, rfl⟩ := Outcome.pure_ok hok
      refine ⟨?_, ?_, rfl⟩
      · simp [Finding.present, locateAll, hlocation, BindingRecord.finding]
      · simp [Finding.lost, locateAll, hlocation]
  | none =>
      simp only [hlocation] at hok
      obtain ⟨rfl, rfl⟩ := Outcome.pure_ok hok
      refine ⟨?_, ?_, rfl⟩
      · simp [Finding.present, locateAll, hlocation]
      · simp [Finding.lost, locateAll, hlocation]

/-- **The records are the answers with a location,** and what has none is eliminated. -/
lemma findings_of_query {linked : LinkedStorage}
    (hbound : ∀ name ∈ storage.boundNames, storage.binding? name ≠ none)
    (h : query program storage site = .ok linked site') :
    linked.findings = Finding.present (locateAll program storage.resources site.device).1 ∧
      linked.eliminated = Finding.lost (locateAll program storage.resources site.device).1 := by
  obtain ⟨uniforms, site₁, huniforms, h⟩ := Outcome.bind_ok h
  obtain ⟨samplers, site₂, hsamplers, h⟩ := Outcome.bind_ok h
  obtain ⟨uniformBlocks, site₃, huniformBlocks, h⟩ := Outcome.bind_ok h
  obtain ⟨storageBlocks, site₄, hstorageBlocks, h⟩ := Outcome.bind_ok h
  obtain ⟨_, site₅, -, h⟩ := Outcome.bind_ok h
  obtain ⟨rfl, -⟩ := Outcome.pure_ok h
  obtain ⟨hkept₁, hlost₁, hdevice₁⟩ :=
    asks_of_foldlM (fun _ _ _ _ hok => asks_of_queryUniform hok) huniforms
  obtain ⟨hkept₂, hlost₂, hdevice₂⟩ := asks_of_queryBindings .sampler (by decide) hbound hsamplers
  obtain ⟨hkept₃, hlost₃, hdevice₃⟩ :=
    asks_of_queryBindings .uniformBlock (by decide) hbound huniformBlocks
  obtain ⟨hkept₄, hlost₄, -⟩ :=
    asks_of_queryBindings .storageBlock (by decide) hbound hstorageBlocks
  have hresources : storage.resources = storage.uniforms.entries.map (StorageClass.uniform, ·) ++
      ((storage.list .sampler).entries.map (StorageClass.sampler, ·) ++
        ((storage.list .uniformBlock).entries.map (StorageClass.uniformBlock, ·) ++
          (storage.list .storageBlock).entries.map (StorageClass.storageBlock, ·))) := by
    simp [ProgramStorage.resources, StorageClass.all, ProgramStorage.list]
  simp only [List.map_nil, List.nil_append]
    at hkept₁ hkept₂ hkept₃ hkept₄ hlost₁ hlost₂ hlost₃ hlost₄ hdevice₁ hdevice₂ hdevice₃
  simp only [hresources, locateAll_append, ← hdevice₁, ← hdevice₂, ← hdevice₃]
  constructor
  · simp only [Finding.present_append, ← hkept₁, ← hkept₂, ← hkept₃, ← hkept₄,
      LinkedStorage.findings, List.append_assoc]
  · simp only [Finding.lost_append, ← hlost₁, ← hlost₂, ← hlost₃, ← hlost₄, List.append_assoc]

end Building

/-! ## Lists -/

/-- What becomes of a property from outside. -/
inductive Need where
  | read | changed | usedUp
deriving DecidableEq

/-- What the stages of a program do to a property. -/
def Need.of (plans : List StagePlan) (name : String) : Need :=
  if plans.any fun plan => plan.pipeline.consuming.contains name then .usedUp
  else if plans.any fun plan =>
      plan.pipeline.filter.contains name || plan.pipeline.output.contains name then .changed
  else .read

lemma Need.of_eq_usedUp {plans : List StagePlan} {name : String} :
    Need.of plans name = .usedUp ↔ ∃ plan ∈ plans, name ∈ plan.pipeline.consuming.names := by
  unfold Need.of
  split_ifs with hused hchanged
  · simpa using hused
  · simpa using hused
  · simpa using hused

lemma Need.of_eq_changed {plans : List StagePlan} {name : String} :
    Need.of plans name = .changed ↔ (∀ plan ∈ plans, name ∉ plan.pipeline.consuming.names) ∧
      ∃ plan ∈ plans, name ∈ plan.pipeline.filter.names ∨ name ∈ plan.pipeline.output.names := by
  unfold Need.of
  split_ifs with hused hchanged
  · simp only [false_iff, not_and_or, not_forall]
    exact Or.inl (by simpa using hused)
  · simp only [true_iff]
    exact ⟨by simpa using hused, by simpa using hchanged⟩
  · simp only [false_iff, not_and_or]
    exact Or.inr (by simpa using hchanged)

/-- A result of some stage is not only read. -/
lemma Need.of_ne_read {plans : List StagePlan} {plan : StagePlan} {name : String}
    (hplan : plan ∈ plans) (hout : name ∈ plan.pipeline.output.names) :
    Need.of plans name ≠ .read := by
  unfold Need.of
  split_ifs with hused hchanged
  · decide
  · decide
  · refine absurd ?_ hchanged
    simp only [List.any_eq_true, Bool.or_eq_true, PropertyList.contains_iff]
    exact ⟨plan, hplan, Or.inr hout⟩

namespace SourceLists

variable {plans : List StagePlan} {lists : SourceLists} {name : String} {need : Need}

/-- The list for what becomes of a property. -/
def list (lists : SourceLists) : Need → PropertyList
  | .read => lists.inputs
  | .changed => lists.filters
  | .usedUp => lists.consuming

/-- A property goes to the list for what becomes of its name. -/
lemma list_add (plans : List StagePlan) (lists : SourceLists) (property : Property) (need : Need) :
    (add plans lists property).list need =
      if need = Need.of plans property.name then (lists.list need).insert property
      else lists.list need := by
  unfold add Need.of
  dsimp only
  split_ifs <;> cases need <;> first | rfl | contradiction

lemma mem_list_foldl {properties : List Property} :
    name ∈ ((properties.foldl (add plans) lists).list need).names ↔
      name ∈ (lists.list need).names ∨
        need = Need.of plans name ∧ ∃ p ∈ properties, p.name = name := by
  induction properties generalizing lists with
  | nil => simp
  | cons p rest ih =>
      rw [List.foldl_cons, ih, list_add]
      by_cases hname : p.name = name
      · subst hname
        by_cases hneed : need = Need.of plans p.name
        · simp [hneed]
        · simp [hneed]
      · split_ifs
        · simp [hname, Ne.symm hname]
        · simp [hname]

lemma mem_entries_of_foldl {properties : List Property} {p : Property}
    (h : p ∈ ((properties.foldl (add plans) lists).list need).entries) :
    p ∈ (lists.list need).entries ∨ p ∈ properties := by
  induction properties generalizing lists with
  | nil => exact Or.inl h
  | cons q rest ih =>
      rcases ih h with hp | hp
      · rw [list_add] at hp
        split_ifs at hp
        · rcases PropertyList.mem_entries_of_insert hp with hp | rfl
          · exact Or.inl hp
          · exact Or.inr List.mem_cons_self
        · exact Or.inl hp
      · exact Or.inr (List.mem_cons_of_mem _ hp)

variable {program : ProgramStorage} {linked : LinkedStorage}

/-- A source is needed: it is a token, or it has a storage class and was not lost. -/
def Needed (program : ProgramStorage) (linked : LinkedStorage) (property : Property) : Prop :=
  property.isVoid = true ∨
    (∃ cls, property.name ∈ (program.list cls).names) ∧ property.name ∉ linked.eliminated

lemma mem_sources {property : Property} :
    property ∈ (plans.flatMap fun plan => plan.pipeline.sourceProperties).filter
        (fun property => property.isVoid ||
          ((program.class? property.name).isSome && !linked.eliminated.contains property.name)) ↔
      (∃ plan ∈ plans, property ∈ plan.pipeline.sourceProperties) ∧
        Needed program linked property := by
  have hclass : (program.class? property.name).isSome = true ↔
      ∃ cls, property.name ∈ (program.list cls).names := by
    rw [Option.isSome_iff_ne_none, Ne, ProgramStorage.class?_eq_none]
    simp
  simp only [List.mem_filter, List.mem_flatMap, Bool.or_eq_true, Bool.and_eq_true, hclass,
    Bool.not_eq_true', List.contains_eq_mem, decide_eq_false_iff_not, Needed]

/-- **Which names are listed:** those of needed sources, each in the list for what becomes of it. -/
lemma mem_list_collect :
    name ∈ ((collect plans program linked).list need).names ↔
      need = Need.of plans name ∧ ∃ plan ∈ plans, ∃ p ∈ plan.pipeline.sourceProperties,
        p.name = name ∧ Needed program linked p := by
  rw [collect, mem_list_foldl]
  simp only [mem_sources]
  have hfresh : name ∉ (({} : SourceLists).list need).names := by
    cases need <;> exact List.not_mem_nil
  constructor
  · rintro (h | ⟨rfl, p, ⟨⟨plan, hplan, hp⟩, hneeded⟩, hname⟩)
    · exact absurd h hfresh
    · exact ⟨rfl, plan, hplan, p, hp, hname, hneeded⟩
  · rintro ⟨rfl, plan, hplan, p, hp, hname, hneeded⟩
    exact Or.inr ⟨rfl, p, ⟨⟨plan, hplan, hp⟩, hneeded⟩, hname⟩

/-- Whatever is listed is needed. -/
lemma needed_of_mem_collect {p : Property}
    (h : p ∈ ((collect plans program linked).list need).entries) : Needed program linked p := by
  rcases mem_entries_of_foldl h with h | h
  · cases need <;> exact absurd h List.not_mem_nil
  · exact (mem_sources.1 h).2

end SourceLists

/-! ## Lists and records of a compiled program -/

lemma ProgramStorage.mem_resources {program : ProgramStorage} {cls : StorageClass}
    {property : Property} :
    (cls, property) ∈ program.resources ↔ property ∈ (program.list cls).entries := by
  simp only [resources, List.mem_flatMap, List.mem_map, Prod.mk.injEq]
  constructor
  · rintro ⟨_, -, _, hmem, rfl, rfl⟩
    exact hmem
  · exact fun hmem => ⟨cls, cls.mem_all, property, hmem, rfl, rfl⟩

/-- No two resources share a name. -/
lemma ProgramStorage.Apart.nodup_resources {program : ProgramStorage} (h : program.Apart) :
    (program.resources.map fun resource => resource.2.name).Nodup := by
  have hnames : (program.resources.map fun resource => resource.2.name)
      = StorageClass.all.flatMap fun cls => (program.list cls).names := by
    simp only [resources, List.map_flatMap, List.map_map, PropertyList.names]
    rfl
  rw [hnames, List.nodup_flatMap]
  refine ⟨fun cls _ => (program.list cls).nodup, ?_⟩
  have hall : StorageClass.all.Nodup := by decide
  refine hall.imp ?_
  intro cls cls' hne name hname hname'
  exact hne (h hname hname')

namespace Finding

variable {findings : List Finding} {finding : Finding}

lemma mem_present : finding ∈ present findings ↔ finding ∈ findings ∧ finding.location ≠ none := by
  rw [present, List.mem_filter, Option.isSome_iff_ne_none]

/-- Where every name was asked for once, a name is lost exactly if it was not found. -/
lemma mem_lost (hnodup : (findings.map fun finding => finding.property.name).Nodup)
    (hmem : finding ∈ findings) :
    finding.property.name ∈ lost findings ↔ finding.location = none := by
  simp only [lost, List.mem_map, List.mem_filter, Option.isNone_iff_eq_none]
  constructor
  · rintro ⟨other, ⟨hother, hnone⟩, hname⟩
    rwa [← List.inj_on_of_nodup_map hnodup hother hmem hname]
  · exact fun hnone => ⟨finding, ⟨hmem, hnone⟩, rfl⟩

lemma mem_names_present (hnodup : (findings.map fun finding => finding.property.name).Nodup)
    (hmem : finding ∈ findings) :
    finding.property.name ∈ (present findings).map (fun finding => finding.property.name) ↔
      finding.location ≠ none := by
  simp only [List.mem_map, mem_present]
  constructor
  · rintro ⟨other, ⟨hother, hsome⟩, hname⟩
    rwa [← List.inj_on_of_nodup_map hnodup hother hmem hname]
  · exact fun hsome => ⟨finding, ⟨hmem, hsome⟩, rfl⟩

end Finding

lemma Pipeline.mem_sourceProperties_of_solid {pipeline : Pipeline} {property : Property}
    (h : property ∈ pipeline.sources.flatMap PropertyList.solid) :
    property ∈ pipeline.sourceProperties ∧ property.isVoid = false := by
  obtain ⟨list, hlist, hsolid⟩ := List.mem_flatMap.1 h
  obtain ⟨hmem, hdata⟩ := PropertyList.mem_solid.1 hsolid
  exact ⟨List.mem_flatMap.2 ⟨list, hlist, hmem⟩, hdata⟩

namespace Drafting

variable {setting : Setting} {requests : List StageRequest} {desired : PropertyList}
  {made : Blueprint} {start planned assigned final : Draft} {i : Nat} {storage : StageStorage}

/-- A blueprint has a storage and a source for each plan. -/
lemma Parts.lengths (h : Parts setting requests desired made start planned assigned final) :
    made.storages.length = made.plans.length ∧ made.sources.length = made.plans.length := by
  obtain ⟨-, -, hwritten⟩ :=
    Yields.mapM (yields_writeStage setting made.plans) (made.plans.zip made.storages)
      assigned made.sources final h.write
  have hlength := (hwritten final (Draft.Later.refl final)).length_eq
  have hplans := length_of_assignStages h.assign
  rw [List.length_zip, hplans, min_self] at hlength
  exact ⟨hplans, hlength.symm⟩

/-- Every storage of a blueprint has a plan and a source. -/
lemma Parts.exists_at (h : Parts setting requests desired made start planned assigned final)
    (hstorage : made.storages[i]? = some storage) :
    ∃ plan source, made.At i plan storage source := by
  obtain ⟨hstorages, hsources⟩ := h.lengths
  have hlt := (List.getElem?_eq_some_iff.1 hstorage).1
  exact ⟨_, _, List.getElem?_eq_getElem (hstorages ▸ hlt), hstorage,
    List.getElem?_eq_getElem (hsources ▸ hstorages ▸ hlt)⟩

/-- Every source of a blueprint has a plan and a storage. -/
lemma Parts.exists_at_source (h : Parts setting requests desired made start planned assigned final)
    {source : StageSource} (hsource : made.sources[i]? = some source) :
    ∃ plan storage, made.At i plan storage source := by
  obtain ⟨hstorages, hsources⟩ := h.lengths
  have hlt := (List.getElem?_eq_some_iff.1 hsource).1
  exact ⟨_, _, List.getElem?_eq_getElem (hsources ▸ hlt),
    List.getElem?_eq_getElem (hstorages.symm ▸ hsources ▸ hlt), hsource⟩

/-- What has a storage class is a source of some stage, and carries data. -/
lemma Finished.exists_source (h : Finished setting made final) {cls : StorageClass} {name : String}
    (hname : name ∈ (made.program.list cls).names) :
    ∃ plan ∈ made.plans, ∃ p ∈ plan.pipeline.sourceProperties,
      p.name = name ∧ p.isVoid = false := by
  obtain ⟨storage, hstorage, hmem⟩ := h.added cls name hname
  obtain ⟨i, hi⟩ := List.mem_iff_getElem?.1 hstorage
  have hlt := (List.getElem?_eq_some_iff.1 hi).1
  obtain ⟨plan, hplan⟩ : ∃ plan, made.plans[i]? = some plan :=
    ⟨_, List.getElem?_eq_getElem (h.length ▸ hlt)⟩
  obtain ⟨p, hp, rfl⟩ := PropertyList.mem_names.1 hmem
  obtain ⟨hsource, hdata⟩ :=
    Pipeline.mem_sourceProperties_of_solid (((h.sorted hplan hi).lists cls p).1 hp).1
  exact ⟨plan, List.mem_of_getElem? hplan, p, hsource, rfl, hdata⟩

end Drafting

/-- **How a program comes from its blueprint:** the device says what it knows of the resources, and
records and lists are made from that. -/
structure Program.Queried (made : Blueprint) (told : List Finding) (program : Program) : Prop where
  asked : told.map (fun finding => (finding.cls, finding.property)) = made.program.resources
  records : program.storage.findings = Finding.present told
  eliminated : program.storage.eliminated = Finding.lost told
  needs : program.needs = .collect made.plans made.program program.storage

/-- A compile builds the texts of its blueprint, asks for the resources, and collects the lists. -/
lemma queried_of_compile {σ : Type} [Device σ] {setting : Setting} {requests : List StageRequest}
    {desired : PropertyList} {workshop workshop' : Workshop σ} {made : Blueprint} {draft : Draft}
    {program : Program}
    (hmade : Drafting.blueprint setting (Device.info workshop.device) requests desired
      workshop.draft = .ok made draft)
    (h : compile setting requests desired workshop = .ok program workshop') :
    ∃ site, Building.build made.texts ⟨workshop.device, draft.events⟩ = .ok program.name site ∧
      program.Queried made (locateAll program.name made.program.resources site.device).1 := by
  obtain ⟨start, planned, assigned, hparts⟩ := Drafting.parts_of_blueprint hmade
  have hfinished := Drafting.finished_of_parts hparts
  simp only [compile, hmade] at h
  cases hprogram : Building.program made desired ⟨(workshop.settle draft).device,
      (workshop.settle draft).events⟩ with
  | error error site => simp only [hprogram] at h; exact absurd h (by rintro ⟨⟩)
  | ok found after =>
      simp only [hprogram, EStateM.Result.ok.injEq] at h
      obtain ⟨rfl, -⟩ := h
      obtain ⟨name, site, hbuild, hprogram⟩ := Outcome.bind_ok hprogram
      obtain ⟨linked, site', hquery, hprogram⟩ := Outcome.bind_ok hprogram
      obtain ⟨rfl, -⟩ := Outcome.pure_ok hprogram
      obtain ⟨hrecords, hlost⟩ := Building.findings_of_query (fun name hname =>
        ProgramStorage.binding?_ne_none.2 (hfinished.mem_bindings.2 hname)) hquery
      exact ⟨site, hbuild, map_locateAll _ _ _, hrecords, hlost, rfl⟩

namespace Program.Queried

variable {made : Blueprint} {told : List Finding} {program : Program} {name : String}

lemma nodup (h : program.Queried made told) (hapart : made.program.Apart) :
    (told.map fun finding => finding.property.name).Nodup := by
  have hnames : told.map (fun finding => finding.property.name)
      = made.program.resources.map fun resource => resource.2.name := by
    rw [← h.asked, List.map_map]
    rfl
  rw [hnames]
  exact hapart.nodup_resources

lemma classed (h : program.Queried made told) {finding : Finding} (hmem : finding ∈ told) :
    finding.property.name ∈ (made.program.list finding.cls).names := by
  refine PropertyList.name_mem_names (ProgramStorage.mem_resources.1 ?_)
  rw [← h.asked]
  exact List.mem_map_of_mem hmem

lemma exists_finding (h : program.Queried made told) {cls : StorageClass}
    (hname : name ∈ (made.program.list cls).names) :
    ∃ finding ∈ told, finding.property.name = name := by
  obtain ⟨p, hp, rfl⟩ := PropertyList.mem_names.1 hname
  have hresource := ProgramStorage.mem_resources.2 hp
  rw [← h.asked] at hresource
  obtain ⟨finding, hmem, heq⟩ := List.mem_map.1 hresource
  exact ⟨finding, hmem, congrArg (fun resource => resource.2.name) heq⟩

/-- A property with data is needed exactly if the device knows it. -/
lemma needed_iff (h : program.Queried made told) (hapart : made.program.Apart) {p : Property} :
    SourceLists.Needed made.program program.storage p ↔
      p.isVoid = true ∨
        ∃ finding ∈ told, finding.property.name = p.name ∧ finding.location ≠ none := by
  rw [SourceLists.Needed, h.eliminated]
  refine or_congr_right ?_
  constructor
  · rintro ⟨⟨cls, hname⟩, hkept⟩
    obtain ⟨finding, hmem, heq⟩ := h.exists_finding hname
    refine ⟨finding, hmem, heq, ?_⟩
    rwa [← heq, Finding.mem_lost (h.nodup hapart) hmem] at hkept
  · rintro ⟨finding, hmem, heq, hsome⟩
    rw [← heq, Finding.mem_lost (h.nodup hapart) hmem]
    exact ⟨⟨finding.cls, h.classed hmem⟩, hsome⟩

/-- **Which names are listed.** -/
lemma mem_list_iff (h : program.Queried made told) (hapart : made.program.Apart) {need : Need} :
    name ∈ (program.needs.list need).names ↔
      need = Need.of made.plans name ∧ ∃ plan ∈ made.plans, ∃ p ∈ plan.pipeline.sourceProperties,
        p.name = name ∧ (p.isVoid = true ∨
          ∃ finding ∈ told, finding.property.name = name ∧ finding.location ≠ none) := by
  rw [h.needs, SourceLists.mem_list_collect]
  refine and_congr_right fun _ => ?_
  constructor
  · rintro ⟨plan, hplan, p, hp, rfl, hneeded⟩
    exact ⟨plan, hplan, p, hp, rfl, (h.needed_iff hapart).1 hneeded⟩
  · rintro ⟨plan, hplan, p, hp, rfl, hneeded⟩
    exact ⟨plan, hplan, p, hp, rfl, (h.needed_iff hapart).2 hneeded⟩

/-- What the device knows is listed. -/
lemma mem_list_of_found (h : program.Queried made told) {setting : Setting} {final : Draft}
    (hfinished : Drafting.Finished setting made final) {finding : Finding} (hmem : finding ∈ told)
    (hsome : finding.location ≠ none) :
    finding.property.name
      ∈ (program.needs.list (Need.of made.plans finding.property.name)).names := by
  obtain ⟨plan, hplan, p, hp, hname, -⟩ := hfinished.exists_source (h.classed hmem)
  exact (h.mem_list_iff hfinished.apart).2
    ⟨rfl, plan, hplan, p, hp, hname, Or.inr ⟨finding, hmem, rfl, hsome⟩⟩

end Program.Queried

/-- A resource is asked for by the name that a stage declares it with. -/
lemma Drafting.Parts.exists_declaration {setting : Setting} {requests : List StageRequest}
    {desired : PropertyList} {made : Blueprint} {start planned assigned final : Draft}
    (h : Parts setting requests desired made start planned assigned final) (program : ProgramName)
    {cls : StorageClass} {name : String} (hname : name ∈ (made.program.list cls).names) :
    ∃ source ∈ made.sources, ∃ declaration ∈ source.declarations,
      declaration.question? program = some (cls.question program name) := by
  have hfinished := finished_of_parts h
  obtain ⟨storage, hstorage, hmem⟩ := hfinished.added cls name hname
  obtain ⟨i, hi⟩ := List.mem_iff_getElem?.1 hstorage
  obtain ⟨plan, source, hat⟩ := h.exists_at hi
  obtain ⟨p, hp, rfl⟩ := PropertyList.mem_names.1 hmem
  refine ⟨source, List.mem_of_getElem? hat.source, final.resource made.plans p cls, ?_, ?_⟩
  · rw [hfinished.declared hat]
    exact final.mem_declared.2 (Or.inr (Or.inl ⟨cls, p, hp, rfl⟩))
  · cases cls <;> rfl

/-- No source is a token in one stage and data in another. -/
def Blueprint.Steady (made : Blueprint) : Prop :=
  ∀ plan ∈ made.plans, ∀ plan' ∈ made.plans, ∀ p ∈ plan.pipeline.sourceProperties,
    ∀ q ∈ plan'.pipeline.sourceProperties, p.name = q.name → p.isVoid = q.isVoid

instance (made : Blueprint) : Decidable made.Steady :=
  inferInstanceAs (Decidable (∀ plan ∈ made.plans, ∀ plan' ∈ made.plans,
    ∀ p ∈ plan.pipeline.sourceProperties, ∀ q ∈ plan'.pipeline.sourceProperties,
      p.name = q.name → p.isVoid = q.isVoid))

/-- **What a program needs is what it has records of.**  `told` is what the device said of the
resources. -/
structure Program.Accounts (made : Blueprint) (told : List Finding) (program : Program) : Prop where
  /-- The device was asked for every classified property once. -/
  asked : told.map (fun finding => (finding.cls, finding.property)) = made.program.resources
  /-- What it was asked for is what the source of some stage declares. -/
  declared : ∀ finding ∈ told, ∃ source ∈ made.sources, ∃ declaration ∈ source.declarations,
    declaration.question? program.name
      = some (finding.cls.question program.name finding.property.name)
  /-- The records are the answers with a location. -/
  records : program.storage.findings = Finding.present told
  /-- No name is in two lists. -/
  apart : ∀ name need need', name ∈ (program.needs.list need).names →
    name ∈ (program.needs.list need').names → need = need'
  /-- What is listed and carries data has one record. -/
  recorded : ∀ need, ∀ p ∈ (program.needs.list need).entries, p.isVoid = false →
    (program.storage.findings.map fun record => record.property.name).count p.name = 1
  /-- Every record is in one list. -/
  listed : ∀ record ∈ program.storage.findings,
    ∃! need, record.property.name ∈ (program.needs.list need).names
  /-- A classified property has no record exactly if the device does not know it, … -/
  unrecorded : ∀ finding ∈ told, finding.location = none ↔
    finding.property.name ∉ program.storage.findings.map fun record => record.property.name
  /-- … and exactly then it is in no list. -/
  unlisted : ∀ finding ∈ told, finding.location = none ↔
    ∀ need, finding.property.name ∉ (program.needs.list need).names
  /-- Being used up by any stage counts most, … -/
  usedUp : ∀ name need, name ∈ (program.needs.list need).names →
    (need = .usedUp ↔ ∃ plan ∈ made.plans, name ∈ plan.pipeline.consuming.names)
  /-- … then being filtered or put out by any. -/
  changed : ∀ name need, name ∈ (program.needs.list need).names → (need = .changed ↔
    (∀ plan ∈ made.plans, name ∉ plan.pipeline.consuming.names) ∧
      ∃ plan ∈ made.plans, name ∈ plan.pipeline.filter.names ∨ name ∈ plan.pipeline.output.names)

/-- On every device, and whatever the stages are: as long as no source is a token in one stage and
data in another, the lists, the records and the answers of the device agree. -/
theorem accounts_of_compile {σ : Type} [Device σ] (setting : Setting)
    (requests : List StageRequest) (desired : PropertyList) {workshop workshop' : Workshop σ}
    {made : Blueprint} {draft : Draft} {program : Program}
    (hmade : Drafting.blueprint setting (Device.info workshop.device) requests desired
      workshop.draft = .ok made draft)
    (hsteady : made.Steady)
    (h : compile setting requests desired workshop = .ok program workshop') :
    ∃ site, Building.build made.texts ⟨workshop.device, draft.events⟩ = .ok program.name site ∧
      program.Accounts made (locateAll program.name made.program.resources site.device).1 := by
  obtain ⟨start, planned, assigned, hparts⟩ := Drafting.parts_of_blueprint hmade
  have hfinished := Drafting.finished_of_parts hparts
  obtain ⟨site, hbuild, hqueried⟩ := queried_of_compile hmade h
  refine ⟨site, hbuild, ?_⟩
  generalize (locateAll program.name made.program.resources site.device).1 = told at hqueried ⊢
  have hnodup := hqueried.nodup hfinished.apart
  have hneed : ∀ {name need}, name ∈ (program.needs.list need).names →
      need = Need.of made.plans name :=
    fun hname => ((hqueried.mem_list_iff hfinished.apart).1 hname).1
  refine ⟨hqueried.asked, ?_, hqueried.records, ?_, ?_, ?_, ?_, ?_, ?_, ?_⟩
  · intro finding hmem
    exact hparts.exists_declaration program.name (hqueried.classed hmem)
  · intro name need need' hname hname'
    exact (hneed hname).trans (hneed hname').symm
  · intro need p hp hdata
    rw [hqueried.needs] at hp
    rcases (hqueried.needed_iff hfinished.apart).1 (SourceLists.needed_of_mem_collect hp) with
      hvoid | ⟨finding, hmem, hname, hsome⟩
    · rw [hdata] at hvoid
      cases hvoid
    · rw [hqueried.records, ← hname]
      exact List.count_eq_one_of_mem (hnodup.sublist (List.filter_sublist.map _))
        ((Finding.mem_names_present hnodup hmem).2 hsome)
  · intro record hrecord
    rw [hqueried.records, Finding.mem_present] at hrecord
    exact ⟨_, hqueried.mem_list_of_found hfinished hrecord.1 hrecord.2,
      fun need hlisted => hneed hlisted⟩
  · intro finding hmem
    rw [hqueried.records, Finding.mem_names_present hnodup hmem, not_not]
  · intro finding hmem
    constructor
    · -- A token of this name would be listed, but the property carries data somewhere.
      intro hnone need hlisted
      obtain ⟨-, plan, hplan, p, hp, hname, hvoid | ⟨other, hother, heq, hsome⟩⟩ :=
        (hqueried.mem_list_iff hfinished.apart).1 hlisted
      · obtain ⟨plan', hplan', q, hq, hname', hdata⟩ :=
          hfinished.exists_source (hqueried.classed hmem)
        have hsame := hsteady plan hplan plan' hplan' p hp q hq (hname.trans hname'.symm)
        rw [hvoid, hdata] at hsame
        cases hsame
      · rw [List.inj_on_of_nodup_map hnodup hother hmem heq] at hsome
        exact hsome hnone
    · intro hunlisted
      by_contra hsome
      exact hunlisted _ (hqueried.mem_list_of_found hfinished hmem hsome)
  · intro name need hname
    rw [hneed hname, Need.of_eq_usedUp]
  · intro name need hname
    rw [hneed hname, Need.of_eq_changed]

/-- A workshop whose device has no use for the cover of a cloud. -/
def coverless : Workshop Headless := ⟨{ eliminated := ["bind_cover"] }, lampRegistry, [], []⟩

/-- Points that are read by one stage and changed by the next are listed as changed.  The cover,
which the device does not know, is neither listed nor recorded. -/
theorem accounts_of_compile_cloud : ∃ made draft program workshop',
    Drafting.blueprint cloudScene .ideal [.vertex .empty, .fragment .empty]
      (.ofList [⟨"color", .vec4⟩]) coverless.draft = .ok made draft ∧
    compile cloudScene [.vertex .empty, .fragment .empty] (.ofList [⟨"color", .vec4⟩]) coverless
      = .ok program workshop' ∧
    program.needs.inputs.names = ["lamp", "gain"] ∧ program.needs.filters.names = ["points"] ∧
    program.storage.eliminated = ["cover"] ∧ made.Steady ∧
    ∃ site, Building.build made.texts ⟨coverless.device, draft.events⟩ = .ok program.name site ∧
      program.Accounts made (locateAll program.name made.program.resources site.device).1 := by
  have hsteady : Outcome.passes (fun made : Blueprint => decide made.Steady)
      (Drafting.blueprint cloudScene .ideal [.vertex .empty, .fragment .empty]
        (.ofList [⟨"color", .vec4⟩]) coverless.draft) = true := by decide +kernel
  have htest : Outcome.passes (fun program : Program =>
        decide (program.needs.inputs.names = ["lamp", "gain"] ∧
          program.needs.filters.names = ["points"] ∧ program.storage.eliminated = ["cover"]))
      (compile cloudScene [.vertex .empty, .fragment .empty] (.ofList [⟨"color", .vec4⟩]) coverless)
      = true := by decide +kernel
  obtain ⟨made, draft, hmade, hsteady⟩ := Outcome.exists_of_passes hsteady
  obtain ⟨program, workshop', hprogram, htest⟩ := Outcome.exists_of_passes htest
  obtain ⟨hinputs, hfilters, hlost⟩ := of_decide_eq_true htest
  exact ⟨made, draft, program, workshop', hmade, hprogram, hinputs, hfilters, hlost,
    of_decide_eq_true hsteady,
    accounts_of_compile cloudScene _ _ hmade (of_decide_eq_true hsteady) hprogram⟩

end ShaderWeave
