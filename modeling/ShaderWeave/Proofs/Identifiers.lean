import ShaderWeave.Proofs.Failures
import ShaderWeave.Proofs.Marks
import ShaderWeave.Proofs.Tokens

/-!
# Identifiers of a source

A source declares uniforms, samplers, blocks and what is in them, what the stage takes in and hands
on, and the variables of `main`.  Each identifier is a mark and the name of a property, and the
marks of blocks begin with the marks of their contents.  **With the usual marks nothing else can
clash:** the content of a block is named like another block exactly if its property is named like
the other with `block_` before it.

* `StageSource.identifiers` — what a source declares.
* `StageStorage.Clear` — no two identifiers of a stage are the same, told from its storage.
* `StageStorage.BlocksApart` — no block has the name of another with `block_` before it.
* `identifiers_nodup_iff` — identifiers are distinct exactly if the storage is clear, and with the
  usual marks exactly if the blocks are apart.
* `not_forall_identifiers_nodup` — two blocks of one stage that share an identifier.
-/

namespace ShaderWeave

/-! ## What a source declares -/

/-- The identifiers of a declaration; the fields of structs and blocks have a scope of their own. -/
def Declaration.identifiers : Declaration → List String
  | .struct _ _ => []
  | .uniform _ name => [name]
  | .sampler _ _ name => [name]
  | .uniformBlock _ block name _ => [block, name]
  | .storageBlock _ _ _ block name _ => [block, name]
  | .vertexInput _ _ name => [name]
  | .input _ _ name => [name]
  | .output _ _ name => [name]
  | .target _ _ name => [name]
  | .global _ name => [name]

/-- The identifiers of a statement. -/
def Statement.identifiers : Statement → List String
  | .declare _ name => [name]
  | _ => []

/-- The variables and blocks that a source declares. -/
def StageSource.identifiers (source : StageSource) : List String :=
  source.declarations.flatMap Declaration.identifiers ++ source.body.flatMap Statement.identifiers

namespace Mark

/-- The mark of a block is the mark of its content and this. -/
def blockPart : String := "block_"

/-- The marks of what is taken in and handed on. -/
def passing : List String := [element, vertexOut, fragmentOut, computeOut]

lemma append_injective (mark : String) : Function.Injective (mark ++ ·) :=
  fun _ _ h => (String.append_right_inj mark).1 h

/-- Variables with different marks are different. -/
lemma disjoint_of_ne {mark mark' : String} (hmark : mark ∈ holders) (hmark' : mark' ∈ holders)
    (hne : mark ≠ mark') (stems stems' : List String) :
    (stems.map (mark ++ ·)).Disjoint (stems'.map (mark' ++ ·)) := by
  intro spelled hleft hright
  obtain ⟨a, -, rfl⟩ := List.mem_map.1 hleft
  obtain ⟨b, -, heq⟩ := List.mem_map.1 hright
  exact hne (append_inj hmark hmark' heq.symm).1

lemma disjoint_iff (mark : String) {stems stems' : List String} :
    (stems.map (mark ++ ·)).Disjoint (stems'.map (mark ++ ·)) ↔ stems.Disjoint stems' := by
  constructor
  · intro h stem hleft hright
    exact h (List.mem_map_of_mem hleft) (List.mem_map_of_mem hright)
  · exact List.disjoint_map (append_injective mark)

end Mark

lemma StageRequest.Standard.outMark_mem_passing {request : StageRequest} (h : request.Standard) :
    request.outMark ∈ Mark.passing := by
  cases h with
  | vertex aliases =>
      show Mark.vertexOut ∈ Mark.passing
      decide
  | fragment aliases =>
      show Mark.fragmentOut ∈ Mark.passing
      decide
  | compute aliases dispatch =>
      show Mark.computeOut ∈ Mark.passing
      decide

namespace StorageClass

/-- Properties of the class come in blocks. -/
def isBlock : StorageClass → Bool
  | .uniform => false
  | .sampler => false
  | .uniformBlock => true
  | .storageBlock => true

/-- What stands behind the mark of the class in the identifiers of a property. -/
def stems (cls : StorageClass) (name : String) : List String :=
  if cls.isBlock then [Mark.blockPart ++ name, name] else [name]

lemma mark_mem_holders (cls : StorageClass) : cls.mark ∈ Mark.holders := by
  cases cls <;> decide

lemma mark_ne {cls cls' : StorageClass} (h : cls ≠ cls') : cls.mark ≠ cls'.mark := by
  revert h
  cases cls <;> cases cls' <;> decide

/-- Identifiers of one class clash where one block has the name of another with `block_` before it.
-/
lemma nodup_stems_iff (cls : StorageClass) {names : List String} (hnodup : names.Nodup) :
    (names.flatMap cls.stems).Nodup ↔
      (cls.isBlock = true → ∀ name ∈ names, Mark.blockPart ++ name ∉ names) := by
  cases hblock : cls.isBlock with
  | false =>
      have hstems : cls.stems = fun name => [name] := by
        funext name
        rw [stems, hblock]
        rfl
      rw [hstems, List.flatMap_singleton']
      exact ⟨fun _ h => absurd h (by simp), fun _ => hnodup⟩
  | true =>
      have hstems : cls.stems = fun name => [Mark.blockPart ++ name] ++ [name] := by
        funext name
        rw [stems, hblock]
        rfl
      have hperm := List.flatMap_append_perm names (fun name => [Mark.blockPart ++ name])
        (fun name => [name])
      rw [← hstems, List.flatMap_singleton', ← List.map_eq_flatMap] at hperm
      rw [← hperm.nodup_iff, List.nodup_append', List.nodup_map_iff (Mark.append_injective _)]
      constructor
      · rintro ⟨-, -, hdisjoint⟩ - name hname hclash
        exact hdisjoint (List.mem_map_of_mem hname) hclash
      · intro hclear
        refine ⟨hnodup, hnodup, ?_⟩
        intro stem hleft hright
        obtain ⟨name, hname, rfl⟩ := List.mem_map.1 hleft
        exact hclear rfl name hname hright

end StorageClass

/-! ## Identifiers told from the storage -/

namespace StageStorage

variable {plan : StagePlan} {storage : StageStorage} {previous : Option Handover}

/-- The identifiers of what comes through storage classes. -/
def resourceNames (storage : StageStorage) : List String :=
  StorageClass.all.flatMap fun cls =>
    ((storage.list cls).names.flatMap cls.stems).map (cls.mark ++ ·)

/-- The identifiers of what is taken in. -/
def takenNames (storage : StageStorage) : List String :=
  storage.inputs.names.map (storage.inMark ++ ·)

/-- The identifiers of what is handed on, and of copies that are not. -/
def handedNames (storage : StageStorage) (plan : StagePlan) : List String :=
  (storage.outputs.names ++ storage.innerCopies.names).map (plan.request.outMark ++ ·)

/-- The identifiers of inner properties; the way to them goes through all aliases. -/
def innerNames (storage : StageStorage) : List String :=
  storage.inner.names.map storage.aliases.choice

/-- No block has the name of another with `block_` before it. -/
def BlocksApart (storage : StageStorage) : Prop :=
  ∀ cls, cls.isBlock = true → ∀ name ∈ (storage.list cls).names,
    Mark.blockPart ++ name ∉ (storage.list cls).names

instance (storage : StageStorage) : Decidable storage.BlocksApart :=
  decidable_of_iff (∀ cls ∈ StorageClass.all, cls.isBlock = true →
      ∀ name ∈ (storage.list cls).names, Mark.blockPart ++ name ∉ (storage.list cls).names)
    ⟨fun h cls => h cls (StorageClass.mem_all cls), fun h cls _ => h cls⟩

/-- **No two identifiers of the stage are the same.** -/
structure Clear (storage : StageStorage) (plan : StagePlan) : Prop where
  blocks : storage.BlocksApart
  taken : storage.resourceNames.Disjoint storage.takenNames
  handed : (storage.resourceNames ++ storage.takenNames).Disjoint (storage.handedNames plan)
  inner : storage.innerNames.Nodup
  apart : (storage.resourceNames ++ storage.takenNames ++ storage.handedNames plan).Disjoint
    storage.innerNames

lemma nodup_resourceNames_iff : storage.resourceNames.Nodup ↔ storage.BlocksApart := by
  have hall : StorageClass.all.Nodup := by decide
  have hclass : ∀ cls : StorageClass,
      (((storage.list cls).names.flatMap cls.stems).map (cls.mark ++ ·)).Nodup ↔
        (cls.isBlock = true → ∀ name ∈ (storage.list cls).names,
          Mark.blockPart ++ name ∉ (storage.list cls).names) := by
    intro cls
    rw [List.nodup_map_iff (Mark.append_injective _)]
    exact cls.nodup_stems_iff (storage.list cls).nodup
  rw [resourceNames, List.nodup_flatMap]
  constructor
  · rintro ⟨hnodup, -⟩ cls
    exact (hclass cls).1 (hnodup cls (StorageClass.mem_all cls))
  · intro hblocks
    refine ⟨fun cls _ => (hclass cls).2 (hblocks cls), hall.imp ?_⟩
    intro cls cls' hne
    exact Mark.disjoint_of_ne cls.mark_mem_holders cls'.mark_mem_holders
      (StorageClass.mark_ne hne) _ _

/-- **Identifiers are distinct exactly if the storage is clear,** whatever the marks are. -/
lemma nodup_iff_clear (hhanded : storage.outputs.names.Disjoint storage.innerCopies.names) :
    (storage.resourceNames ++ storage.takenNames ++ storage.handedNames plan
      ++ storage.innerNames).Nodup ↔ storage.Clear plan := by
  have htaken : storage.takenNames.Nodup :=
    storage.inputs.nodup.map (Mark.append_injective _)
  have houtputs : (storage.handedNames plan).Nodup := by
    refine List.Nodup.map (Mark.append_injective _) (List.nodup_append'.2 ?_)
    exact ⟨storage.outputs.nodup, storage.innerCopies.nodup, hhanded⟩
  rw [List.nodup_append', List.nodup_append', List.nodup_append', nodup_resourceNames_iff]
  constructor
  · rintro ⟨⟨⟨hblocks, -, hin⟩, -, hout⟩, hinner, hapart⟩
    exact ⟨hblocks, hin, hout, hinner, hapart⟩
  · intro h
    exact ⟨⟨⟨h.blocks, htaken, h.taken⟩, houtputs, h.handed⟩, h.inner, h.apart⟩

/-- What comes through storage classes has no mark of another place. -/
lemma disjoint_resourceNames {mark : String} (hmark : mark ∈ Mark.inner :: Mark.passing)
    (stems : List String) : storage.resourceNames.Disjoint (stems.map (mark ++ ·)) := by
  have hfree : ∀ m ∈ Mark.inner :: Mark.passing, m ∈ Mark.holders ∧
      ∀ cls ∈ StorageClass.all, cls.mark ≠ m := by decide
  obtain ⟨hholder, hne⟩ := hfree mark hmark
  intro spelled hleft hright
  obtain ⟨cls, hcls, hspelled⟩ := List.mem_flatMap.1 hleft
  exact Mark.disjoint_of_ne cls.mark_mem_holders hholder (hne cls hcls) _ _ hspelled hright

/-- **With the usual marks, a stage is clear if its blocks are apart,** and if it does not hand on
what it takes in under the same mark. -/
lemma clear_iff_blocksApart (hin : storage.inMark ∈ Mark.passing)
    (hout : plan.request.outMark ∈ Mark.passing)
    (hinner : ∀ name ∈ storage.inner.names, storage.aliases.choice name = Mark.inner ++ name) :
    storage.Clear plan ↔ storage.BlocksApart ∧
      (storage.inMark = plan.request.outMark →
        storage.inputs.names.Disjoint (storage.outputs.names ++ storage.innerCopies.names)) := by
  have hfree : ∀ m ∈ Mark.passing, m ∈ Mark.holders ∧ m ≠ Mark.inner := by decide
  have hnames : storage.innerNames = storage.inner.names.map (Mark.inner ++ ·) :=
    List.map_congr_left hinner
  have hpassed : storage.takenNames.Disjoint (storage.handedNames plan) ↔
      (storage.inMark = plan.request.outMark →
        storage.inputs.names.Disjoint (storage.outputs.names ++ storage.innerCopies.names)) := by
    rw [takenNames, handedNames]
    by_cases hsame : storage.inMark = plan.request.outMark
    · rw [hsame, Mark.disjoint_iff]
      exact ⟨fun h _ => h, fun h => h rfl⟩
    · exact ⟨fun _ heq => absurd heq hsame,
        fun _ => Mark.disjoint_of_ne (hfree _ hin).1 (hfree _ hout).1 hsame _ _⟩
  constructor
  · intro h
    exact ⟨h.blocks, hpassed.1 (List.disjoint_append_left.1 h.handed).2⟩
  · rintro ⟨hblocks, hown⟩
    refine ⟨hblocks, disjoint_resourceNames (List.mem_cons_of_mem _ hin) _, ?_, ?_, ?_⟩
    · rw [List.disjoint_append_left]
      exact ⟨disjoint_resourceNames (List.mem_cons_of_mem _ hout) _, hpassed.2 hown⟩
    · rw [hnames]
      exact storage.inner.nodup.map (Mark.append_injective _)
    · rw [hnames, List.disjoint_append_left, List.disjoint_append_left]
      exact ⟨⟨disjoint_resourceNames List.mem_cons_self _,
        Mark.disjoint_of_ne (hfree _ hin).1 (by decide) (hfree _ hin).2 _ _⟩,
        Mark.disjoint_of_ne (hfree _ hout).1 (by decide) (hfree _ hout).2 _ _⟩

/-- A variable that leads nowhere is where the way from its inner property ends. -/
lemma Fits.choice_of_inner (h : storage.Fits previous plan) {name : String}
    (hname : name ∈ storage.inner.names)
    (hend : storage.aliases.direct? (Mark.inner ++ name) = none) :
    storage.aliases.choice name = Mark.inner ++ name := by
  have hdirect : storage.aliases.direct? name = some (Mark.inner ++ name) := by
    rw [h.aliases, Aliases.direct?_layered_singleton, h.get?_renames, placeMark?_eq, if_pos hname]
    rfl
  have hne : Mark.inner ++ name ∉ [name] := by
    intro hmem
    have hlength := congrArg String.length (List.mem_singleton.1 hmem)
    rw [String.length_append] at hlength
    have hmark : Mark.inner.length = 4 := by decide
    omega
  refine (Aliases.Chain.start.step hdirect hne).choice_eq ?_
  intro next hnext
  rw [hend] at hnext
  cases hnext

end StageStorage

/-! ## Declarations and statements of a stage -/

/-- What a stage declares before `main`. -/
lemma Draft.identifiers_declared (draft : Draft) (setting : Setting) (plans : List StagePlan)
    {plan : StagePlan} {storage : StageStorage}
    (hvertex : plan.request.stage = .vertex → storage.inMark = Mark.element) :
    (draft.declared setting plans plan storage).flatMap Declaration.identifiers
      = storage.resourceNames ++ storage.takenNames
        ++ storage.outputs.names.map (plan.request.outMark ++ ·) := by
  have hstructs : (draft.registry.structs storage.types).flatMap Declaration.identifiers = [] := by
    rw [List.flatMap_eq_nil_iff]
    intro declaration h
    obtain ⟨name, body, rfl⟩ := Registry.struct_of_mem_structs h
    rfl
  have hresource : ∀ cls,
      ((storage.list cls).entries.map (draft.resource plans · cls)).flatMap Declaration.identifiers
        = ((storage.list cls).names.flatMap cls.stems).map (cls.mark ++ ·) := by
    intro cls
    rw [List.flatMap_map, List.map_flatMap, PropertyList.names, List.flatMap_map]
    refine List.flatMap_congr fun p _ => ?_
    have hblock : ∀ mark, mark ++ (Mark.blockPart ++ p.name) = mark ++ Mark.blockPart ++ p.name :=
      fun mark => (String.append_assoc ..).symm
    cases cls <;> simp only [StorageClass.stems, StorageClass.isBlock, List.map_cons, List.map_nil,
      Bool.false_eq_true, if_false, if_true, hblock] <;> rfl
  have htaken : (storage.inputs.entries.map (draft.taken setting plan storage)).flatMap
      Declaration.identifiers = storage.takenNames := by
    rw [List.flatMap_map, StageStorage.takenNames, PropertyList.names, List.map_map,
      List.map_eq_flatMap]
    refine List.flatMap_congr fun p _ => ?_
    unfold taken
    cases hstage : plan.request.stage with
    | vertex => simp only [Declaration.identifiers, Function.comp_apply, hvertex hstage]
    | fragment => rfl
    | compute => rfl
  have hhanded : (storage.outputs.entries.map (draft.handed plan)).flatMap Declaration.identifiers
      = storage.outputs.names.map (plan.request.outMark ++ ·) := by
    rw [List.flatMap_map, PropertyList.names, List.map_map, List.map_eq_flatMap]
    refine List.flatMap_congr fun p _ => ?_
    unfold handed
    cases plan.request.stage <;> rfl
  have huniforms := hresource .uniform
  have hsamplers := hresource .sampler
  have huniformBlocks := hresource .uniformBlock
  have hstorageBlocks := hresource .storageBlock
  simp only [StageStorage.list] at huniforms hsamplers huniformBlocks hstorageBlocks
  simp only [declared, List.flatMap_append, hstructs, huniforms, hsamplers, huniformBlocks,
    hstorageBlocks, htaken, hhanded, StageStorage.resourceNames, StorageClass.all,
    List.flatMap_cons, List.flatMap_nil, List.nil_append, List.append_nil, List.append_assoc,
    StageStorage.list]

namespace Drafting

variable {setting : Setting} {requests : List StageRequest} {desired : PropertyList}
  {plans : List StagePlan} {plan : StagePlan} {storage : StageStorage} {source : StageSource}

/-- **What stands in `main`:** variables, guards, copies, tasks, and the position of a vertex. -/
lemma body_of_writeStage {before after : Draft}
    (h : writeStage setting plans (plan, storage) before = .ok source after) :
    ∃ inner copies, ∃ usages : List String, ∃ draft₁ draft₂ draft₃,
      storage.inner.entries.mapM (declareInner storage) draft₁ = .ok inner draft₂ ∧
      storage.innerCopies.entries.mapM (declareCopy plan) draft₂ = .ok copies draft₃ ∧
      source.body = inner ++ copies ++ guards plan storage ++ storage.copies.map .copy
        ++ usages.map .task ++ positionStatements plan storage := by
  obtain ⟨made, draft₁, hgenerate, h⟩ := Outcome.bind_ok h
  obtain ⟨_, draft₂, -, h⟩ := Outcome.bind_ok h
  obtain ⟨rfl, -⟩ := Outcome.pure_ok h
  obtain ⟨declared, draft₃, -, h⟩ := Outcome.bind_ok hgenerate
  obtain ⟨_, draft₄, -, h⟩ := Outcome.bind_ok h
  obtain ⟨preamble, draft₅, -, h⟩ := Outcome.bind_ok h
  obtain ⟨inner, draft₆, hinner, h⟩ := Outcome.bind_ok h
  obtain ⟨copies, draft₇, hcopies, h⟩ := Outcome.bind_ok h
  obtain ⟨usages, draft₈, -, h⟩ := Outcome.bind_ok h
  obtain ⟨rfl, -⟩ := Outcome.pure_ok h
  exact ⟨inner, copies, usages, draft₅, draft₆, draft₇, hinner, hcopies, rfl⟩

/-- What a stage declares in `main`: inner properties and copies that are not handed on. -/
lemma identifiers_body {before after : Draft}
    (h : writeStage setting plans (plan, storage) before = .ok source after) :
    source.body.flatMap Statement.identifiers = storage.innerNames
      ++ storage.innerCopies.names.map (plan.request.outMark ++ ·) := by
  obtain ⟨inner, copies, usages, draft₁, draft₂, draft₃, hinner, hcopies, hbody⟩ :=
    body_of_writeStage h
  have hinner' : inner.flatMap Statement.identifiers = storage.innerNames := by
    rw [StageStorage.innerNames, PropertyList.names, List.map_map, List.map_eq_flatMap]
    refine Outcome.flatMap_of_mapM (fun {p s y s'} hone => ?_) hinner
    obtain ⟨type, s₁, -, hone⟩ := Outcome.bind_ok hone
    obtain ⟨rfl, -⟩ := Outcome.pure_ok hone
    rfl
  have hcopies' : copies.flatMap Statement.identifiers
      = storage.innerCopies.names.map (plan.request.outMark ++ ·) := by
    rw [PropertyList.names, List.map_map, List.map_eq_flatMap]
    refine Outcome.flatMap_of_mapM (fun {p s y s'} hone => ?_) hcopies
    obtain ⟨type, s₁, -, hone⟩ := Outcome.bind_ok hone
    obtain ⟨rfl, -⟩ := Outcome.pure_ok hone
    rfl
  have haxis : ∀ axis count group,
      (axisGuard storage axis count group).flatMap Statement.identifiers = [] := by
    intro axis count group
    cases count with
    | fixed count =>
        simp only [axisGuard]
        split_ifs <;> rfl
    | property property =>
        simp only [axisGuard]
        split_ifs <;> rfl
  have hguards : (guards plan storage).flatMap Statement.identifiers = [] := by
    unfold guards
    split
    · rfl
    · simp only [List.flatMap_append, haxis, List.append_nil]
  have hrest : (storage.copies.map Statement.copy).flatMap Statement.identifiers = [] ∧
      (usages.map Statement.task).flatMap Statement.identifiers = [] := by
    rw [List.flatMap_map, List.flatMap_map, List.flatMap_eq_nil_iff, List.flatMap_eq_nil_iff]
    exact ⟨fun _ _ => rfl, fun _ _ => rfl⟩
  have hposition : (positionStatements plan storage).flatMap Statement.identifiers = [] := by
    unfold positionStatements
    cases plan.request.stage <;> rfl
  simp only [hbody, List.flatMap_append, hinner', hcopies', hguards, hrest.1, hrest.2, hposition,
    List.append_nil]

namespace Parts

variable {made : Blueprint} {start planned assigned final : Draft} {i : Nat}

/-- **What a source declares is told by the storage of its stage.** -/
lemma identifiers_perm (h : Parts setting requests desired made start planned assigned final)
    (hat : made.At i plan storage source) :
    source.identifiers.Perm (storage.resourceNames ++ storage.takenNames ++ storage.handedNames plan
      ++ storage.innerNames) := by
  have hvertex : plan.request.stage = .vertex → storage.inMark = Mark.element := by
    intro hstage
    rw [(h.fits hat.plan hat.storage).laid.inMark]
    unfold StageRequest.inMark
    simp only [hstage]
  obtain ⟨before, after, hwrite⟩ := h.writes hat
  rw [StageSource.identifiers, (finished_of_parts h).declared hat,
    Draft.identifiers_declared _ _ _ hvertex, identifiers_body hwrite, StageStorage.handedNames,
    List.map_append]
  simp only [List.append_assoc]
  refine (List.Perm.append_left _ (List.Perm.append_left _ (List.Perm.append_left _ ?_)))
  exact List.perm_append_comm

/-- What is copied and not handed on is not handed on. -/
lemma disjoint_handed (h : Parts setting requests desired made start planned assigned final)
    (hat : made.At i plan storage source) :
    storage.outputs.names.Disjoint storage.innerCopies.names := by
  have hdisjoint := h.disjoint plan (List.mem_of_getElem? hat.plan)
  obtain ⟨before, after, hassign⟩ := assigned_at h.assign hat.plan hat.storage
  obtain ⟨houtputs, hcopies⟩ := StageStorage.handed_of_assignStage hdisjoint hassign
  intro name hout hcopy
  have hfilter : name ∈ (plan.pipeline.list .filter).names := PropertyList.solidNames_subset _
    ((h.fits hat.plan hat.storage).laid.innerCopies name hcopy)
  rcases houtputs name hout with hlisted | hthrough | hresult
  · exact hcopies name hcopy hlisted
  · have hclass : name ∈ (plan.pipeline.list .pipethrough).names :=
      PropertyList.solidNames_subset _ hthrough
    exact absurd (hdisjoint hfilter hclass) (by decide)
  · have hclass : name ∈ (plan.pipeline.list .output).names :=
      PropertyList.solidNames_subset _ hresult
    exact absurd (hdisjoint hfilter hclass) (by decide)

/-- Stages with their usual marks take in and hand on under usual marks. -/
lemma passing (h : Parts setting requests desired made start planned assigned final)
    (hstandard : ∀ request ∈ requests, request.Standard) (hat : made.At i plan storage source) :
    storage.inMark ∈ Mark.passing ∧ plan.request.outMark ∈ Mark.passing := by
  have hout : ∀ other ∈ made.plans, other.request.outMark ∈ Mark.passing := by
    intro other hother
    have hrequests := requests_of_planBackwards h.plan
    rw [List.reverse_reverse] at hrequests
    have hmem : other.request ∈ requests := hrequests ▸ List.mem_map_of_mem hother
    exact (hstandard _ hmem).outMark_mem_passing
  refine ⟨?_, hout plan (List.mem_of_getElem? hat.plan)⟩
  rw [(h.fits hat.plan hat.storage).laid.inMark]
  unfold StageRequest.inMark
  split
  · decide
  · decide
  · next hprevious _ =>
      cases i with
      | zero => cases hprevious
      | succ i =>
          obtain ⟨stage, hstage, rfl⟩ := Option.map_eq_some_iff.1 hprevious
          exact hout stage.1 (List.of_mem_zip (List.mem_of_getElem? hstage)).1

end Parts

end Drafting

/-- **When identifiers are distinct.**  Take any stage of any finished blueprint.

* The identifiers of its source are distinct exactly if its storage is clear, whatever the marks
  are.
* Let all stages have their usual marks, and let no variable of an inner property be an alias or the
  name of another property.  Then the identifiers are distinct exactly if no block has the name of
  another block of its kind with `block_` before it, and if, under one mark, nothing that is taken
  in is handed on or copied. -/
theorem identifiers_nodup_iff (setting : Setting) (info : DeviceInfo) (requests : List StageRequest)
    (desired : PropertyList) {draft draft' : Draft} {made : Blueprint}
    (hmade : Drafting.blueprint setting info requests desired draft = .ok made draft') {i : Nat}
    {plan : StagePlan} {storage : StageStorage} {source : StageSource}
    (hat : made.At i plan storage source) :
    (source.identifiers.Nodup ↔ storage.Clear plan) ∧
    ((∀ request ∈ requests, request.Standard) →
      (∀ name ∈ storage.inner.names, storage.aliases.direct? (Mark.inner ++ name) = none) →
        (source.identifiers.Nodup ↔ storage.BlocksApart ∧
          (storage.inMark = plan.request.outMark → storage.inputs.names.Disjoint
            (storage.outputs.names ++ storage.innerCopies.names)))) := by
  obtain ⟨start, planned, assigned, hparts⟩ := Drafting.parts_of_blueprint hmade
  have hclear : source.identifiers.Nodup ↔ storage.Clear plan := by
    rw [(hparts.identifiers_perm hat).nodup_iff]
    exact StageStorage.nodup_iff_clear (hparts.disjoint_handed hat)
  refine ⟨hclear, ?_⟩
  intro hstandard hinner
  obtain ⟨hin, hout⟩ := hparts.passing hstandard hat
  have hfits := hparts.fits hat.plan hat.storage
  rw [hclear]
  exact StageStorage.clear_iff_blocksApart hin hout
    fun name hname => hfits.choice_of_inner hname (hinner name hname)

/-- A tone from the vertex stage that is changed and not handed on, an inner mixture, and a source
of every storage class, with another storage block beside the points. -/
def crowded (other : String) : Setting where
  catalogue := ⟨[(pointCloud, .buffer (.pointer pointCloud .void .vec4))]⟩
  vertexLayout := {}
  resolver := (((TaskCollection.empty.register (.call "place"
      { outputs := .ofList [⟨vertexPosition, .vec4⟩, ⟨"tone", .vec4⟩] }) [.vertex]).register
    (.call "blend"
      { inputs := .ofList [⟨"points", pointCloud⟩, ⟨other, pointCloud⟩, ⟨"cover", .texture⟩,
          ⟨"lamp", lampType⟩, ⟨"gain", .float⟩]
        filters := .ofList [⟨"tone", .vec4⟩]
        outputs := .ofList [⟨"mixture", .vec4⟩] }) [.fragment]).register
    (.call "shade"
      { inputs := .ofList [⟨"mixture", .vec4⟩]
        outputs := .ofList [⟨"color", .vec4⟩] }) [.fragment]).resolver
  options := {}

/-- A stage with variables of all kinds, and two storage blocks that are apart. -/
theorem identifiers_nodup_iff_crowded : ∃ made draft' plan storage source,
    Drafting.blueprint (crowded "others") .ideal [.vertex .empty, .fragment .empty]
      (.ofList [⟨"color", .vec4⟩]) { registry := lampRegistry } = .ok made draft' ∧
    made.At 1 plan storage source ∧
    source.identifiers = ["uniform_gain", "bind_cover", "ubo_block_lamp", "ubo_lamp",
      "buffer_block_points", "buffer_points", "buffer_block_others", "buffer_others", "vert_tone",
      "frag_color", "tmp_mixture", "frag_tone"] ∧
    source.identifiers.Nodup ∧ storage.Clear plan := by
  have htest : Outcome.passes (Blueprint.stageTest 1 fun plan storage source =>
        decide (storage.BlocksApart ∧ storage.inMark ≠ plan.request.outMark ∧
          (∀ name ∈ storage.inner.names, storage.aliases.direct? (Mark.inner ++ name) = none) ∧
          source.identifiers = ["uniform_gain", "bind_cover", "ubo_block_lamp", "ubo_lamp",
            "buffer_block_points", "buffer_points", "buffer_block_others", "buffer_others",
            "vert_tone", "frag_color", "tmp_mixture", "frag_tone"]))
      (Drafting.blueprint (crowded "others") .ideal [.vertex .empty, .fragment .empty]
        (.ofList [⟨"color", .vec4⟩]) { registry := lampRegistry }) = true := by decide +kernel
  obtain ⟨made, draft', hmade, htest⟩ := Outcome.exists_of_passes htest
  obtain ⟨plan, storage, source, hat, htest⟩ := Blueprint.exists_of_stageTest htest
  obtain ⟨hblocks, hmarks, hinner, hsource⟩ := of_decide_eq_true htest
  have hstandard : ∀ request ∈ [StageRequest.vertex .empty, .fragment .empty],
      request.Standard := by
    rintro request (_ | ⟨_, _ | ⟨_, ⟨⟩⟩⟩)
    · exact .vertex .empty
    · exact .fragment .empty
  obtain ⟨hclear, hapart⟩ := identifiers_nodup_iff (crowded "others") .ideal
    [.vertex .empty, .fragment .empty] (.ofList [⟨"color", .vec4⟩]) hmade hat
  have hnodup := (hapart hstandard hinner).2 ⟨hblocks, fun heq => absurd heq hmarks⟩
  exact ⟨made, draft', plan, storage, source, hmade, hat, hsource, hnodup, hclear.1 hnodup⟩

/-- **Two blocks of one stage can share an identifier.**  Beside points there are points of blocks:
the program compiles, and the array in the second block is named like the first block. -/
theorem not_forall_identifiers_nodup :
    let requests := [StageRequest.vertex .empty, .fragment .empty]
    let workshop : Workshop Headless := ⟨{}, lampRegistry, [], []⟩
    let desired := PropertyList.ofList [⟨"color", .vec4⟩]
    (∃ program workshop', compile (crowded "block_points") requests desired workshop
      = .ok program workshop') ∧
    ∃ made draft', Drafting.blueprint (crowded "block_points") .ideal requests desired
        workshop.draft = .ok made draft' ∧
      ¬ ∀ i plan storage source, made.At i plan storage source → source.identifiers.Nodup := by
  intro requests workshop desired
  have hcompiles : Outcome.succeeds (compile (crowded "block_points") requests desired workshop)
      = true := by decide +kernel
  have htest : Outcome.passes (Blueprint.stageTest 1 fun _ _ source =>
        decide (¬ source.identifiers.Nodup))
      (Drafting.blueprint (crowded "block_points") .ideal requests desired workshop.draft)
        = true := by decide +kernel
  refine ⟨Outcome.exists_of_succeeds hcompiles, ?_⟩
  obtain ⟨made, draft', hmade, htest⟩ := Outcome.exists_of_passes htest
  obtain ⟨plan, storage, source, hat, htest⟩ := Blueprint.exists_of_stageTest htest
  refine ⟨made, draft', hmade, ?_⟩
  intro hall
  exact of_decide_eq_true htest (hall 1 plan storage source hat)

end ShaderWeave
