import Mathlib.Data.List.NodupEquivFin
import ShaderWeave.Proofs.Declarations

/-!
# Binding points of a program

Samplers, uniform blocks and storage blocks have binding points, given out in one sequence while the
sources of the stages are written.  Whoever binds a resource knows the program only, so **all stages
have to mean the same resource by a name:** the same class, the same binding point and, for a storage
block, the same access.

* `ProgramStorage.exists_numbering` — where the names with a binding point are those of the three
  classes, they are numbered without gaps.
* `usage_written_iff`, `usage_read_iff` — the access that a storage block is declared with, in terms
  of what the tasks of all stages do.
* `Blueprint.Coherent` — what it means; `coherent_of_blueprint` — every program that can be drafted is
  so.
-/

namespace ShaderWeave

/-- What the declaration of a resource tells: its storage class, its variable and its binding
point. -/
def Declaration.resource? : Declaration → Option (StorageClass × String × Option Nat)
  | .uniform _ name => some (.uniform, name, none)
  | .sampler binding _ name => some (.sampler, name, some binding)
  | .uniformBlock binding _ name _ => some (.uniformBlock, name, some binding)
  | .storageBlock binding _ _ _ name _ => some (.storageBlock, name, some binding)
  | _ => none

namespace ProgramStorage

variable {program : ProgramStorage} {name : String}

/-- The names of a program that need a binding point. -/
def boundNames (program : ProgramStorage) : List String :=
  program.samplers.names ++ program.uniformBlocks.names ++ program.storageBlocks.names

lemma mem_boundNames :
    name ∈ program.boundNames ↔ ∃ cls, cls ≠ .uniform ∧ name ∈ (program.list cls).names := by
  simp only [boundNames, List.mem_append]
  constructor
  · rintro ((h | h) | h)
    exacts [⟨.sampler, by decide, h⟩, ⟨.uniformBlock, by decide, h⟩, ⟨.storageBlock, by decide, h⟩]
  · rintro ⟨cls, hne, h⟩
    cases cls with
    | uniform => exact absurd rfl hne
    | sampler => exact Or.inl (Or.inl h)
    | uniformBlock => exact Or.inl (Or.inr h)
    | storageBlock => exact Or.inr h

lemma Apart.nodup_boundNames (h : program.Apart) : program.boundNames.Nodup := by
  have hapart : ∀ cls cls', cls ≠ cls' → ∀ a ∈ (program.list cls).names,
      ∀ b ∈ (program.list cls').names, a ≠ b := by
    rintro cls cls' hne a ha b hb rfl
    exact hne (h ha hb)
  refine List.nodup_append.2 ⟨List.nodup_append.2 ⟨program.samplers.nodup,
    program.uniformBlocks.nodup, hapart .sampler .uniformBlock (by decide)⟩,
    program.storageBlocks.nodup, ?_⟩
  intro a ha b hb
  rcases List.mem_append.1 ha with ha | ha
  · exact hapart .sampler .storageBlock (by decide) a ha b hb
  · exact hapart .uniformBlock .storageBlock (by decide) a ha b hb

/-- **Numbers without gaps.**  If the bound names are those that need a binding point, they and the
first numbers correspond one to one. -/
lemma exists_numbering (hnodup : program.bindings.Nodup) (hbound : program.boundNames.Nodup)
    (hsame : ∀ name, name ∈ program.bindings ↔ name ∈ program.boundNames) :
    ∃ number : {name // name ∈ program.boundNames} ≃ Fin program.boundNames.length,
      ∀ name, program.binding? name.1 = some (number name).1 := by
  -- A number is a place in the bindings, which are a permutation of the bound names.
  have hlength : program.bindings.length = program.boundNames.length :=
    ((List.perm_ext_iff_of_nodup hnodup hbound).2 hsame).length_eq
  refine ⟨((Equiv.subtypeEquivRight hsame).symm.trans (hnodup.getEquiv _).symm).trans
    (finCongr hlength), ?_⟩
  intro name
  have hmem := (hsame name.1).2 name.2
  rw [binding?, List.findIdx?_eq_some_iff_findIdx_eq]
  exact ⟨List.idxOf_lt_length_iff.2 hmem, rfl⟩

end ProgramStorage

/-! ## Access -/

lemma StagePlan.touches_iff {plan : StagePlan} {access : Access} {name : String} :
    plan.touches (·.under access) name = true ↔ plan.Touched access name := by
  simp only [touches, Touched, Task.Touches, PropertyList.names, List.any_eq_true, List.any_map,
    Function.comp_apply, beq_iff_eq]

/-- A property is written if some task of some stage outputs or filters it. -/
lemma usage_written_iff {plans : List StagePlan} {name : String} :
    (usage plans name).written = true ↔
      ∃ plan ∈ plans, plan.Touched .writes name ∨ plan.Touched .filters name := by
  simp only [← StagePlan.touches_iff]
  simp only [usage, TaskLists.under, List.any_eq_true, Bool.or_eq_true]

/-- A property is read if some task of some stage reads, consumes or filters it. -/
lemma usage_read_iff {plans : List StagePlan} {name : String} :
    (usage plans name).read = true ↔
      ∃ plan ∈ plans, plan.Touched .reads name ∨ plan.Touched .consumes name ∨
        plan.Touched .filters name := by
  simp only [← StagePlan.touches_iff]
  simp only [usage, TaskLists.under, List.any_eq_true, Bool.or_eq_true, or_assoc]

/-! ## The resources of a blueprint -/

namespace Drafting.Finished

variable {setting : Setting} {made : Blueprint} {final : Draft} {i : Nat} {plan : StagePlan}
  {storage : StageStorage} {source : StageSource} {name : String}

/-- What a stage has from a storage class, the program has in that class. -/
lemma names_subset (h : Finished setting made final) (hstorage : storage ∈ made.storages)
    (cls : StorageClass) : (storage.list cls).names ⊆ (made.program.list cls).names := by
  obtain ⟨i, hi⟩ := List.mem_iff_getElem?.1 hstorage
  obtain ⟨plan, hplan⟩ : ∃ plan, made.plans[i]? = some plan := by
    have hlt := (List.getElem?_eq_some_iff.1 hi).1
    exact ⟨_, List.getElem?_eq_getElem (h.length ▸ hlt)⟩
  intro name hname
  obtain ⟨p, hp, rfl⟩ := PropertyList.mem_names.1 hname
  exact (((h.sorted hplan hi).lists cls p).1 hp).2.2

/-- The names with a binding point are those of the samplers and blocks of the program. -/
lemma mem_bindings (h : Finished setting made final) :
    name ∈ made.program.bindings ↔ name ∈ made.program.boundNames := by
  rw [h.bound, ProgramStorage.mem_boundNames]
  constructor
  · rintro ⟨storage, hstorage, hname⟩
    rcases List.mem_append.1 hname with hname | hname
    · rcases List.mem_append.1 hname with hname | hname
      · exact ⟨.sampler, by decide, h.names_subset hstorage .sampler hname⟩
      · exact ⟨.uniformBlock, by decide, h.names_subset hstorage .uniformBlock hname⟩
    · exact ⟨.storageBlock, by decide, h.names_subset hstorage .storageBlock hname⟩
  · rintro ⟨cls, hne, hname⟩
    obtain ⟨storage, hstorage, hmem⟩ := h.added cls name hname
    refine ⟨storage, hstorage, ?_⟩
    cases cls with
    | uniform => exact absurd rfl hne
    | sampler => exact List.mem_append_left _ (List.mem_append_left _ hmem)
    | uniformBlock => exact List.mem_append_left _ (List.mem_append_right _ hmem)
    | storageBlock => exact List.mem_append_right _ hmem

lemma binding?_eq_none (h : Finished setting made final) (hname : name ∉ made.program.boundNames) :
    made.program.binding? name = none := by
  by_contra hsome
  exact hname (h.mem_bindings.1 (ProgramStorage.binding?_ne_none.1 hsome))

/-- A resource is declared with its own variable, and with the binding point of its name. -/
lemma resource?_resource (h : Finished setting made final) {cls : StorageClass} {p : Property}
    (hp : p.name ∈ (made.program.list cls).names) :
    (final.resource made.plans p cls).resource?
      = some (cls, cls.mark ++ p.name, made.program.binding? p.name) := by
  have hnumber : cls ≠ .uniform →
      made.program.binding? p.name = some ((final.program.binding? p.name).getD 0) := by
    intro hne
    have hbound := h.mem_bindings.2 (ProgramStorage.mem_boundNames.2 ⟨cls, hne, hp⟩)
    obtain ⟨number, hnumber⟩ :=
      Option.ne_none_iff_exists'.1 (ProgramStorage.binding?_ne_none.2 hbound)
    rw [h.program, hnumber, Option.getD_some]
  cases cls with
  | uniform =>
      have hfree : p.name ∉ made.program.boundNames := by
        rw [ProgramStorage.mem_boundNames]
        rintro ⟨cls, hne, hmem⟩
        exact hne (h.apart hmem hp)
      rw [h.binding?_eq_none hfree]
      rfl
  | sampler =>
      rw [hnumber (by decide)]
      rfl
  | uniformBlock =>
      rw [hnumber (by decide)]
      rfl
  | storageBlock =>
      rw [hnumber (by decide)]
      rfl

/-- **A stage declares exactly the resources in its lists,** each in its class and with its binding
point. -/
lemma declares_resource_iff (h : Finished setting made final)
    (hat : made.At i plan storage source) {cls : StorageClass} {holder : String}
    {binding : Option Nat} :
    (∃ declaration ∈ source.declarations,
        declaration.resource? = some (cls, holder, binding)) ↔
      ∃ name ∈ (storage.list cls).names, holder = cls.mark ++ name ∧
        binding = made.program.binding? name := by
  have hsubset := h.names_subset (List.mem_of_getElem? hat.storage)
  rw [h.declared hat]
  constructor
  · rintro ⟨declaration, hmem, htold⟩
    rcases final.mem_declared.1 hmem with hstruct | ⟨cls', p, hp, rfl⟩ | ⟨p, -, rfl⟩ | ⟨p, -, rfl⟩
    · obtain ⟨_, _, rfl⟩ := Registry.struct_of_mem_structs hstruct
      cases htold
    · have hname := PropertyList.name_mem_names hp
      rw [h.resource?_resource (hsubset cls' hname)] at htold
      cases htold
      exact ⟨p.name, hname, rfl, rfl⟩
    · unfold Draft.taken at htold
      split at htold <;> cases htold
    · unfold Draft.handed at htold
      split at htold <;> cases htold
  · rintro ⟨name, hname, rfl, rfl⟩
    obtain ⟨p, hp, rfl⟩ := PropertyList.mem_names.1 hname
    exact ⟨final.resource made.plans p cls,
      final.mem_declared.2 (Or.inr (Or.inl ⟨cls, p, hp, rfl⟩)),
      h.resource?_resource (hsubset cls hname)⟩

/-- A storage block is declared with the access that the tasks of all stages have to it. -/
lemma access_of_declared (h : Finished setting made final) (hat : made.At i plan storage source)
    {binding : Nat} {readOnly writeOnly : Bool} {block holder : String} {content : BlockContent}
    (hmem : .storageBlock binding readOnly writeOnly block holder content ∈ source.declarations) :
    ∃ name ∈ made.program.storageBlocks.names,
      block = Mark.storageBlock ++ name ∧ holder = Mark.storageContent ++ name ∧
      readOnly = !(usage made.plans name).written ∧ writeOnly = !(usage made.plans name).read := by
  rw [h.declared hat] at hmem
  rcases final.mem_declared.1 hmem with hstruct | ⟨cls, p, hp, heq⟩ | ⟨p, -, heq⟩ | ⟨p, -, heq⟩
  · obtain ⟨_, _, ⟨⟩⟩ := Registry.struct_of_mem_structs hstruct
  · cases cls with
    | storageBlock =>
        cases heq
        exact ⟨p.name, h.names_subset (List.mem_of_getElem? hat.storage) .storageBlock
          (PropertyList.name_mem_names hp), rfl, rfl, rfl, rfl⟩
    | uniform => cases heq
    | sampler => cases heq
    | uniformBlock => cases heq
  · unfold Draft.taken at heq
    split at heq <;> cases heq
  · unfold Draft.handed at heq
    split at heq <;> cases heq

end Drafting.Finished

/-- **All stages of a program mean the same resource by a name.** -/
structure Blueprint.Coherent (made : Blueprint) : Prop where
  /-- No name is in two storage classes. -/
  apart : made.program.Apart
  /-- The names of samplers and blocks correspond one to one to the first numbers. -/
  numbered : made.program.boundNames.Nodup ∧
    ∃ number : {name // name ∈ made.program.boundNames} ≃ Fin made.program.boundNames.length,
      ∀ name, made.program.binding? name.1 = some (number name).1
  /-- No other name has a number. -/
  unbound : ∀ name, name ∉ made.program.boundNames → made.program.binding? name = none
  /-- Every source of a stage that carries data is taken in or comes through one class. -/
  sorted : ∀ i plan storage source, made.At i plan storage source →
    ∀ p ∈ plan.pipeline.sources.flatMap PropertyList.solid,
      p ∈ storage.inputs.entries ∨ ∃! cls, p ∈ (storage.list cls).entries
  /-- A class of a stage is part of that class of the program. -/
  shared : ∀ i plan storage source, made.At i plan storage source →
    ∀ cls, (storage.list cls).names ⊆ (made.program.list cls).names
  /-- A stage declares what comes through a class in that class, with the number that the program has
  for it, and declares no other resources. -/
  declared : ∀ i plan storage source, made.At i plan storage source →
    ∀ cls holder binding,
      (∃ declaration ∈ source.declarations,
        declaration.resource? = some (cls, holder, binding)) ↔
      ∃ name ∈ (storage.list cls).names, holder = cls.mark ++ name ∧
        binding = made.program.binding? name
  /-- A storage block is read-only exactly if no task of any stage outputs or filters it, and
  write-only exactly if none reads, consumes or filters it. -/
  access : ∀ i plan storage source, made.At i plan storage source →
    ∀ binding readOnly writeOnly block holder content,
      .storageBlock binding readOnly writeOnly block holder content ∈ source.declarations →
        ∃ name ∈ made.program.storageBlocks.names,
          block = Mark.storageBlock ++ name ∧ holder = Mark.storageContent ++ name ∧
          (readOnly = true ↔ ∀ plan ∈ made.plans,
            ¬ plan.Touched .writes name ∧ ¬ plan.Touched .filters name) ∧
          (writeOnly = true ↔ ∀ plan ∈ made.plans,
            ¬ plan.Touched .reads name ∧ ¬ plan.Touched .consumes name ∧
              ¬ plan.Touched .filters name)

/-- Whatever tasks there are and however they were chosen: in every program that can be drafted, all
stages mean the same resource by a name. -/
theorem coherent_of_blueprint (setting : Setting) (info : DeviceInfo)
    (requests : List StageRequest) (desired : PropertyList) {draft draft' : Draft}
    {made : Blueprint}
    (h : Drafting.blueprint setting info requests desired draft = .ok made draft') :
    made.Coherent := by
  obtain ⟨start, planned, assigned, hparts⟩ := Drafting.parts_of_blueprint h
  have hfinished := Drafting.finished_of_parts hparts
  have hbound := hfinished.apart.nodup_boundNames
  refine ⟨hfinished.apart, ⟨hbound, ?_⟩, fun _ => hfinished.binding?_eq_none, ?_, ?_, ?_, ?_⟩
  · exact ProgramStorage.exists_numbering hfinished.nodup hbound fun _ => hfinished.mem_bindings
  · intro i plan storage source hat p hp
    have hsorted := hfinished.sorted hat.plan hat.storage
    by_cases htakes : plan.takesIn setting
        (Drafting.handedTo none made.plans made.storages i) p.name = true
    · exact Or.inl ((hsorted.inputs p).2 ⟨hp, htakes⟩)
    · rw [Bool.not_eq_true] at htakes
      obtain ⟨cls, hcls⟩ := hsorted.classified p hp htakes
      refine Or.inr ⟨cls, (hsorted.lists cls p).2 ⟨hp, htakes, hcls⟩, ?_⟩
      intro cls' hcls'
      exact hfinished.apart ((hsorted.lists cls' p).1 hcls').2.2 hcls
  · intro i plan storage source hat
    exact hfinished.names_subset (List.mem_of_getElem? hat.storage)
  · intro i plan storage source hat cls holder binding
    exact hfinished.declares_resource_iff hat
  · intro i plan storage source hat binding readOnly writeOnly block holder content hmem
    obtain ⟨name, hname, hblock, hholder, rfl, rfl⟩ := hfinished.access_of_declared hat hmem
    refine ⟨name, hname, hblock, hholder, ?_, ?_⟩
    · rw [Bool.not_eq_true', ← Bool.not_eq_true, usage_written_iff]
      simp only [not_exists, not_and, not_or]
    · rw [Bool.not_eq_true', ← Bool.not_eq_true, usage_read_iff]
      simp only [not_exists, not_and, not_or]

/-- Points in a buffer. -/
def pointCloud : HostType := .declared "PointCloud" 8 8

/-- A lamp, which comes through a uniform block. -/
def lampType : HostType := .declared "Lamp" 8 8

/-- The basic types and lamps. -/
def lampRegistry : Registry :=
  let specified := Registry.ofBasics.specify { valueName := "Lamp", body := "\tvec4 tint;\n" }
  (specified.2.register lampType
    { type := specified.1, uniformBlock := some (Setter.buffer .uniform (.pointer lampType .vec4 .void)) }).2

/-- A vertex task that reads points and a fragment task that moves them. -/
def cloudScene : Setting where
  catalogue := ⟨[(pointCloud, .buffer (.pointer pointCloud .void .vec4))]⟩
  vertexLayout := {}
  resolver := ((TaskCollection.empty.register (.call "place"
      { inputs := .ofList [⟨"points", pointCloud⟩]
        outputs := .ofList [⟨vertexPosition, .vec4⟩] }) [.vertex]).register (.call "shade"
      { inputs := .ofList [⟨"cover", .texture⟩, ⟨"lamp", lampType⟩, ⟨"gain", .float⟩]
        filters := .ofList [⟨"points", pointCloud⟩]
        outputs := .ofList [⟨"color", .vec4⟩] }) [.fragment]).resolver
  options := {}

/-- A storage block that one stage reads and the next one changes, beside a sampler, a uniform block
and a uniform: both stages declare the block with the same number and without a restriction. -/
theorem coherent_of_blueprint_cloud : ∃ made draft',
    Drafting.blueprint cloudScene .ideal [.vertex .empty, .fragment .empty]
      (.ofList [⟨"color", .vec4⟩]) { registry := lampRegistry } = .ok made draft' ∧
    made.program.uniforms.names = ["gain"] ∧ made.program.boundNames = ["cover", "lamp", "points"] ∧
    made.program.binding? "points" = some 2 ∧
    (made.sources.map fun source => source.declarations.filter fun declaration =>
        (declaration.resource?.map Prod.fst) == some .storageBlock)
      = List.replicate 2 [.storageBlock 2 false false "buffer_block_points" "buffer_points"
          (.array "vec4")] ∧
    made.Coherent := by
  have htest : Outcome.passes (fun made : Blueprint =>
        decide (made.program.uniforms.names = ["gain"] ∧
          made.program.boundNames = ["cover", "lamp", "points"] ∧
          made.program.binding? "points" = some 2 ∧
          (made.sources.map fun source => source.declarations.filter fun declaration =>
              (declaration.resource?.map Prod.fst) == some .storageBlock)
            = List.replicate 2 [.storageBlock 2 false false "buffer_block_points" "buffer_points"
                (.array "vec4")]))
      (Drafting.blueprint cloudScene .ideal [.vertex .empty, .fragment .empty]
        (.ofList [⟨"color", .vec4⟩]) { registry := lampRegistry }) = true := by decide +kernel
  obtain ⟨made, draft', hmade, htest⟩ := Outcome.exists_of_passes htest
  obtain ⟨huniforms, hbound, hnumber, hblocks⟩ := of_decide_eq_true htest
  exact ⟨made, draft', hmade, huniforms, hbound, hnumber, hblocks,
    coherent_of_blueprint cloudScene .ideal _ _ hmade⟩

end ShaderWeave
