import ShaderWeave.Proofs.Stages

/-!
# Storage classes of a program

A property from outside that no stage hands over comes through a storage class.  The class is chosen
when the first stage asks, and all stages share the choice.  **The choice is made once:** lists only
grow, no name gets into two of them (`ProgramStorage.Apart`), and so what a stage was given still
agrees with the program when all stages are done.

* `StagePlan.takesIn` — a stage takes a property in from the mesh or from the stage before.
* `StageStorage.Sorted` — every source of a stage is among its inputs, if it is taken in, or else in
  the list of the class that the program has for it.
* `Drafting.Shared` — every stage is sorted by the classes of the finished program, and every
  classified property is the one that the first stage with its name had.
-/

namespace ShaderWeave

/-- The properties of a storage class in a stage. -/
def StageStorage.list (storage : StageStorage) : StorageClass → PropertyList
  | .uniform => storage.uniforms
  | .sampler => storage.samplers
  | .uniformBlock => storage.uniformBlocks
  | .storageBlock => storage.storageBlocks

/-- The stage takes a property in from the mesh or from the stage before. -/
def StagePlan.takesIn (setting : Setting) (plan : StagePlan) (previous : Option Handover)
    (name : String) : Bool :=
  if plan.request.stage = .vertex then setting.vertexLayout.contains name
  else previous.any fun handover => handover.outputs.contains name

namespace ProgramStorage

variable {program program' : ProgramStorage} {cls : StorageClass} {property : Property}
  {name : String}

/-- No name is in two storage classes. -/
def Apart (program : ProgramStorage) : Prop :=
  ∀ ⦃name : String⦄ ⦃cls cls' : StorageClass⦄, name ∈ (program.list cls).names →
    name ∈ (program.list cls').names → cls = cls'

lemma apart_fresh : ({} : ProgramStorage).Apart := by
  intro name cls cls' h
  cases cls <;> exact absurd h List.not_mem_nil

lemma class?_eq_none : program.class? name = none ↔ ∀ cls, name ∉ (program.list cls).names := by
  simp only [class?, List.find?_eq_none, PropertyList.contains_iff]
  constructor
  · intro h cls
    exact h cls (by cases cls <;> decide)
  · exact fun h cls _ => h cls

lemma mem_of_class? (h : program.class? name = some cls) : name ∈ (program.list cls).names := by
  simpa using List.find?_some h

/-- The name of a property has a storage class: it was there already and nothing changed, or the
property was put there. -/
structure Classed (property : Property) (cls : StorageClass) (program program' : ProgramStorage) :
    Prop where
  kept : ∀ cls', (program.list cls').entries ⊆ (program'.list cls').entries
  added : ∀ cls', ∀ p ∈ (program'.list cls').entries,
    p ∈ (program.list cls').entries ∨ cls' = cls ∧ p = property
  placed : property.name ∈ (program'.list cls).names
  apart : program'.Apart
  bindings : program'.bindings = program.bindings

lemma Classed.names (h : Classed property cls program program') (cls' : StorageClass)
    (other : String) : other ∈ (program'.list cls').names ↔
      other ∈ (program.list cls').names ∨ cls' = cls ∧ other = property.name := by
  constructor
  · intro hother
    obtain ⟨p, hp, rfl⟩ := PropertyList.mem_names.1 hother
    exact (h.added cls' p hp).imp PropertyList.name_mem_names fun ⟨hcls, heq⟩ => ⟨hcls, heq ▸ rfl⟩
  · rintro (hother | ⟨rfl, rfl⟩)
    · exact List.map_subset _ (h.kept cls') hother
    · exact h.placed

lemma classed_of_class? (h : program.Apart) (hclass : program.class? property.name = some cls) :
    Classed property cls program program :=
  ⟨fun _ => List.Subset.refl _, fun _ _ => Or.inl, mem_of_class? hclass, h, rfl⟩

lemma classed_insert (h : program.Apart) (hclass : program.class? property.name = none)
    (cls : StorageClass) :
    Classed property cls program (program.insert cls property) := by
  have hkept : ∀ cls', (program.list cls').entries
      ⊆ ((program.insert cls property).list cls').entries := by
    intro cls'
    rw [list_insert]
    split_ifs
    · exact PropertyList.entries_subset_insert _ _
    · exact List.Subset.refl _
  have hplaced : property.name ∈ ((program.insert cls property).list cls).names := by
    rw [list_insert, if_pos rfl]
    exact PropertyList.mem_names_insert.2 (Or.inr rfl)
  have hnames : ∀ cls' other, other ∈ ((program.insert cls property).list cls').names →
      other ∈ (program.list cls').names ∨ cls' = cls ∧ other = property.name := by
    intro cls' other hother
    obtain ⟨p, hp, rfl⟩ := PropertyList.mem_names.1 hother
    exact (mem_list_insert hp).imp PropertyList.name_mem_names fun ⟨hcls, heq⟩ =>
      ⟨hcls, heq ▸ rfl⟩
  refine ⟨hkept, fun _ _ => mem_list_insert, hplaced, ?_, by cases cls <;> rfl⟩
  have hnew := class?_eq_none.1 hclass
  intro other first second hfirst hsecond
  rcases hnames first other hfirst with hold | ⟨rfl, rfl⟩
  · rcases hnames second other hsecond with hold' | ⟨rfl, rfl⟩
    · exact h hold hold'
    · exact absurd hold (hnew first)
  · rcases hnames second _ hsecond with hold' | ⟨rfl, -⟩
    · exact absurd hold' (hnew second)
    · rfl

end ProgramStorage

/-! ## One source -/

namespace Drafting

variable {setting : Setting} {plan : StagePlan} {previous : Option Handover}
  {storage storage' : StageStorage} {property : Property} {draft draft' : Draft}
  {cls : StorageClass}

lemma classed_of_classify (hapart : draft.program.Apart)
    (h : classify setting property draft = .ok cls draft') :
    draft.program.Classed property cls draft'.program := by
  unfold classify at h
  obtain ⟨_, _, ⟨⟩, h⟩ := Outcome.bind_ok h
  cases hclass : draft.program.class? property.name with
  | some found =>
      simp only [hclass] at h
      obtain ⟨rfl, rfl⟩ := Outcome.pure_ok h
      exact ProgramStorage.classed_of_class? hapart hclass
  | none =>
      simp only [hclass] at h
      obtain ⟨conversion, draft₁, hconversion, h⟩ := Outcome.bind_ok h
      have hkept := keeps_sourceConversion setting property _ _ _ hconversion
      cases hchosen : conversion.storageClass? with
      | none => simp only [hchosen] at h; exact absurd h (by rintro ⟨⟩)
      | some chosen =>
          simp only [hchosen] at h
          obtain ⟨_, draft₂, hreport, h⟩ := Outcome.bind_ok h
          obtain ⟨_, _, ⟨⟩, h⟩ := Outcome.bind_ok h
          obtain ⟨rfl, rfl⟩ := Outcome.pure_ok h
          have hsame := (keeps_report _ _ _ _ hreport).trans hkept
          simpa only [hsame] using ProgramStorage.classed_insert hapart hclass chosen

/-- **What happens to a source:** it is taken in, and no storage class changes, or it is put where the
class of its name has it. -/
lemma assignSource_cases (hapart : draft.program.Apart)
    (h : assignSource setting plan previous storage property draft = .ok storage' draft') :
    (plan.takesIn setting previous property.name = true ∧
      storage'.inputs = storage.inputs.insert property ∧
      (∀ cls, storage'.list cls = storage.list cls) ∧
      (∀ cls, draft'.program.list cls = draft.program.list cls) ∧
      draft'.program.bindings = draft.program.bindings) ∨
    (plan.takesIn setting previous property.name = false ∧ storage'.inputs = storage.inputs ∧
      ∃ cls, (∀ cls', storage'.list cls'
          = if cls' = cls then (storage.list cls').insert property else storage.list cls') ∧
        draft.program.Classed property cls draft'.program) := by
  unfold assignSource at h
  dsimp only at h
  split_ifs at h with hvertex hhanded
  · obtain ⟨_, draft₁, hmodify, h⟩ := Outcome.bind_ok h
    obtain ⟨rfl, rfl⟩ := Outcome.pure_ok h
    cases hmodify
    refine Or.inl ⟨?_, rfl, ?_, ?_, rfl⟩
    · rw [Bool.and_eq_true, decide_eq_true_eq] at hvertex
      rw [StagePlan.takesIn, if_pos hvertex.1, hvertex.2]
    · intro cls
      cases cls <;> rfl
    · intro cls
      cases cls <;> rfl
  · obtain ⟨rfl, rfl⟩ := Outcome.pure_ok h
    refine Or.inl ⟨?_, rfl, ?_, fun _ => rfl, rfl⟩
    · rw [Bool.and_eq_true, decide_eq_true_eq] at hhanded
      rw [StagePlan.takesIn, if_neg hhanded.1, ← hhanded.2]
      cases previous <;> rfl
    · intro cls
      cases cls <;> rfl
  · obtain ⟨cls, draft₁, hclassify, h⟩ := Outcome.bind_ok h
    obtain ⟨rfl, rfl⟩ := Outcome.pure_ok h
    refine Or.inr ⟨?_, by cases cls <;> rfl, cls, ?_, classed_of_classify hapart hclassify⟩
    · unfold StagePlan.takesIn
      split_ifs with hstage
      · simpa [hstage] using hvertex
      · cases previous with
        | none => rfl
        | some handover => simpa [hstage, PropertyList.contains] using hhanded
    · intro cls'
      cases cls <;> cases cls' <;> rfl

end Drafting

/-! ## The loop over the sources -/

namespace StageStorage

variable {takes : String → Bool} {program program' start : ProgramStorage}
  {sources : List Property} {storage storage' : StageStorage} {property : Property}
  {cls : StorageClass}

/-- **The sources of a stage are sorted:** what is taken in is among the inputs, and everything else is
in the list of its storage class. -/
structure Sorted (takes : String → Bool) (program : ProgramStorage) (sources : List Property)
    (storage : StageStorage) : Prop where
  inputs : ∀ p, p ∈ storage.inputs.entries ↔ p ∈ sources ∧ takes p.name = true
  lists : ∀ cls p, p ∈ (storage.list cls).entries ↔
    p ∈ sources ∧ takes p.name = false ∧ p.name ∈ (program.list cls).names
  classified : ∀ p ∈ sources, takes p.name = false → ∃ cls, p.name ∈ (program.list cls).names

/-- The storage classes of a program grew by properties that a stage was given. -/
structure Grows (start program : ProgramStorage) (storage : StageStorage) : Prop where
  kept : ∀ cls, (start.list cls).entries ⊆ (program.list cls).entries
  added : ∀ cls, ∀ p ∈ (program.list cls).entries,
    p ∈ (start.list cls).entries ∨ p ∈ (storage.list cls).entries
  bindings : program.bindings = start.bindings

namespace Sorted

lemma nil (takes : String → Bool) (program : ProgramStorage) (mark : String) :
    Sorted takes program [] { inMark := mark } where
  inputs := by simp
  lists := by
    intro cls p
    cases cls <;> simp [list]
  classified := by simp

/-- What comes into a stage comes in one way. -/
lemma only (h : Sorted takes program sources storage) (hapart : program.Apart) (cls : StorageClass)
    {name : String} (hname : name ∈ (storage.list cls).names) :
    name ∉ storage.inputs.names ∧ ∀ cls', name ∈ (storage.list cls').names → cls' = cls := by
  obtain ⟨p, hp, rfl⟩ := PropertyList.mem_names.1 hname
  obtain ⟨-, htakes, hcls⟩ := (h.lists cls p).1 hp
  refine ⟨?_, ?_⟩
  · intro hinput
    obtain ⟨q, hq, heq⟩ := PropertyList.mem_names.1 hinput
    have htaken := ((h.inputs q).1 hq).2
    rw [heq, htakes] at htaken
    cases htaken
  · intro cls' hname'
    obtain ⟨q, hq, heq⟩ := PropertyList.mem_names.1 hname'
    have hcls' := ((h.lists cls' q).1 hq).2.2
    rw [heq] at hcls'
    exact hapart hcls' hcls

/-- Being sorted survives the choice of further classes. -/
lemma grow (h : Sorted takes program sources storage) (hapart : program'.Apart)
    (hkept : ∀ cls, (program.list cls).names ⊆ (program'.list cls).names) :
    Sorted takes program' sources storage where
  inputs := h.inputs
  lists := by
    intro cls p
    rw [h.lists]
    refine and_congr_right fun hp => and_congr_right fun htakes => ?_
    constructor
    · exact fun hname => hkept cls hname
    · intro hname
      obtain ⟨own, hown⟩ := h.classified p hp htakes
      rwa [hapart hname (hkept own hown)]
  classified := by
    intro p hp htakes
    obtain ⟨cls, hcls⟩ := h.classified p hp htakes
    exact ⟨cls, hkept cls hcls⟩

/-- Taking a property in. -/
lemma takeIn (h : Sorted takes program sources storage) (htakes : takes property.name = true)
    (hnew : property.name ∉ sources.map Property.name)
    (hinputs : storage'.inputs = storage.inputs.insert property)
    (hlists : ∀ cls, storage'.list cls = storage.list cls) :
    Sorted takes program (sources ++ [property]) storage' where
  inputs := by
    have hfresh : property.name ∉ storage.inputs.names := by
      intro hmem
      obtain ⟨p, hp, heq⟩ := PropertyList.mem_names.1 hmem
      exact hnew (List.mem_map.2 ⟨p, ((h.inputs p).1 hp).1, heq⟩)
    intro p
    rw [hinputs, PropertyList.mem_entries_insert hfresh, h.inputs, List.mem_append,
      List.mem_singleton]
    constructor
    · rintro (⟨hp, hin⟩ | rfl)
      · exact ⟨Or.inl hp, hin⟩
      · exact ⟨Or.inr rfl, htakes⟩
    · rintro ⟨hp | rfl, hin⟩
      · exact Or.inl ⟨hp, hin⟩
      · exact Or.inr rfl
  lists := by
    intro cls p
    rw [hlists, h.lists, List.mem_append, List.mem_singleton]
    constructor
    · rintro ⟨hp, hrest⟩
      exact ⟨Or.inl hp, hrest⟩
    · rintro ⟨hp | rfl, hout, hname⟩
      · exact ⟨hp, hout, hname⟩
      · rw [htakes] at hout
        cases hout
  classified := by
    intro p hp hout
    rcases List.mem_append.1 hp with hp | hp
    · exact h.classified p hp hout
    · rw [List.mem_singleton.1 hp, htakes] at hout
      cases hout

/-- Putting a property into the list of its class. -/
lemma put (h : Sorted takes program sources storage) (htakes : takes property.name = false)
    (hnew : property.name ∉ sources.map Property.name) (hinputs : storage'.inputs = storage.inputs)
    (hlists : ∀ cls', storage'.list cls'
      = if cls' = cls then (storage.list cls').insert property else storage.list cls')
    (hclassed : program.Classed property cls program') :
    Sorted takes program' (sources ++ [property]) storage' := by
  have hmine : property.name ∈ (program'.list cls).names := hclassed.placed
  have hgrown := h.grow hclassed.apart fun cls' => List.map_subset _ (hclassed.kept cls')
  refine ⟨?_, ?_, ?_⟩
  · intro p
    rw [hinputs, h.inputs, List.mem_append, List.mem_singleton]
    constructor
    · rintro ⟨hp, hin⟩
      exact ⟨Or.inl hp, hin⟩
    · rintro ⟨hp | rfl, hin⟩
      · exact ⟨hp, hin⟩
      · rw [htakes] at hin
        cases hin
  · intro cls' p
    rw [List.mem_append, List.mem_singleton, hlists]
    split_ifs with hcls
    · subst hcls
      have hfresh : property.name ∉ (storage.list cls').names := by
        intro hmem
        obtain ⟨p, hp, heq⟩ := PropertyList.mem_names.1 hmem
        exact hnew (List.mem_map.2 ⟨p, ((h.lists cls' p).1 hp).1, heq⟩)
      rw [PropertyList.mem_entries_insert hfresh, hgrown.lists]
      constructor
      · rintro (⟨hp, hrest⟩ | rfl)
        · exact ⟨Or.inl hp, hrest⟩
        · exact ⟨Or.inr rfl, htakes, hmine⟩
      · rintro ⟨hp | rfl, hrest⟩
        · exact Or.inl ⟨hp, hrest⟩
        · exact Or.inr rfl
    · rw [hgrown.lists]
      constructor
      · rintro ⟨hp, hrest⟩
        exact ⟨Or.inl hp, hrest⟩
      · rintro ⟨hp | rfl, hout, hname⟩
        · exact ⟨hp, hout, hname⟩
        · exact absurd (hclassed.apart hname hmine) hcls
  · intro p hp hout
    rcases List.mem_append.1 hp with hp | hp
    · exact hgrown.classified p hp hout
    · rw [List.mem_singleton.1 hp]
      exact ⟨cls, hmine⟩

end Sorted

lemma Grows.refl (program : ProgramStorage) (storage : StageStorage) :
    Grows program program storage where
  kept := fun _ => List.Subset.refl _
  added := fun _ _ => Or.inl
  bindings := rfl

/-- The loop over the sources sorts them. -/
lemma sorted_of_sources {setting : Setting} {plan : StagePlan} {previous : Option Handover}
    {mark : String} {draft draft' : Draft} (hapart : draft.program.Apart)
    (hnodup : (sources.map Property.name).Nodup)
    (h : sources.foldlM (Drafting.assignSource setting plan previous) { inMark := mark } draft
      = .ok storage draft') :
    draft'.program.Apart ∧ storage.Sorted (plan.takesIn setting previous) draft'.program sources ∧
      Grows draft.program draft'.program storage := by
  refine (Outcome.steps_of_foldlM_states h).invariant
    (P := fun done now => now.2.program.Apart ∧
      now.1.Sorted (plan.takesIn setting previous) now.2.program done ∧
      Grows draft.program now.2.program now.1) ?_
    ⟨hapart, Sorted.nil _ _ _, Grows.refl _ _⟩
  rintro done property ⟨current, before⟩ ⟨current', after⟩ hfront ⟨hapart, hsorted, hgrows⟩ hok
  have hnew := name_not_mem_done hnodup hfront
  rcases Drafting.assignSource_cases hapart hok with
    ⟨htakes, hinputs, hlists, hprogram, hbindings⟩ | ⟨htakes, hinputs, cls, hlists, hclassed⟩
  · have hapart' : after.program.Apart := by
      intro name cls cls'
      rw [hprogram, hprogram]
      exact fun hname hname' => hapart hname hname'
    refine ⟨hapart', ?_, ?_, ?_, hbindings.trans hgrows.bindings⟩
    · exact (hsorted.takeIn htakes hnew hinputs hlists).grow hapart' fun cls => by
        rw [hprogram]
        exact List.Subset.refl _
    · intro cls
      rw [hprogram]
      exact hgrows.kept cls
    · intro cls
      rw [hprogram, hlists]
      exact hgrows.added cls
  · refine ⟨hclassed.apart, hsorted.put htakes hnew hinputs hlists hclassed, ?_, ?_,
      hclassed.bindings.trans hgrows.bindings⟩
    · exact fun cls' => List.Subset.trans (hgrows.kept cls') (hclassed.kept cls')
    · intro cls' p hp
      rw [hlists]
      rcases hclassed.added cls' p hp with hp | ⟨rfl, rfl⟩
      · refine (hgrows.added cls' p hp).imp_right fun hmem => ?_
        split_ifs
        · exact PropertyList.entries_subset_insert _ _ hmem
        · exact hmem
      · have hfresh : p.name ∉ (current.list cls').names := by
          intro hmem
          obtain ⟨q, hq, heq⟩ := PropertyList.mem_names.1 hmem
          exact hnew (List.mem_map.2 ⟨q, ((hsorted.lists cls' q).1 hq).1, heq⟩)
        rw [if_pos rfl]
        exact Or.inr ((PropertyList.mem_entries_insert hfresh).2 (Or.inr rfl))

/-! ## The stages of a program -/

/-- What every step after the sources leaves alone: what came in stays, and what is handed on or copied
stays handed on or copied. -/
structure Continues (storage storage' : StageStorage) : Prop where
  inputs : storage'.inputs = storage.inputs
  list : ∀ cls, storage'.list cls = storage.list cls
  outputs : storage.outputs.names ⊆ storage'.outputs.names
  innerCopies : storage.innerCopies.names ⊆ storage'.innerCopies.names

namespace Continues

variable {setting : Setting} {plan : StagePlan} {last : Bool} {draft draft' : Draft}

lemma refl (storage : StageStorage) : Continues storage storage :=
  ⟨rfl, fun _ => rfl, List.Subset.refl _, List.Subset.refl _⟩

lemma trans {storage'' : StageStorage} (h : Continues storage storage')
    (h' : Continues storage' storage'') : Continues storage storage'' where
  inputs := h'.inputs.trans h.inputs
  list := fun cls => (h'.list cls).trans (h.list cls)
  outputs := List.Subset.trans h.outputs h'.outputs
  innerCopies := List.Subset.trans h.innerCopies h'.innerCopies

lemma names_subset_insert (list : PropertyList) (property : Property) :
    list.names ⊆ (list.insert property).names :=
  fun _ hname => PropertyList.mem_names_insert.2 (Or.inl hname)

lemma of_filter
    (h : Drafting.assignFilter setting plan storage property draft = .ok storage' draft') :
    Continues storage storage' := by
  rcases assignFilter_cases h with ⟨-, rfl⟩ | ⟨-, -, rfl⟩ | ⟨-, -, rfl⟩
  · exact refl _
  · exact ⟨rfl, fun cls => by cases cls <;> rfl, names_subset_insert _ _, List.Subset.refl _⟩
  · exact ⟨rfl, fun cls => by cases cls <;> rfl, List.Subset.refl _, names_subset_insert _ _⟩

lemma of_through
    (h : Drafting.assignThrough setting plan last storage property draft = .ok storage' draft') :
    Continues storage storage' := by
  rcases assignThrough_cases h with ⟨-, rfl⟩ | ⟨-, rfl⟩
  · exact refl _
  · exact ⟨rfl, fun cls => by cases cls <;> rfl, names_subset_insert _ _, List.Subset.refl _⟩

lemma of_output
    (h : Drafting.assignOutput setting plan storage property draft = .ok storage' draft') :
    Continues storage storage' := by
  obtain rfl := assignOutput_eq h
  exact ⟨rfl, fun cls => by cases cls <;> rfl, names_subset_insert _ _, List.Subset.refl _⟩

lemma of_inner (h : Drafting.assignInner setting storage property draft = .ok storage' draft') :
    Continues storage storage' := by
  obtain rfl := assignInner_eq h
  exact ⟨rfl, fun cls => by cases cls <;> rfl, List.Subset.refl _, List.Subset.refl _⟩

/-- A loop leaves alone what its steps leave alone. -/
lemma of_foldlM {step : StageStorage → Property → Drafting StageStorage}
    (hstep : ∀ {s p d s' d'}, step s p d = .ok s' d' → Continues s s')
    (h : sources.foldlM step storage draft = .ok storage' draft') :
    Continues storage storage' := by
  refine (Outcome.steps_of_foldlM_state h).invariant (P := fun _ s => Continues storage s) ?_
    (refl storage)
  rintro done property current current' - hcontinues ⟨before, after, hok⟩
  exact hcontinues.trans (hstep hok)

end Continues

/-- An assignment sorts the sources of its stage. -/
lemma sorted_of_assignStage {setting : Setting} {plan : StagePlan} {previous : Option Handover}
    {last : Bool} {draft draft' : Draft} (hdisjoint : plan.pipeline.Disjoint)
    (hapart : draft.program.Apart)
    (h : Drafting.assignStage setting plan previous last draft = .ok storage draft') :
    draft'.program.Apart ∧
      storage.Sorted (plan.takesIn setting previous) draft'.program
        (plan.pipeline.sources.flatMap PropertyList.solid) ∧
      Grows draft.program draft'.program storage := by
  obtain ⟨s₁, d₁, s₂, d₂, s₃, d₃, s₄, d₄, s₅, d₅, types, hsources, hfilters, hthroughs, houtputs,
    hinners, rfl, hprogram⟩ := loops_of_assignStage h
  have hsame : Continues s₁ s₅ :=
    (Continues.of_foldlM Continues.of_filter hfilters).trans <|
      (Continues.of_foldlM Continues.of_through hthroughs).trans <|
        (Continues.of_foldlM Continues.of_output houtputs).trans
          (Continues.of_foldlM Continues.of_inner hinners)
  have hlist : ∀ cls, StageStorage.list { s₅ with
      aliases := .layered [plan.request.aliases] s₅.renames, types } cls = s₁.list cls := by
    intro cls
    rw [← hsame.list cls]
    cases cls <;> rfl
  rw [hprogram]
  obtain ⟨hapart', hsorted, hgrows⟩ :=
    sorted_of_sources hapart hdisjoint.nodup_sourceNames hsources
  refine ⟨hapart', ⟨?_, ?_, hsorted.classified⟩, hgrows.kept, ?_, hgrows.bindings⟩
  · rw [hsame.inputs]
    exact hsorted.inputs
  · intro cls
    rw [hlist]
    exact hsorted.lists cls
  · intro cls
    rw [hlist]
    exact hgrows.added cls

end StageStorage

namespace Drafting

variable {setting : Setting} {draft draft' : Draft}

/-- The property comes through a class in one of the stages, and in no stage before that does its
name. -/
def Introduced (storages : List StageStorage) (cls : StorageClass) (property : Property) : Prop :=
  ∃ earlier storage later, storages = earlier ++ storage :: later ∧
    property ∈ (storage.list cls).entries ∧
    ∀ before ∈ earlier, property.name ∉ (before.list cls).names

/-- **The stages of a program share their classes:** every stage is sorted by the classes of the
finished program, and every property classified on the way is that of the first stage with its
name. -/
structure Shared (setting : Setting) (previous : Option Handover) (plans : List StagePlan)
    (storages : List StageStorage) (start program : ProgramStorage) : Prop where
  apart : program.Apart
  bindings : program.bindings = start.bindings
  kept : ∀ cls, (start.list cls).entries ⊆ (program.list cls).entries
  added : ∀ cls, ∀ p ∈ (program.list cls).entries, p ∈ (start.list cls).entries ∨
    Introduced storages cls p
  sorted : ∀ (i : Nat) (plan : StagePlan) (storage : StageStorage), plans[i]? = some plan →
    storages[i]? = some storage →
    storage.Sorted (plan.takesIn setting (handedTo previous plans storages i)) program
      (plan.pipeline.sources.flatMap PropertyList.solid)

lemma shared_of_assignStages {previous : Option Handover} {plans : List StagePlan}
    {storages : List StageStorage} (hdisjoint : ∀ plan ∈ plans, plan.pipeline.Disjoint)
    (hapart : draft.program.Apart)
    (h : assignStages setting previous plans draft = .ok storages draft') :
    Shared setting previous plans storages draft.program draft'.program := by
  induction plans generalizing previous storages draft with
  | nil =>
      obtain ⟨rfl, rfl⟩ := Outcome.pure_ok h
      exact ⟨hapart, rfl, fun _ => List.Subset.refl _, fun _ _ => Or.inl, by simp⟩
  | cons first rest ih =>
      rw [assignStages] at h
      obtain ⟨placed, draft₁, hfirst, h⟩ := Outcome.bind_ok h
      obtain ⟨others, draft₂, hothers, h⟩ := Outcome.bind_ok h
      obtain ⟨rfl, rfl⟩ := Outcome.pure_ok h
      obtain ⟨hapart₁, hsorted, hgrows⟩ :=
        StageStorage.sorted_of_assignStage (hdisjoint first List.mem_cons_self) hapart hfirst
      have hrest := ih (fun plan hplan => hdisjoint plan (List.mem_cons_of_mem _ hplan)) hapart₁
        hothers
      refine ⟨hrest.apart, hrest.bindings.trans hgrows.bindings, ?_, ?_, ?_⟩
      · exact fun cls => List.Subset.trans (hgrows.kept cls) (hrest.kept cls)
      · intro cls p hp
        by_cases hearly : p ∈ (draft₁.program.list cls).entries
        · exact (hgrows.added cls p hearly).imp_right fun hmem =>
            ⟨[], placed, others, rfl, hmem, by simp⟩
        · obtain ⟨earlier, storage, later, rfl, hmem, hbefore⟩ :=
            (hrest.added cls p hp).resolve_left hearly
          refine Or.inr ⟨placed :: earlier, storage, later, rfl, hmem, ?_⟩
          intro before hin
          rcases List.mem_cons.1 hin with rfl | hin
          · -- A property of this name would have stayed in its place, so it would be this one.
            intro hname
            obtain ⟨own, hown, heq⟩ := PropertyList.mem_names.1 hname
            obtain ⟨q, hq, hsame⟩ := PropertyList.mem_names.1 ((hsorted.lists cls own).1 hown).2.2
            have hpq : q = p := PropertyList.eq_of_name_eq (hrest.kept cls hq) hp
              (hsame.trans heq)
            exact hearly (hpq ▸ hq)
          · exact hbefore before hin
      · intro i plan storage hplan hstorage
        cases i with
        | zero =>
            obtain rfl : first = plan := by simpa using hplan
            obtain rfl : placed = storage := by simpa using hstorage
            -- Later stages choose further classes, but none for a name that has one.
            exact hsorted.grow hrest.apart fun cls => List.map_subset _ (hrest.kept cls)
        | succ i =>
            rw [handedTo_succ]
            exact hrest.sorted i plan storage hplan hstorage

end Drafting

end ShaderWeave
