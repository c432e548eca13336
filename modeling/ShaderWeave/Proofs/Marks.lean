import ShaderWeave.Proofs.Variables

/-!
# Marks keep variables apart

A variable is a mark and the name of a property.  **No mark of a variable is the beginning of
another,** so two properties never share a variable, wherever they were put
(`Mark.append_inj`, `StageStorage.Fits.slot_inj`).

Where no property and no alias is spelled like a variable, and aliases run in no circle, the way from
a name to its variable is straight, and every task names the variables of its own properties
(`StageStorage.Fits.choice_eq_slot`).  This does not depend on which marks the stages have
(`StageStorage.Fits.choice_eq_slot_of`).
-/

namespace ShaderWeave

namespace Mark

def all : List String :=
  [uniform, sampler, uniformBlock, uniformContent, storageBlock, storageContent, inner, element,
    vertexOut, fragmentOut, computeOut]

/-- The marks of variables that hold a property. -/
def holders : List String :=
  [uniform, sampler, uniformContent, storageContent, inner, element, vertexOut, fragmentOut,
    computeOut]

/-- A name starts with one of some marks. -/
def Begins (marks : List String) (name : String) : Prop := ∃ mark ∈ marks, ∃ rest, name = mark ++ rest

instance (marks : List String) (name : String) : Decidable (Begins marks name) :=
  decidable_of_iff (∃ mark ∈ marks, mark.toList <+: name.toList) (by
    constructor
    · rintro ⟨mark, hmark, rest, hrest⟩
      refine ⟨mark, hmark, String.ofList rest, ?_⟩
      rw [← String.toList_inj, String.toList_append, String.toList_ofList, hrest]
    · rintro ⟨mark, hmark, rest, rfl⟩
      exact ⟨mark, hmark, rest.toList, (String.toList_append).symm⟩)

/-- A name starts with a mark. -/
def Marked (name : String) : Prop := ∃ mark ∈ all, ∃ rest, name = mark ++ rest

instance (name : String) : Decidable (Marked name) := inferInstanceAs (Decidable (Begins all name))

/-- None of the marks is the beginning of another. -/
def Apart (marks : List String) : Prop :=
  ∀ mark ∈ marks, ∀ mark' ∈ marks, mark.toList <+: mark'.toList → mark = mark'

instance (marks : List String) : Decidable (Apart marks) :=
  inferInstanceAs (Decidable (∀ mark ∈ marks, ∀ mark' ∈ marks,
    mark.toList <+: mark'.toList → mark = mark'))

/-- A text has one such mark at most in front. -/
lemma Apart.append_inj {marks : List String} (h : Apart marks) {mark mark' a b : String}
    (hmark : mark ∈ marks) (hmark' : mark' ∈ marks) (heq : mark ++ a = mark' ++ b) :
    mark = mark' ∧ a = b := by
  have hlist : mark.toList ++ a.toList = mark'.toList ++ b.toList := by
    rw [← String.toList_append, heq, String.toList_append]
  have hsame : mark = mark' := by
    rcases List.prefix_or_prefix_of_prefix (List.prefix_append _ a.toList)
      (hlist ▸ List.prefix_append mark'.toList b.toList) with hbefore | hbefore
    · exact h mark hmark mark' hmark' hbefore
    · exact (h mark' hmark' mark hmark hbefore).symm
  subst hsame
  exact ⟨rfl, String.toList_inj.1 (List.append_cancel_left hlist)⟩

/-- **No mark of a variable is the beginning of another.** -/
lemma append_inj {mark mark' a b : String} (hmark : mark ∈ holders) (hmark' : mark' ∈ holders)
    (h : mark ++ a = mark' ++ b) : mark = mark' ∧ a = b := by
  have hapart : Apart holders := by decide
  exact hapart.append_inj hmark hmark' h

end Mark

/-! ## Stages with their usual marks -/

namespace StageRequest

variable {request other : StageRequest} {previous : Option Handover}

/-- A vertex, a fragment or a compute stage, with the mark that belongs to it. -/
inductive Standard : StageRequest → Prop where
  | vertex (aliases : Aliases) : Standard (.vertex aliases)
  | fragment (aliases : Aliases) : Standard (.fragment aliases)
  | compute (aliases : Aliases) (dispatch : Dispatch) : Standard (.compute aliases dispatch)

/-- The stage before, if there is one, is of another kind. -/
def Follows (request : StageRequest) (previous : Option Handover) : Prop :=
  ∀ handover, previous = some handover → ∃ before : StageRequest,
    before.Standard ∧ before.stage ≠ request.stage ∧ handover.mark = before.outMark

lemma Standard.outMark_mem (h : request.Standard) :
    request.outMark ∈ Mark.holders ∧ request.outMark ∉
      [Mark.uniform, Mark.sampler, Mark.uniformContent, Mark.storageContent, Mark.inner,
        Mark.element] := by
  cases h with
  | vertex aliases =>
      show Mark.vertexOut ∈ Mark.holders ∧ Mark.vertexOut ∉ _
      decide
  | fragment aliases =>
      show Mark.fragmentOut ∈ Mark.holders ∧ Mark.fragmentOut ∉ _
      decide
  | compute aliases dispatch =>
      show Mark.computeOut ∈ Mark.holders ∧ Mark.computeOut ∉ _
      decide

/-- Stages of different kinds have different marks. -/
lemma Standard.outMark_ne (h : request.Standard) (hother : other.Standard)
    (hstage : other.stage ≠ request.stage) : other.outMark ≠ request.outMark := by
  have hvf : Mark.vertexOut ≠ Mark.fragmentOut := by decide
  have hvc : Mark.vertexOut ≠ Mark.computeOut := by decide
  have hfc : Mark.fragmentOut ≠ Mark.computeOut := by decide
  cases h <;> cases hother <;>
    first
    | exact absurd rfl hstage
    | assumption
    | exact Ne.symm (by assumption)

/-- What comes in from the mesh or from the stage before is not mistaken for what the stage hands
on. -/
lemma Standard.inMark_mem (h : request.Standard) (hfollows : request.Follows previous) :
    request.inMark previous ∈ Mark.holders ∧ request.inMark previous ≠ request.outMark := by
  have helement : Mark.element ∈ Mark.holders ∧ Mark.element ≠ request.outMark := by
    refine ⟨by decide, ?_⟩
    intro heq
    exact h.outMark_mem.2 (heq ▸ by decide)
  unfold inMark
  split
  · exact helement
  · exact helement
  · next handover _ =>
      obtain ⟨before, hbefore, hstage, hmark⟩ := hfollows handover rfl
      rw [hmark]
      exact ⟨hbefore.outMark_mem.1, h.outMark_ne hbefore hstage⟩

end StageRequest

namespace StageStorage

variable {plan : StagePlan} {storage : StageStorage} {previous : Option Handover}
  {collection : TaskCollection} {found : Pipeline} {name other mark : String}

/-- The variable that holds a property while the tasks run. -/
def slot (storage : StageStorage) (plan : StagePlan) (name : String) : String :=
  (storage.placeMark? plan name).getD "" ++ name

lemma slot_eq (h : storage.placeMark? plan name = some mark) :
    storage.slot plan name = mark ++ name := by
  rw [slot, h]
  rfl

namespace Fits

/-- Variables that come in have marks of their own. -/
lemma entryMark_mem (h : storage.Fits previous plan) (hrequest : plan.request.Standard)
    (hfollows : plan.request.Follows previous) (hmark : storage.entryMark? name = some mark) :
    mark ∈ Mark.holders ∧ mark ≠ plan.request.outMark := by
  have hout := hrequest.outMark_mem.2
  simp only [entryMark?] at hmark
  split_ifs at hmark <;> obtain rfl := Option.some.inj hmark
  · rw [h.laid.inMark]
    exact hrequest.inMark_mem hfollows
  all_goals
    refine ⟨by decide, ?_⟩
    intro heq
    exact hout (heq ▸ by decide)

lemma placeMark_mem (h : storage.Fits previous plan) (hrequest : plan.request.Standard)
    (hfollows : plan.request.Follows previous) (hmark : storage.placeMark? plan name = some mark) :
    mark ∈ Mark.holders := by
  rw [placeMark?_eq] at hmark
  split_ifs at hmark
  · obtain rfl := Option.some.inj hmark
    decide
  · obtain rfl := Option.some.inj hmark
    exact hrequest.outMark_mem.1
  · exact (h.entryMark_mem hrequest hfollows hmark).1

/-- **Two properties never share a variable.** -/
lemma slot_inj (h : storage.Fits previous plan) (hdisjoint : plan.pipeline.Disjoint)
    (hrequest : plan.request.Standard) (hfollows : plan.request.Follows previous)
    (hname : plan.pipeline.Carries name) (hother : plan.pipeline.Carries other)
    (heq : storage.slot plan name = storage.slot plan other) : name = other := by
  obtain ⟨mark, hmark⟩ := h.exists_mark hdisjoint hname
  obtain ⟨mark', hmark'⟩ := h.exists_mark hdisjoint hother
  rw [slot_eq hmark, slot_eq hmark'] at heq
  exact (Mark.append_inj (h.placeMark_mem hrequest hfollows hmark)
    (h.placeMark_mem hrequest hfollows hmark') heq).2

/-- What starts like a variable leads nowhere, if neither properties nor aliases do. -/
lemma direct?_eq_none (h : storage.Fits previous plan) (hdisjoint : plan.pipeline.Disjoint)
    {marks : List String}
    (hnames : ∀ cls, ∀ name ∈ (plan.pipeline.list cls).names, ¬ Mark.Begins marks name)
    (hkeys : ∀ key ∈ plan.request.aliases.keys, ¬ Mark.Begins marks key)
    (hbegins : Mark.Begins marks name) : storage.aliases.direct? name = none := by
  rw [Option.eq_none_iff_forall_ne_some]
  intro next hnext
  rw [h.aliases, Aliases.direct?_layered_singleton] at hnext
  rcases Option.or_eq_some_iff.1 hnext with hrenamed | ⟨-, hmapped⟩
  · rw [h.get?_renames] at hrenamed
    obtain ⟨mark, hmark, -⟩ := Option.map_eq_some_iff.1 hrenamed
    obtain ⟨cls, hcls⟩ :=
      (h.placed_iff hdisjoint).1 (Option.ne_none_iff_exists'.2 ⟨mark, hmark⟩)
    exact hnames cls _ (PropertyList.solidNames_subset _ hcls) hbegins
  · exact hkeys _ (Aliases.mem_keys hmapped) hbegins

/-- **Every name is written as the variable of its own property,** where aliases run in no circle and
neither properties nor aliases start with a mark that the stage puts in front of a property. -/
lemma choice_eq_slot_of (h : storage.Fits previous plan) (hdisjoint : plan.pipeline.Disjoint)
    {marks : List String}
    (hmarks : ∀ name mark, storage.placeMark? plan name = some mark → mark ∈ marks)
    (hchosen : ∀ cls, ∀ name ∈ (plan.pipeline.list cls).names,
      ∃ own, name = plan.request.aliases.choice own)
    (hacyclic : plan.request.aliases.Acyclic)
    (hnames : ∀ cls, ∀ name ∈ (plan.pipeline.list cls).names, ¬ Mark.Begins marks name)
    (hkeys : ∀ key ∈ plan.request.aliases.keys, ¬ Mark.Begins marks key)
    (hcarried : plan.pipeline.Carries (plan.request.aliases.choice name)) :
    storage.aliases.choice name
      = storage.slot plan (plan.request.aliases.choice name) := by
  obtain ⟨mark, hmark⟩ := h.exists_mark hdisjoint hcarried
  have hspelled : Mark.Begins marks (mark ++ plan.request.aliases.choice name) :=
    ⟨mark, hmarks _ mark hmark, _, rfl⟩
  obtain ⟨past, hmet⟩ := Aliases.met_eq plan.request.aliases name
  have hchain := Aliases.chain_met plan.request.aliases name
  rw [hmet] at hchain
  have hfree : ∀ met ∈ plan.request.aliases.met name, met ≠ plan.request.aliases.choice name →
      storage.placeMark? plan met = none := by
    -- A name with a place is a choice, and without cycles a choice has no mapping.
    intro met hmem hne
    by_contra hplace
    rw [hmet] at hmem
    obtain ⟨next, hnext⟩ :=
      hchain.mapped_of_mem_past met ((List.mem_cons.1 hmem).resolve_left hne)
    obtain ⟨cls, hcls⟩ := (h.placed_iff hdisjoint).1 hplace
    obtain ⟨own, rfl⟩ := hchosen cls met (PropertyList.solidNames_subset _ hcls)
    rw [hacyclic.direct?_choice own] at hnext
    exact absurd hnext (by simp)
  rw [slot_eq hmark, h.choice_eq_iff_straight hmark hfree]
  refine ⟨hfree, Or.inr ⟨?_, ?_⟩⟩
  · intro hmem
    rw [hmet] at hmem
    rcases List.mem_cons.1 hmem with heq | hmem
    · obtain ⟨cls, hcls⟩ := hcarried
      exact hnames cls _ (PropertyList.solidNames_subset _ hcls) (heq ▸ hspelled)
    · obtain ⟨next, hnext⟩ := hchain.mapped_of_mem_past _ hmem
      exact hkeys _ (Aliases.mem_keys hnext) hspelled
  · intro next hnext
    rw [h.direct?_eq_none hdisjoint hnames hkeys hspelled] at hnext
    cases hnext

/-- The same for stages with their usual marks. -/
lemma choice_eq_slot (h : storage.Fits previous plan) (hfound : plan.Resolved collection found)
    (hrequest : plan.request.Standard) (hfollows : plan.request.Follows previous)
    (hacyclic : plan.request.aliases.Acyclic)
    (hnames : ∀ cls, ∀ name ∈ (plan.pipeline.list cls).names, ¬ Mark.Marked name)
    (hkeys : ∀ key ∈ plan.request.aliases.keys, ¬ Mark.Marked key)
    (hcarried : plan.pipeline.Carries (plan.request.aliases.choice name)) :
    storage.aliases.choice name
      = storage.slot plan (plan.request.aliases.choice name) := by
  have hall : Mark.holders ⊆ Mark.all := by decide
  exact h.choice_eq_slot_of hfound.disjoint
    (fun _ _ hmark => hall (h.placeMark_mem hrequest hfollows hmark))
    (fun _ _ hname => hfound.choice_of_mem_class hname) hacyclic hnames hkeys hcarried

end Fits

end StageStorage

end ShaderWeave
