import ShaderWeave.Proofs.Effects
import ShaderWeave.Proofs.Placement

/-!
# Stages next to each other

A blueprint lists the plans, the storages and the sources of its stages side by side.  Planning goes
from the last stage to the first and assignment from the first to the last, so a stage knows its
neighbours in two ways: **it is asked for what the stage after it wants, and it takes in what the
stage before it hands on.**

* `Blueprint.At` — the plan, the storage and the source at a place.
* `Drafting.planned_at`, `Drafting.assigned_at` — the loops that plan and assign, told place by
  place.
* `Drafting.Parts` — a successful draft, taken apart into the work it is made of;
  `Drafting.parts_of_blueprint` takes it apart.
-/

namespace ShaderWeave

/-- The stage at a place of a blueprint. -/
structure Blueprint.At (made : Blueprint) (i : Nat) (plan : StagePlan) (storage : StageStorage)
    (source : StageSource) : Prop where
  plan : made.plans[i]? = some plan
  storage : made.storages[i]? = some storage
  source : made.sources[i]? = some source

/-- The stage of this number passes a test. -/
def Blueprint.stageTest (i : Nat) (test : StagePlan → StageStorage → StageSource → Bool)
    (made : Blueprint) : Bool :=
  match made.plans[i]?, made.storages[i]?, made.sources[i]? with
  | some plan, some storage, some source => test plan storage source
  | _, _, _ => false

lemma Blueprint.exists_of_stageTest {made : Blueprint} {i : Nat}
    {test : StagePlan → StageStorage → StageSource → Bool} (h : made.stageTest i test = true) :
    ∃ plan storage source, made.At i plan storage source ∧ test plan storage source = true := by
  unfold stageTest at h
  split at h
  · next plan storage source hplan hstorage hsource =>
      exact ⟨plan, storage, source, ⟨hplan, hstorage, hsource⟩, h⟩
  · cases h

/-- What a stage hands on. -/
def StagePlan.handover (plan : StagePlan) (storage : StageStorage) : Handover :=
  ⟨plan.request.outMark, storage.outputs⟩

namespace Drafting

variable {setting : Setting} {draft draft' : Draft} {plan : StagePlan} {i : Nat}

/-! ## Planning from the last stage to the first -/

lemma asked_of_planStage {resolver : Resolver} {request : StageRequest} {wanted : PropertyList}
    (h : planStage resolver request wanted draft = .ok plan draft') :
    plan.request = request ∧ plan.desired = request.desired wanted := by
  obtain ⟨hrequest, hdesired, -⟩ := StagePlan.found_of_planStage h
  exact ⟨hrequest, hdesired⟩

/-- What the stage at a place is to yield: what the stage after it wants, or `desired`. -/
def yieldOf (desired : PropertyList) (plans : List StagePlan) (i : Nat) : PropertyList :=
  (plans[i + 1]?.map StagePlan.wanted).getD desired

/-- Every stage is planned to yield what the stage after it wants. -/
lemma planned_at {resolver : Resolver} {requests : List StageRequest} {wanted : PropertyList}
    {plans : List StagePlan}
    (h : planBackwards resolver wanted requests draft = .ok plans draft')
    (hplan : plans[i]? = some plan) :
    ∃ request before after,
      planStage resolver request (yieldOf wanted plans i) before = .ok plan after := by
  induction requests generalizing wanted plans draft draft' with
  | nil =>
      obtain ⟨rfl, -⟩ := Outcome.pure_ok h
      exact absurd hplan (by simp)
  | cons request earlier ih =>
      rw [planBackwards] at h
      obtain ⟨last, draft₁, hlast, h⟩ := Outcome.bind_ok h
      obtain ⟨others, draft₂, hothers, h⟩ := Outcome.bind_ok h
      obtain ⟨rfl, -⟩ := Outcome.pure_ok h
      rcases Nat.lt_trichotomy i others.length with hlt | rfl | hgt
      · rw [List.getElem?_append_left hlt] at hplan
        have hyield : yieldOf wanted (others ++ [last]) i = yieldOf last.wanted others i := by
          rcases Nat.lt_or_ge (i + 1) others.length with hnext | hnext
          · rw [yieldOf, yieldOf, List.getElem?_append_left hnext,
              List.getElem?_eq_getElem hnext]
            rfl
          · have hend : i + 1 = others.length := by omega
            simp [yieldOf, hend]
        rw [hyield]
        exact ih hothers hplan
      · have hnone : (others ++ [last])[others.length + 1]? = none :=
          List.getElem?_eq_none (by simp)
        obtain rfl : last = plan := by simpa using hplan
        rw [yieldOf, hnone]
        exact ⟨request, draft, draft₁, hlast⟩
      · rw [List.getElem?_eq_none (by simp only [List.length_append, List.length_singleton]; omega)]
          at hplan
        exact absurd hplan (by simp)

/-! ## Assigning from the first stage to the last -/

/-- What the stage before a place hands on; before the first stage it is `previous`. -/
def handedTo (previous : Option Handover) (plans : List StagePlan) (storages : List StageStorage) :
    Nat → Option Handover
  | 0 => previous
  | i + 1 => ((plans.zip storages)[i]?).map fun stage => stage.1.handover stage.2

lemma handedTo_of_at {made : Blueprint} {storage : StageStorage} {source : StageSource}
    (h : made.At i plan storage source) (previous : Option Handover) :
    handedTo previous made.plans made.storages (i + 1) = some (plan.handover storage) := by
  have hstage : (made.plans.zip made.storages)[i]? = some (plan, storage) :=
    List.getElem?_zip_eq_some.2 ⟨h.plan, h.storage⟩
  rw [handedTo, hstage, Option.map_some]

lemma handedTo_succ (previous : Option Handover) (first : StagePlan) (rest : List StagePlan)
    (placed : StageStorage) (others : List StageStorage) (i : Nat) :
    handedTo previous (first :: rest) (placed :: others) (i + 1)
      = handedTo (some (first.handover placed)) rest others i := by
  cases i <;> simp [handedTo]

/-- Every stage takes in what the stage before it hands on. -/
lemma assigned_at {previous : Option Handover} {plans : List StagePlan}
    {storages : List StageStorage} {storage : StageStorage}
    (h : assignStages setting previous plans draft = .ok storages draft')
    (hplan : plans[i]? = some plan) (hstorage : storages[i]? = some storage) :
    ∃ before after, assignStage setting plan (handedTo previous plans storages i)
      (decide (i + 1 = plans.length)) before = .ok storage after := by
  induction plans generalizing previous storages draft draft' i with
  | nil => exact absurd hplan (by simp)
  | cons first rest ih =>
      rw [assignStages] at h
      obtain ⟨placed, draft₁, hfirst, h⟩ := Outcome.bind_ok h
      obtain ⟨others, draft₂, hothers, h⟩ := Outcome.bind_ok h
      obtain ⟨rfl, -⟩ := Outcome.pure_ok h
      cases i with
      | zero =>
          obtain rfl : first = plan := by simpa using hplan
          obtain rfl : placed = storage := by simpa using hstorage
          have hlast : rest.isEmpty = decide (0 + 1 = (first :: rest).length) := by
            cases rest <;> simp
          exact ⟨draft, draft₁, hlast ▸ hfirst⟩
      | succ i =>
          obtain ⟨before, after, hassign⟩ := ih hothers hplan hstorage
          refine ⟨before, after, ?_⟩
          have hlast : decide (i + 1 + 1 = (first :: rest).length)
              = decide (i + 1 = rest.length) := by simp
          rw [hlast, handedTo_succ]
          exact hassign

lemma length_of_assignStages {previous : Option Handover} {plans : List StagePlan}
    {storages : List StageStorage}
    (h : assignStages setting previous plans draft = .ok storages draft') :
    storages.length = plans.length := by
  induction plans generalizing previous storages draft draft' with
  | nil =>
      obtain ⟨rfl, -⟩ := Outcome.pure_ok h
      rfl
  | cons first rest ih =>
      rw [assignStages] at h
      obtain ⟨placed, draft₁, -, h⟩ := Outcome.bind_ok h
      obtain ⟨others, draft₂, hothers, h⟩ := Outcome.bind_ok h
      obtain ⟨rfl, -⟩ := Outcome.pure_ok h
      rw [List.length_cons, List.length_cons, ih hothers]

end Drafting

/-! ## Classes without a name in common -/

namespace StagePlan

variable {plan : StagePlan}

lemma nodup_of_firstConflict {stage : Stage} {seen rest : List (String × PropertyClass)}
    (h : firstConflict stage seen rest = none) (hseen : (seen.map Prod.fst).Nodup) :
    ((seen ++ rest).map Prod.fst).Nodup := by
  induction rest generalizing seen with
  | nil => simpa using hseen
  | cons pair rest ih =>
      rw [firstConflict] at h
      split at h
      · exact absurd h (by simp)
      · next hnone =>
          have hnew : pair.1 ∉ seen.map Prod.fst := by
            rw [List.mem_map]
            rintro ⟨other, hother, heq⟩
            exact absurd (List.find?_eq_none.1 hnone other hother) (by simp [heq])
          have hnodup : ((seen ++ [pair]).map Prod.fst).Nodup := by
            rw [List.map_append, List.map_singleton, ← List.concat_eq_append]
            exact hseen.concat hnew
          simpa using ih h hnodup

lemma disjoint_of_checkDisjoint (h : plan.checkDisjoint = .ok ()) : plan.pipeline.Disjoint := by
  have hnone : firstConflict plan.request.stage [] plan.classes = none := by
    cases hconflict : firstConflict plan.request.stage [] plan.classes with
    | none => rfl
    | some error => simp [checkDisjoint, hconflict] at h
  have hmem : ∀ name cls, name ∈ (plan.pipeline.list cls).names → (name, cls) ∈ plan.classes := by
    intro name cls hname
    exact List.mem_flatMap.2 ⟨cls, cls.mem_all, List.mem_map_of_mem hname⟩
  intro name cls cls' hname hname'
  have heq := List.inj_on_of_nodup_map (nodup_of_firstConflict hnone List.nodup_nil)
    (hmem name cls hname) (hmem name cls' hname') rfl
  exact congrArg Prod.snd heq

end StagePlan

/-! ## A draft taken apart -/

namespace Drafting

variable {setting : Setting} {info : DeviceInfo} {requests : List StageRequest}
  {desired : PropertyList} {made : Blueprint} {draft draft' : Draft}

/-- The work that a blueprint is made of: from a fresh start to the plans, from the plans to the
storages, and from the storages to the sources. -/
structure Parts (setting : Setting) (requests : List StageRequest) (desired : PropertyList)
    (made : Blueprint) (start planned assigned final : Draft) : Prop where
  plan : planStages setting.resolver requests desired start = .ok made.plans planned
  disjoint : ∀ plan ∈ made.plans, plan.pipeline.Disjoint
  fresh : planned.program = {}
  assign : assignStages setting none made.plans planned = .ok made.storages assigned
  write : (made.plans.zip made.storages).mapM (writeStage setting made.plans) assigned
    = .ok made.sources final
  program : made.program = final.program

lemma same_of_ofExcept {α : Type} {x : Except SpecificationError α} {a : α}
    (h : ofExcept x draft = .ok a draft') : draft' = draft := by
  cases x with
  | error error => exact absurd h (by rintro ⟨⟩)
  | ok b => exact (Outcome.pure_ok h).2.symm

lemma same_of_forM_ofExcept {α : Type} {f : α → Except SpecificationError Unit} {xs : List α}
    {u : Unit} (h : xs.forM (fun x => ofExcept (f x)) draft = .ok u draft') : draft' = draft := by
  induction xs generalizing draft with
  | nil => exact (Outcome.pure_ok h).2.symm
  | cons x xs ih =>
      obtain ⟨_, draft₁, hx, h⟩ := Outcome.bind_ok h
      rw [ih h, same_of_ofExcept hx]

lemma parts_of_blueprint
    (h : blueprint setting info requests desired draft = .ok made draft') :
    ∃ start planned assigned, Parts setting requests desired made start planned assigned draft' := by
  unfold blueprint at h
  obtain ⟨_, start, hstart, h⟩ := Outcome.bind_ok h
  obtain ⟨plans, planned, hplans, h⟩ := Outcome.bind_ok h
  obtain ⟨_, checked, hchecks, h⟩ := Outcome.bind_ok h
  obtain ⟨storages, assigned, hstorages, h⟩ := Outcome.bind_ok h
  obtain ⟨sources, written, hsources, h⟩ := Outcome.bind_ok h
  obtain ⟨final, written', hfinal, h⟩ := Outcome.bind_ok h
  obtain ⟨_, limited, hlimits, h⟩ := Outcome.bind_ok h
  obtain ⟨rfl, rfl⟩ := Outcome.pure_ok h
  -- Neither the checks nor the limits change the draft.
  obtain rfl : checked = planned := same_of_forM_ofExcept hchecks
  obtain ⟨rfl, rfl⟩ : written = final ∧ written = written' := by
    cases hfinal
    exact ⟨rfl, rfl⟩
  obtain rfl := same_of_ofExcept hlimits
  have hfresh : start.program = {} := by
    cases hstart
    rfl
  refine ⟨start, checked, assigned, hplans, ?_, ?_, hstorages, hsources, rfl⟩
  · intro plan hplan
    obtain ⟨before, _, after, hcheck⟩ := Outcome.forM_ok hchecks plan hplan
    exact StagePlan.disjoint_of_checkDisjoint (StagePlan.ofExcept_ok hcheck)
  · exact (keeps_planBackwards _ _ _ start plans checked hplans).trans hfresh

namespace Parts

variable {collection : TaskCollection} {start planned assigned final : Draft} {i : Nat}
  {plan : StagePlan} {storage : StageStorage}

/-- A stage was resolved for what the stage after it wants, or for what is desired. -/
lemma resolved (h : Parts setting requests desired made start planned assigned final)
    (hresolver : setting.resolver = collection.resolver) (hplan : made.plans[i]? = some plan) :
    (∃ found, plan.Resolved collection found) ∧
      plan.desired = plan.request.desired (yieldOf desired made.plans i) := by
  obtain ⟨request, before, after, hstage⟩ := planned_at h.plan hplan
  obtain ⟨rfl, hdesired⟩ := asked_of_planStage hstage
  rw [hresolver] at hstage
  exact ⟨(StagePlan.resolved_of_planStage hstage).2, hdesired⟩

lemma fits (h : Parts setting requests desired made start planned assigned final)
    (hplan : made.plans[i]? = some plan) (hstorage : made.storages[i]? = some storage) :
    storage.Fits (handedTo none made.plans made.storages i) plan := by
  obtain ⟨before, after, hassign⟩ := assigned_at h.assign hplan hstorage
  exact StageStorage.fits_of_assignStage (h.disjoint plan (List.mem_of_getElem? hplan)) hassign

/-- Every source is written from the plan and the storage of its stage. -/
lemma writes (h : Parts setting requests desired made start planned assigned final)
    {source : StageSource} (hat : made.At i plan storage source) :
    ∃ before after, writeStage setting made.plans (plan, storage) before = .ok source after := by
  have hstage : (made.plans.zip made.storages)[i]? = some (plan, storage) :=
    List.getElem?_zip_eq_some.2 ⟨hat.plan, hat.storage⟩
  exact Outcome.mapM_ok_at h.write hstage hat.source

end Parts

end Drafting

end ShaderWeave
