import Mathlib.Logic.Relation
import ShaderWeave.Proofs.Declarations
import ShaderWeave.Proofs.Growth

/-!
# Drafts step by step

Everything that drafting does to a draft is one of four small steps (`Draft.Step`): a host type is
converted, a property from outside gets a storage class, a vertex component is noted, or nothing
changes but reports and binding points.

* `Drafting.Advances` — an action that succeeds went on by steps.  There is one lemma for each
  function of planning, assigning and writing.
* `Drafting.course_of_blueprint`, `Drafting.Course.reaches` — hence a blueprint is reached by steps
  from a draft in which nothing has a place yet.  **What a step keeps, every blueprint keeps.**
* `Draft.Reaches.grows`, `Draft.Reaches.bindable` — what steps keep: the registry has only grown,
  and every resource is in the class for which the conversion of its type has a setter.
-/

namespace ShaderWeave

open Registry (Grown Grows)

/-- The key that a conversion gives is the one that the host type has from then on. -/
lemma Registry.key?_of_convertWithin {catalogue : Catalogue} {depth : Nat} {host : HostType}
    {registry registry' : Registry} {key : ConversionKey}
    (h : convertWithin catalogue depth host registry = .ok key registry') :
    registry'.key? host = some key := by
  cases hkey : registry.key? host with
  | some known =>
      rw [convertWithin_of_some hkey] at h
      cases h
      exact hkey
  | none =>
      by_cases hpending : host ∈ registry.pending
      · rw [convertWithin_of_pending hkey hpending] at h
        cases h
      · cases depth with
        | zero =>
            rw [convertWithin_zero hkey] at h
            cases h
        | succ depth =>
            rw [convertWithin_succ hkey hpending] at h
            split at h
            · cases h
              simp [Registry.key?, Registry.assign]
            · cases h

/-! ## Steps -/

namespace Draft

/-- What drafting can do to a draft, one thing at a time. -/
inductive Step (setting : Setting) (draft : Draft) : Draft → Prop where
  /-- Something is reported or dumped, or binding points are given out. -/
  | note {later : Draft} (h : draft.Later later) : Step setting draft later
  /-- A host type is converted. -/
  | convert {later : Draft} (type : HostType)
      (registry : later.registry = draft.registry.afterConvert setting.catalogue type)
      (program : later.program = draft.program) : Step setting draft later
  /-- A property without a place goes where the conversion of its type has a setter. -/
  | store {later : Draft} {property : Property} {conversion : Conversion} {cls : StorageClass}
      (registry : later.registry = draft.registry)
      (unplaced : draft.program.class? property.name = none)
      (lookup : draft.registry.lookup? property.type = some conversion)
      (cls? : conversion.storageClass? = some cls)
      (program : later.program = draft.program.insert cls property) : Step setting draft later
  /-- A vertex component is noted. -/
  | component {later : Draft} (property : Property) (registry : later.registry = draft.registry)
      (program : later.program = { draft.program with
        vertexComponents := draft.program.vertexComponents.insert property }) :
      Step setting draft later

/-- A draft that another leads to by steps. -/
abbrev Reaches (setting : Setting) : Draft → Draft → Prop := Relation.ReflTransGen (Step setting)

end Draft

namespace Drafting

variable {α β : Type} {setting : Setting}

/-- The work goes on by steps, if it succeeds. -/
def Advances (setting : Setting) (x : Drafting α) : Prop :=
  ∀ draft a draft', x draft = .ok a draft' → draft.Reaches setting draft'

namespace Advances

lemma pure (a : α) : Advances setting (pure a) := by
  intro draft b draft' h
  obtain ⟨-, rfl⟩ := Outcome.pure_ok h
  exact .refl

lemma throw (error : SpecificationError) : Advances setting (throw error : Drafting α) := by
  rintro draft a draft' ⟨⟩

lemma get : Advances setting get := by
  rintro draft a draft' ⟨⟩
  exact .refl

lemma bind {x : Drafting α} {f : α → Drafting β} (hx : Advances setting x)
    (hf : ∀ a, Advances setting (f a)) : Advances setting (x >>= f) := by
  intro draft b draft' h
  obtain ⟨a, draft₁, hx', hf'⟩ := Outcome.bind_ok h
  exact (hx draft a draft₁ hx').trans (hf a draft₁ b draft' hf')

lemma ite {c : Prop} [Decidable c] {x y : Drafting α} (hx : Advances setting x)
    (hy : Advances setting y) : Advances setting (if c then x else y) := by
  split
  · exact hx
  · exact hy

lemma foldlM {f : β → α → Drafting β} (hf : ∀ b x, Advances setting (f b x)) (xs : List α)
    (b : β) : Advances setting (xs.foldlM f b) := by
  induction xs generalizing b with
  | nil => exact pure b
  | cons x xs ih =>
      rw [List.foldlM_cons]
      exact (hf b x).bind ih

lemma forM {f : α → Drafting Unit} (hf : ∀ x, Advances setting (f x)) (xs : List α) :
    Advances setting (xs.forM f) := by
  induction xs with
  | nil => exact pure ()
  | cons x xs ih => exact (hf x).bind fun _ => ih

/-- Work that only asks for binding points. -/
lemma of_yields {names : List String} {spec : Draft → α → Prop} {x : Drafting α}
    (h : Yields names spec x) : Advances setting x := by
  intro draft a draft' hok
  obtain ⟨hregistry, hprogram, -⟩ := h draft a draft' hok
  exact .single (.note ⟨hregistry, names, hprogram⟩)

end Advances

lemma advances_report (events : List Event) : Advances setting (report events) := by
  rintro draft a draft' ⟨⟩
  exact .single (.note ⟨rfl, [], rfl⟩)

lemma advances_ofExcept (x : Except SpecificationError α) : Advances setting (ofExcept x) := by
  cases x with
  | ok a => exact .pure a
  | error error => exact .throw error

/-! ## Planning -/

lemma advances_planStage (resolver : Resolver) (request : StageRequest) (wanted : PropertyList) :
    Advances setting (planStage resolver request wanted) := by
  unfold planStage
  dsimp only
  split
  · exact .throw _
  · exact (advances_report _).bind fun _ => (advances_ofExcept _).bind fun _ =>
      (advances_ofExcept _).bind fun _ => .pure _

lemma advances_planBackwards (resolver : Resolver) (wanted : PropertyList)
    (requests : List StageRequest) : Advances setting (planBackwards resolver wanted requests) := by
  induction requests generalizing wanted with
  | nil => exact .pure []
  | cons request earlier ih =>
      rw [planBackwards]
      exact (advances_planStage resolver request wanted).bind fun plan =>
        (ih plan.wanted).bind fun _ => .pure _

/-! ## Assigning -/

/-- A conversion that was found is the one that the type has from then on. -/
lemma convert_ok {type : HostType} {conversion : Conversion} {draft draft' : Draft}
    (h : convert setting type draft = .ok conversion draft') :
    draft'.registry = draft.registry.afterConvert setting.catalogue type ∧
      draft'.program = draft.program ∧ draft'.registry.lookup? type = some conversion := by
  obtain ⟨key, draft₁, hkey, h⟩ := Outcome.bind_ok h
  obtain ⟨rfl, rfl⟩ := Outcome.pure_ok h
  unfold onRegistry at hkey
  cases hconvert : Registry.convert setting.catalogue type draft.registry with
  | error error registry =>
      rw [hconvert] at hkey
      cases hkey
  | ok found registry =>
      rw [hconvert] at hkey
      cases hkey
      refine ⟨?_, rfl, ?_⟩
      · rw [Registry.afterConvert, hconvert]
        rfl
      · have hfound : registry.key? type = some key := Registry.key?_of_convertWithin hconvert
        change registry.lookup? type = _
        rw [Registry.lookup?, hfound]
        rfl

variable (setting)

lemma advances_convert (type : HostType) : Advances setting (convert setting type) := by
  intro draft conversion draft' h
  obtain ⟨hregistry, hprogram, -⟩ := convert_ok h
  exact .single (.convert type hregistry hprogram)

lemma advances_gpuType (type : HostType) : Advances setting (gpuType setting type) :=
  (advances_convert setting type).bind fun _ => Advances.get.bind fun _ => .pure _

lemma advances_hasValueName (property : Property) :
    Advances setting (hasValueName setting property) :=
  (advances_gpuType setting property.type).bind fun _ => .pure _

lemma sourceConversion_ok {property : Property} {conversion : Conversion} {draft draft' : Draft}
    (h : sourceConversion setting property draft = .ok conversion draft') :
    convert setting property.type draft = .ok conversion draft' := by
  unfold sourceConversion at h
  split at h
  · cases h
  · exact h

lemma advances_classify (property : Property) : Advances setting (classify setting property) := by
  intro draft cls draft' h
  unfold classify at h
  obtain ⟨_, _, ⟨⟩, h⟩ := Outcome.bind_ok h
  cases hclass : draft.program.class? property.name with
  | some known =>
      rw [hclass] at h
      obtain ⟨-, rfl⟩ := Outcome.pure_ok h
      exact .refl
  | none =>
      rw [hclass] at h
      obtain ⟨conversion, draft₁, hconversion, h⟩ := Outcome.bind_ok h
      obtain ⟨hregistry, hprogram, hlookup⟩ := convert_ok (sourceConversion_ok setting hconversion)
      cases hstorage : conversion.storageClass? with
      | none =>
          rw [hstorage] at h
          cases h
      | some found =>
          rw [hstorage] at h
          obtain ⟨_, draft₂, ⟨⟩, h⟩ := Outcome.bind_ok h
          obtain ⟨_, draft₃, ⟨⟩, h⟩ := Outcome.bind_ok h
          obtain ⟨-, rfl⟩ := Outcome.pure_ok h
          refine .tail (.single (.convert property.type hregistry hprogram)) ?_
          refine .store rfl ?_ hlookup hstorage rfl
          rw [hprogram]
          exact hclass

variable (plan : StagePlan) (storage : StageStorage) (property : Property)

lemma advances_assignSource (previous : Option Handover) :
    Advances setting (assignSource setting plan previous storage property) := by
  have hcomponent : Advances setting (modify fun draft => { draft with program := { draft.program with
      vertexComponents := draft.program.vertexComponents.insert property } } : Drafting PUnit) := by
    rintro draft a draft' ⟨⟩
    exact .single (.component property rfl rfl)
  exact .ite (hcomponent.bind fun _ => .pure _) (.ite (.pure _)
    ((advances_classify setting property).bind fun _ => .pure _))

lemma advances_assignFilter : Advances setting (assignFilter setting plan storage property) := by
  refine .ite (.pure _) ((advances_hasValueName setting property).bind fun _ => ?_)
  exact .ite ((Advances.throw _).bind fun _ => .ite (.pure _) (.pure _)) (.ite (.pure _) (.pure _))

lemma advances_assignThrough (last : Bool) :
    Advances setting (assignThrough setting plan last storage property) := by
  refine .ite (.pure _) ((advances_hasValueName setting property).bind fun _ => ?_)
  exact .ite ((Advances.throw _).bind fun _ => .pure _) (.pure _)

lemma advances_assignOutput : Advances setting (assignOutput setting plan storage property) :=
  (advances_gpuType setting property.type).bind fun _ =>
    .ite ((Advances.throw _).bind fun _ => .pure _) (.pure _)

lemma advances_assignInner : Advances setting (assignInner setting storage property) :=
  (advances_gpuType setting property.type).bind fun _ =>
    .ite ((Advances.throw _).bind fun _ => .pure _) (.pure _)

lemma advances_checkVarying : Advances setting (checkVarying property) :=
  Advances.get.bind fun _ => .ite (.throw _) (.pure _)

lemma advances_declarationOrder : Advances setting (declarationOrder setting plan storage) :=
  .foldlM (fun _ type => (advances_convert setting type).bind fun _ =>
    Advances.get.bind fun _ => .pure _) _ _

lemma advances_assignStage (previous : Option Handover) (last : Bool) :
    Advances setting (assignStage setting plan previous last) := by
  refine (Advances.foldlM (fun storage property =>
    advances_assignSource setting plan storage property previous) _ _).bind fun _ => ?_
  refine (Advances.foldlM (advances_assignFilter setting plan) _ _).bind fun _ => ?_
  refine (Advances.foldlM (fun storage property =>
    advances_assignThrough setting plan storage property last) _ _).bind fun _ => ?_
  refine (Advances.foldlM (advances_assignOutput setting plan) _ _).bind fun _ => ?_
  refine (Advances.foldlM (advances_assignInner setting) _ _).bind fun storage => ?_
  have hrest : Advances setting (do
      let types ← declarationOrder setting plan storage
      return { storage with
        aliases := .layered [plan.request.aliases] storage.renames
        types }) :=
    (advances_declarationOrder setting plan storage).bind fun _ => .pure _
  exact .ite ((Advances.forM (advances_checkVarying setting) _).bind fun _ => hrest) hrest

lemma advances_assignStages (previous : Option Handover) (plans : List StagePlan) :
    Advances setting (assignStages setting previous plans) := by
  induction plans generalizing previous with
  | nil => exact .pure []
  | cons plan rest ih =>
      exact (advances_assignStage setting plan previous rest.isEmpty).bind fun _ =>
        (ih _).bind fun _ => .pure _

/-! ## Blueprints -/

/-- **The course of a blueprint:** from a draft with the same registry, in which nothing has a place,
to the plans, the storages and the sources. -/
structure Course (setting : Setting) (made : Blueprint) (draft start planned assigned final : Draft) :
    Prop where
  registry : start.registry = draft.registry
  fresh : start.program = {}
  plans : start.Reaches setting planned
  assign : assignStages setting none made.plans planned = .ok made.storages assigned
  sources : assigned.Reaches setting final
  program : made.program = final.program

lemma course_of_blueprint {setting : Setting} {info : DeviceInfo} {requests : List StageRequest}
    {desired : PropertyList} {made : Blueprint} {draft draft' : Draft}
    (h : blueprint setting info requests desired draft = .ok made draft') :
    ∃ start planned assigned, Course setting made draft start planned assigned draft' := by
  unfold blueprint at h
  obtain ⟨_, start, hstart, h⟩ := Outcome.bind_ok h
  obtain ⟨plans, planned, hplans, h⟩ := Outcome.bind_ok h
  obtain ⟨_, checked, hchecks, h⟩ := Outcome.bind_ok h
  obtain ⟨storages, assigned, hstorages, h⟩ := Outcome.bind_ok h
  obtain ⟨sources, written, hsources, h⟩ := Outcome.bind_ok h
  obtain ⟨_, _, ⟨⟩, h⟩ := Outcome.bind_ok h
  obtain ⟨_, limited, hlimits, h⟩ := Outcome.bind_ok h
  obtain ⟨rfl, rfl⟩ := Outcome.pure_ok h
  obtain rfl := same_of_ofExcept hlimits
  obtain rfl : checked = planned := same_of_forM_ofExcept hchecks
  cases hstart
  have hwritten : Advances setting ((plans.zip storages).mapM (writeStage setting plans)) :=
    .of_yields (Yields.mapM (yields_writeStage setting plans) _)
  exact ⟨{ draft with program := {} }, checked, assigned, rfl, rfl,
    advances_planBackwards setting.resolver desired requests.reverse _ _ _ hplans, hstorages,
    hwritten _ _ _ hsources, rfl⟩

/-- All of it is one run of steps. -/
lemma Course.reaches {setting : Setting} {made : Blueprint}
    {draft start planned assigned final : Draft}
    (h : Course setting made draft start planned assigned final) : start.Reaches setting final :=
  (h.plans.trans (advances_assignStages setting none made.plans _ _ _ h.assign)).trans h.sources

end Drafting

/-! ## What steps keep -/

namespace Draft

variable {base : Registry} {setting : Setting} {draft later : Draft}

lemma Step.grows (h : Step setting draft later)
    (hgrown : Grown base setting.catalogue draft.registry) :
    Grows base setting.catalogue draft.registry later.registry := by
  cases h with
  | note h =>
      rw [h.registry]
      exact Grows.refl hgrown
  | convert type registry _ =>
      rw [registry]
      exact Registry.grows_afterConvert hgrown
  | store registry _ _ _ _ =>
      rw [registry]
      exact Grows.refl hgrown
  | component _ registry _ =>
      rw [registry]
      exact Grows.refl hgrown

/-- The registry has only grown. -/
lemma Reaches.grows (h : draft.Reaches setting later)
    (hgrown : Grown base setting.catalogue draft.registry) :
    Grows base setting.catalogue draft.registry later.registry := by
  induction h with
  | refl => exact Grows.refl hgrown
  | tail _ hstep ih => exact ih.trans (hstep.grows ih.grown)

end Draft

namespace ProgramStorage

variable {program : ProgramStorage} {registry registry' : Registry}

/-- Every resource is in the class for which the conversion of its type has a setter. -/
def Bindable (program : ProgramStorage) (registry : Registry) : Prop :=
  ∀ cls, ∀ property ∈ (program.list cls).entries, ∃ conversion,
    registry.lookup? property.type = some conversion ∧ conversion.storageClass? = some cls

lemma bindable_empty : Bindable {} registry := by
  intro cls property hproperty
  cases cls <;> exact absurd hproperty List.not_mem_nil

lemma Bindable.mono (h : program.Bindable registry) (hclosed : registry.Closed)
    (hextends : registry.Extends registry') : program.Bindable registry' := by
  intro cls property hproperty
  obtain ⟨conversion, hlookup, hclass⟩ := h cls property hproperty
  exact ⟨conversion, hextends.lookup? hclosed hlookup, hclass⟩

end ProgramStorage

namespace Draft

variable {base : Registry} {setting : Setting} {draft later : Draft}

lemma Step.bindable (h : Step setting draft later)
    (hgrown : Grown base setting.catalogue draft.registry)
    (hbindable : draft.program.Bindable draft.registry) :
    later.program.Bindable later.registry := by
  cases h with
  | note h =>
      obtain ⟨names, hprogram⟩ := h.program
      rw [h.registry, hprogram]
      intro cls property hproperty
      rw [ProgramStorage.list_bindAll] at hproperty
      exact hbindable cls property hproperty
  | convert type registry program =>
      rw [program, registry]
      exact hbindable.mono hgrown.closed (Registry.grows_afterConvert hgrown).extends_start
  | store registry _ lookup cls? program =>
      rw [program, registry]
      intro cls property hproperty
      rcases ProgramStorage.mem_list_insert hproperty with hproperty | ⟨rfl, rfl⟩
      · exact hbindable cls property hproperty
      · exact ⟨_, lookup, cls?⟩
  | component property registry program =>
      rw [program, registry]
      intro cls p hp
      cases cls <;> exact hbindable _ p hp

/-- Resources stay where they can be bound. -/
lemma Reaches.bindable (h : draft.Reaches setting later)
    (hgrown : Grown base setting.catalogue draft.registry)
    (hbindable : draft.program.Bindable draft.registry) :
    later.program.Bindable later.registry := by
  induction h with
  | refl => exact hbindable
  | tail hreaches hstep ih => exact hstep.bindable (Reaches.grows hreaches hgrown).grown ih

end Draft

/-! ## What blueprints keep -/

namespace Drafting.Course

variable {base : Registry} {setting : Setting} {made : Blueprint}
  {draft start planned assigned final : Draft}

lemma grown (h : Course setting made draft start planned assigned final)
    (hgrown : Grown base setting.catalogue draft.registry) :
    Grown base setting.catalogue final.registry :=
  (h.reaches.grows (h.registry ▸ hgrown)).grown

lemma bindable (h : Course setting made draft start planned assigned final)
    (hgrown : Grown base setting.catalogue draft.registry) :
    made.program.Bindable final.registry := by
  rw [h.program]
  refine h.reaches.bindable (h.registry ▸ hgrown) ?_
  rw [h.fresh]
  exact ProgramStorage.bindable_empty

end Drafting.Course

end ShaderWeave
