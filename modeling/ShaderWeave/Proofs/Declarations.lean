import Mathlib.Data.List.Forall2
import ShaderWeave.Proofs.Resources

/-!
# Declarations told from the finished draft

Sources are written one after the other, and binding points are given out on the way, so each
declaration is made from a draft that is not finished yet.  **It is what the finished draft would
make of it,** because the registry stays, and so does a binding point once it is given out.

* `Drafting.Yields` — an action that asks for the binding points of some names, and whose result is
  right for every draft that comes later.
* `Draft.declared` — the declarations of a stage, read off a finished draft.
* `Drafting.declared_of_parts` — all sources of a blueprint have the declarations that its last draft
  tells.
* `Drafting.Finished` — all that later modules use of a finished blueprint.
-/

namespace ShaderWeave

/-! ## Work that writes -/

/-- A later draft of the same program: more binding points may have been given out. -/
structure Draft.Later (draft later : Draft) : Prop where
  registry : later.registry = draft.registry
  program : ∃ names, later.program = draft.program.bindAll names

lemma Draft.Later.refl (draft : Draft) : draft.Later draft := ⟨rfl, [], rfl⟩

namespace Drafting

variable {α β : Type} {names names' : List String} {spec : Draft → α → Prop}

/-- The work asks for the binding points of some names and changes nothing else that is shared; what
it gives is right for every later draft. -/
def Yields (names : List String) (spec : Draft → α → Prop) (x : Drafting α) : Prop :=
  ∀ draft a draft', x draft = .ok a draft' → draft'.registry = draft.registry ∧
    draft'.program = draft.program.bindAll names ∧ ∀ later, draft'.Later later → spec later a

namespace Yields

lemma pure {a : α} (h : ∀ later, spec later a) : Yields [] spec (pure a) := by
  intro draft b draft' hok
  obtain ⟨rfl, rfl⟩ := Outcome.pure_ok hok
  exact ⟨rfl, rfl, fun later _ => h later⟩

lemma throw (error : SpecificationError) : Yields names spec (throw error) := by
  rintro draft a draft' ⟨⟩

lemma throw_bind (error : SpecificationError) (f : β → Drafting α) :
    Yields names spec (MonadExcept.throw error >>= f) := by
  rintro draft a draft' ⟨⟩

lemma bind {x : Drafting α} {f : α → Drafting β} {spec' : Draft → β → Prop}
    (hx : Yields names spec x)
    (hf : ∀ a, Yields names' (fun later b => spec later a → spec' later b) (f a)) :
    Yields (names ++ names') spec' (x >>= f) := by
  intro draft b draft' hok
  obtain ⟨a, draft₁, hx', hf'⟩ := Outcome.bind_ok hok
  obtain ⟨hregistry, hprogram, hspec⟩ := hx draft a draft₁ hx'
  obtain ⟨hregistry', hprogram', hspec'⟩ := hf a draft₁ b draft' hf'
  refine ⟨hregistry'.trans hregistry, ?_, ?_⟩
  · rw [hprogram', hprogram, ProgramStorage.bindAll_append]
  · intro later hlater
    -- What is later than the whole is later than its first part.
    refine hspec' later hlater (hspec later ⟨hlater.registry.trans hregistry', ?_⟩)
    obtain ⟨more, hmore⟩ := hlater.program
    exact ⟨names' ++ more, by rw [hmore, hprogram', ProgramStorage.bindAll_append]⟩

lemma imp {x : Drafting α} {spec' : Draft → α → Prop} (h : Yields names spec x)
    (himp : ∀ later a, spec later a → spec' later a) : Yields names spec' x := by
  intro draft a draft' hok
  obtain ⟨hregistry, hprogram, hspec⟩ := h draft a draft' hok
  exact ⟨hregistry, hprogram, fun later hlater => himp later a (hspec later hlater)⟩

lemma ite {c : Prop} [Decidable c] {x y : Drafting α} (hx : c → Yields names spec x)
    (hy : ¬ c → Yields names spec y) : Yields names spec (if c then x else y) := by
  split_ifs with hc
  · exact hx hc
  · exact hy hc

lemma mapM {f : α → Drafting β} {bound : α → List String} {spec : Draft → α → β → Prop}
    (hf : ∀ x, Yields (bound x) (fun later y => spec later x y) (f x)) (xs : List α) :
    Yields (xs.flatMap bound) (fun later ys => List.Forall₂ (spec later) xs ys) (xs.mapM f) := by
  induction xs with
  | nil => exact Yields.pure fun _ => List.Forall₂.nil
  | cons x xs ih =>
      rw [List.mapM_cons, List.flatMap_cons]
      refine (hf x).bind fun y => ?_
      have hrest : Yields (xs.flatMap bound ++ [])
          (fun later ys => spec later x y → List.Forall₂ (spec later) (x :: xs) ys)
          (xs.mapM f >>= fun ys => Pure.pure (y :: ys)) :=
        ih.bind fun ys => Yields.pure fun later hys hy => List.Forall₂.cons hy hys
      rwa [List.append_nil] at hrest

lemma mapM_eq {f : α → Drafting β} {bound : α → List String} {value : Draft → α → β}
    (hf : ∀ x, Yields (bound x) (fun later y => y = value later x) (f x)) {xs : List α}
    (hnames : xs.flatMap bound = names) :
    Yields names (fun later ys => ys = xs.map (value later)) (xs.mapM f) := by
  rw [← hnames]
  have hflip : ∀ x, Yields (bound x) (fun later y => value later x = y) (f x) :=
    fun x => (hf x).imp fun _ _ => Eq.symm
  refine (Yields.mapM hflip xs).imp fun later ys hys => ?_
  have heq := List.forall₂_map_left_iff.2 hys
  rw [List.forall₂_eq_eq_eq] at heq
  exact heq.symm

/-- Work that binds nothing, and whose results do not matter. -/
lemma mapM_idle {f : α → Drafting β} (hf : ∀ x, Yields [] (fun _ _ => True) (f x)) (xs : List α) :
    Yields [] (fun _ _ => True) (xs.mapM f) := by
  have h : Yields (xs.flatMap fun _ => []) (fun _ _ => True) (xs.mapM f) :=
    (Yields.mapM hf xs).imp fun _ _ _ => trivial
  rwa [List.flatMap_eq_nil_iff.2 fun _ _ => rfl] at h

/-- Work that only reads the registry. -/
lemma of_registry {x : Drafting α} (value : Registry → α)
    (h : ∀ draft a draft', x draft = .ok a draft' → draft' = draft ∧ a = value draft.registry) :
    Yields [] (fun later a => a = value later.registry) x := by
  intro draft a draft' hok
  obtain ⟨rfl, rfl⟩ := h draft a draft' hok
  refine ⟨rfl, rfl, ?_⟩
  intro later hlater
  rw [hlater.registry]

end Yields

end Drafting

/-! ## What a finished draft tells -/

namespace Registry

/-- The GPU type for values of a host type. -/
def typeFor (registry : Registry) (type : HostType) : GpuType := (registry.typeOf? type).getD {}

/-- Numbers other than floats are not interpolated. -/
def isFlat (registry : Registry) (type : HostType) : Bool :=
  match (registry.lookup? type).bind Conversion.format with
  | some format => format.code ≠ AttributeFormat.floatCode
  | none => false

/-- The structs among some types. -/
def structs (registry : Registry) (types : List TypeKey) : List Declaration :=
  types.filterMap fun key =>
    let type := registry.type key
    if type.valueName ≠ "" && type.body ≠ "" then some (.struct type.valueName type.body) else none

lemma struct_of_mem_structs {registry : Registry} {types : List TypeKey} {declaration : Declaration}
    (h : declaration ∈ registry.structs types) : ∃ name body, declaration = .struct name body := by
  obtain ⟨key, -, hkey⟩ := List.mem_filterMap.1 h
  dsimp only at hkey
  split_ifs at hkey
  exact ⟨_, _, (Option.some.inj hkey).symm⟩

/-- What is inside the storage block of a GPU type. -/
def storageContent (registry : Registry) (type : GpuType) : BlockContent :=
  if type.valueName ≠ "" then .value type.valueName
  else match type.flexible with
    | none => .members type.body none
    | some flexible =>
      let element := (registry.type flexible.element).valueName
      if flexible.name = "" && type.body = "" then .array element
      else .members type.body (some (element, flexible.name))

end Registry

namespace Draft

variable (draft : Draft)

/-- The declaration of a property that comes through a storage class. -/
def resource (plans : List StagePlan) (property : Property) : StorageClass → Declaration :=
  let name := property.name
  let type := draft.registry.typeFor property.type
  let binding := (draft.program.binding? name).getD 0
  fun
  | .uniform => .uniform type.valueName (Mark.uniform ++ name)
  | .sampler => .sampler binding type.handleName (Mark.sampler ++ name)
  | .uniformBlock => .uniformBlock binding (Mark.uniformBlock ++ name) (Mark.uniformContent ++ name)
      (if type.valueName ≠ "" then .value type.valueName else .members type.body none)
  | .storageBlock => .storageBlock binding (!(usage plans name).written) (!(usage plans name).read)
      (Mark.storageBlock ++ name) (Mark.storageContent ++ name) (draft.registry.storageContent type)

/-- The declaration of what a stage takes in. -/
def taken (setting : Setting) (plan : StagePlan) (storage : StageStorage) (property : Property) :
    Declaration :=
  let type := (draft.registry.typeFor property.type).valueName
  match plan.request.stage with
  | .vertex => .vertexInput ((setting.vertexLayout.location? property.name).getD 0) type
      (Mark.element ++ property.name)
  | _ => .input (draft.registry.isFlat property.type) type (storage.inMark ++ property.name)

/-- The declaration of what a stage hands on. -/
def handed (plan : StagePlan) (property : Property) : Declaration :=
  let type := (draft.registry.typeFor property.type).valueName
  let name := plan.request.outMark ++ property.name
  match plan.request.stage with
  | .vertex => .output (draft.registry.isFlat property.type) type name
  | .compute => .global type name
  | .fragment => .target ((plan.desiredNames.findIdx? (· == property.name)).getD 0) type name

/-- **The declarations of a stage,** read off a draft. -/
def declared (setting : Setting) (plans : List StagePlan) (plan : StagePlan)
    (storage : StageStorage) : List Declaration :=
  draft.registry.structs storage.types
    ++ storage.uniforms.entries.map (draft.resource plans · .uniform)
    ++ storage.samplers.entries.map (draft.resource plans · .sampler)
    ++ storage.uniformBlocks.entries.map (draft.resource plans · .uniformBlock)
    ++ storage.storageBlocks.entries.map (draft.resource plans · .storageBlock)
    ++ storage.inputs.entries.map (draft.taken setting plan storage)
    ++ storage.outputs.entries.map (draft.handed plan)

/-- **Where a declaration comes from.** -/
lemma mem_declared {setting : Setting} {plans : List StagePlan} {plan : StagePlan}
    {storage : StageStorage} {declaration : Declaration} :
    declaration ∈ draft.declared setting plans plan storage ↔
      declaration ∈ draft.registry.structs storage.types ∨
      (∃ cls, ∃ p ∈ (storage.list cls).entries, draft.resource plans p cls = declaration) ∨
      (∃ p ∈ storage.inputs.entries, draft.taken setting plan storage p = declaration) ∨
      ∃ p ∈ storage.outputs.entries, draft.handed plan p = declaration := by
  simp only [declared, List.mem_append, List.mem_map, or_assoc]
  refine or_congr_right ?_
  constructor
  · rintro (h | h | h | h | h)
    exacts [Or.inl ⟨.uniform, h⟩, Or.inl ⟨.sampler, h⟩, Or.inl ⟨.uniformBlock, h⟩,
      Or.inl ⟨.storageBlock, h⟩, Or.inr h]
  · rintro (⟨cls, h⟩ | h)
    · cases cls with
      | uniform => exact Or.inl h
      | sampler => exact Or.inr (Or.inl h)
      | uniformBlock => exact Or.inr (Or.inr (Or.inl h))
      | storageBlock => exact Or.inr (Or.inr (Or.inr (Or.inl h)))
    · exact Or.inr (Or.inr (Or.inr (Or.inr h)))

/-- What is picked from the declarations of a stage, if neither resources nor what is handed on has
it. -/
lemma filterMap_declared {β : Type} {pick : Declaration → Option β} (setting : Setting)
    {plans : List StagePlan} {plan : StagePlan} (storage : StageStorage)
    (hresource : ∀ cls p, pick (draft.resource plans p cls) = none)
    (hhanded : ∀ p, pick (draft.handed plan p) = none) :
    (draft.declared setting plans plan storage).filterMap pick =
      (draft.registry.structs storage.types).filterMap pick ++
        storage.inputs.entries.filterMap fun p => pick (draft.taken setting plan storage p) := by
  simp [declared, List.filterMap_append, List.filterMap_map, hresource, hhanded]

end Draft

/-- The names of a stage that need a binding point, in the order in which they are declared. -/
def StageStorage.boundNames (storage : StageStorage) : List String :=
  storage.samplers.names ++ storage.uniformBlocks.names ++ storage.storageBlocks.names

/-! ## One declaration -/

namespace Drafting

variable {α : Type} (setting : Setting) (plans : List StagePlan) (plan : StagePlan)
  (storage : StageStorage) (property : Property)

lemma yields_knownType :
    Yields [] (fun later type => type = later.registry.typeFor property.type)
      (knownType property) := by
  refine Yields.of_registry (fun registry => registry.typeFor property.type) ?_
  intro draft type draft' h
  obtain ⟨_, _, ⟨⟩, h⟩ := Outcome.bind_ok h
  cases htype : draft.registry.typeOf? property.type with
  | none =>
      simp only [htype] at h
      exact absurd h (by rintro ⟨⟩)
  | some found =>
      simp only [htype] at h
      obtain ⟨rfl, rfl⟩ := Outcome.pure_ok h
      exact ⟨rfl, by rw [Registry.typeFor, htype, Option.getD_some]⟩

lemma yields_valueName (role : DeclarationRole) :
    Yields [] (fun later name => name = (later.registry.typeFor property.type).valueName)
      (valueName role property) := by
  refine (yields_knownType property).bind fun type => ?_
  refine Yields.ite (fun _ => Yields.throw_bind _ _) fun _ => Yields.pure ?_
  rintro later rfl
  rfl

lemma yields_isFlat :
    Yields [] (fun later flat => flat = later.registry.isFlat property.type) (isFlat property) := by
  refine Yields.of_registry (fun registry => registry.isFlat property.type) ?_
  intro draft flat draft' h
  obtain ⟨_, _, ⟨⟩, h⟩ := Outcome.bind_ok h
  rw [Registry.isFlat]
  cases hformat : (draft.registry.lookup? property.type).bind Conversion.format with
  | none =>
      simp only [hformat] at h
      obtain ⟨rfl, rfl⟩ := Outcome.pure_ok h
      exact ⟨rfl, rfl⟩
  | some format =>
      simp only [hformat] at h
      obtain ⟨rfl, rfl⟩ := Outcome.pure_ok h
      exact ⟨rfl, rfl⟩

lemma yields_structDeclarations :
    Yields [] (fun later structs => structs = later.registry.structs storage.types)
      (structDeclarations storage) := by
  refine Yields.of_registry (fun registry => registry.structs storage.types) ?_
  intro draft structs draft' h
  obtain ⟨_, _, ⟨⟩, h⟩ := Outcome.bind_ok h
  obtain ⟨rfl, rfl⟩ := Outcome.pure_ok h
  exact ⟨rfl, rfl⟩

lemma yields_bind (name : String) :
    Yields [name] (fun later binding => later.program.binding? name = some binding)
      (bind name) := by
  rintro draft binding draft' ⟨⟩
  refine ⟨rfl, rfl, ?_⟩
  intro later hlater
  obtain ⟨more, hmore⟩ := hlater.program
  rw [hmore]
  exact ProgramStorage.binding?_bindAll (ProgramStorage.binding?_bind_self _ name)

lemma yields_storageContent (type : GpuType) :
    Yields [] (fun later content => content = later.registry.storageContent type)
      (storageContent property type) := by
  refine Yields.of_registry (fun registry => registry.storageContent type) ?_
  intro draft content draft' h
  unfold storageContent at h
  unfold Registry.storageContent
  split_ifs at h ⊢ with hvalue
  · obtain ⟨rfl, rfl⟩ := Outcome.pure_ok h
    exact ⟨rfl, rfl⟩
  · cases hflexible : type.flexible with
    | none =>
        simp only [hflexible] at h
        obtain ⟨rfl, rfl⟩ := Outcome.pure_ok h
        exact ⟨rfl, rfl⟩
    | some flexible =>
        simp only [hflexible] at h
        obtain ⟨_, _, ⟨⟩, h⟩ := Outcome.bind_ok h
        by_cases hnone : (draft.registry.type flexible.element).valueName = ""
        · rw [if_pos hnone] at h
          exact absurd h (by rintro ⟨⟩)
        · rw [if_neg hnone] at h
          dsimp only
          split_ifs at h ⊢ with harray
          · obtain ⟨rfl, rfl⟩ := Outcome.pure_ok h
            exact ⟨rfl, rfl⟩
          · obtain ⟨rfl, rfl⟩ := Outcome.pure_ok h
            exact ⟨rfl, rfl⟩

lemma yields_declareUniform :
    Yields [] (fun later made => made = later.resource plans property .uniform)
      (declareUniform property) := by
  refine (yields_valueName property .uniform).bind fun name => Yields.pure ?_
  rintro later rfl
  rfl

lemma yields_declareSampler :
    Yields [property.name] (fun later made => made = later.resource plans property .sampler)
      (declareSampler property) := by
  refine (yields_knownType property).bind fun type => ?_
  refine Yields.ite (fun _ => Yields.throw_bind _ _) fun _ => ?_
  refine (yields_bind property.name).bind fun binding => Yields.pure ?_
  rintro later hbinding rfl
  rw [Draft.resource, hbinding]
  rfl

lemma yields_declareUniformBlock :
    Yields [property.name] (fun later made => made = later.resource plans property .uniformBlock)
      (declareUniformBlock property) := by
  refine (yields_knownType property).bind fun type => ?_
  refine (yields_bind property.name).bind fun binding => Yields.pure ?_
  rintro later hbinding rfl
  rw [Draft.resource, hbinding]
  rfl

lemma yields_declareStorageBlock :
    Yields [property.name] (fun later made => made = later.resource plans property .storageBlock)
      (declareStorageBlock plans property) := by
  refine (yields_knownType property).bind fun type => ?_
  refine (yields_bind property.name).bind fun binding => ?_
  refine (yields_storageContent property type).bind fun content => Yields.pure ?_
  rintro later rfl hbinding rfl
  rw [Draft.resource, hbinding]
  rfl

lemma yields_declareInput :
    Yields [] (fun later made => made = later.taken setting plan storage property)
      (declareInput setting plan storage property) := by
  refine (yields_valueName property .stageInput).bind fun type => ?_
  have hinput : Yields [] (fun later made =>
        type = (later.registry.typeFor property.type).valueName →
          made = Declaration.input (later.registry.isFlat property.type)
            (later.registry.typeFor property.type).valueName (storage.inMark ++ property.name))
      (do return Declaration.input (← isFlat property) type (storage.inMark ++ property.name)) := by
    refine (yields_isFlat property).bind fun flat => Yields.pure ?_
    rintro later rfl rfl
    rfl
  unfold Draft.taken
  cases plan.request.stage with
  | vertex =>
      refine Yields.pure ?_
      rintro later rfl
      rfl
  | fragment => exact hinput
  | compute => exact hinput

lemma yields_declareOutput :
    Yields [] (fun later made => made = later.handed plan property)
      (declareOutput plan property) := by
  refine (yields_valueName property .stageOutput).bind fun type => ?_
  unfold Draft.handed
  cases plan.request.stage with
  | vertex =>
      refine (yields_isFlat property).bind fun flat => Yields.pure ?_
      rintro later rfl rfl
      rfl
  | compute =>
      refine Yields.pure ?_
      rintro later rfl
      rfl
  | fragment =>
      dsimp only
      cases plan.desiredNames.findIdx? (· == property.name) with
      | none => exact Yields.throw _
      | some location =>
          refine Yields.pure ?_
          rintro later rfl
          rfl

/-! ## The sources of a blueprint -/

lemma yields_declarations :
    Yields storage.boundNames
      (fun later made => made = later.declared setting plans plan storage)
      (declarations setting plans plan storage) := by
  have hnone : ∀ list : PropertyList, (list.entries.flatMap fun _ => ([] : List String)) = [] :=
    fun list => List.flatMap_eq_nil_iff.2 fun _ _ => rfl
  have hone : ∀ list : PropertyList, (list.entries.flatMap fun p => [p.name]) = list.names := by
    intro list
    rw [PropertyList.names, List.map_eq_flatMap]
  have hnames : storage.boundNames = storage.samplers.names ++ (storage.uniformBlocks.names
      ++ (storage.storageBlocks.names ++ [])) := by
    simp [StageStorage.boundNames]
  rw [hnames]
  refine (yields_structDeclarations storage).bind fun structs => ?_
  refine (Yields.mapM_eq (yields_declareUniform plans) (hnone _)).bind fun uniforms => ?_
  refine (Yields.mapM_eq (yields_declareSampler plans) (hone _)).bind fun samplers => ?_
  refine (Yields.mapM_eq (yields_declareUniformBlock plans) (hone _)).bind fun uniformBlocks => ?_
  refine (Yields.mapM_eq (yields_declareStorageBlock plans) (hone _)).bind fun storageBlocks => ?_
  refine (Yields.mapM_eq (yields_declareInput setting plan storage) (hnone _)).bind fun inputs => ?_
  refine (Yields.mapM_eq (yields_declareOutput plan) (hnone _)).bind fun outputs => Yields.pure ?_
  rintro later rfl rfl rfl rfl rfl rfl rfl
  rfl

lemma yields_writeStage (stage : StagePlan × StageStorage) :
    Yields stage.2.boundNames
      (fun later source => source.declarations = later.declared setting plans stage.1 stage.2)
      (writeStage setting plans stage) := by
  have hget : Yields [] (fun _ _ => True) get := by
    rintro draft a draft' ⟨⟩
    exact ⟨rfl, rfl, fun _ _ => trivial⟩
  have hemit : ∀ {α : Type} (code : Except EmitError α), Yields [] (fun _ _ => True) (ofEmit code) := by
    intro α code
    cases code with
    | ok a => exact Yields.pure fun _ => trivial
    | error error => exact Yields.throw _
  have hinner : ∀ p, Yields [] (fun _ _ => True) (declareInner stage.2 p) := fun p =>
    (yields_valueName p .inner).bind fun _ => Yields.pure fun _ _ => trivial
  have hcopy : ∀ p, Yields [] (fun _ _ => True) (declareCopy stage.1 p) := fun p =>
    (yields_valueName p .inner).bind fun _ => Yields.pure fun _ _ => trivial
  have hdump : ∀ source, Yields [] (fun _ _ => True) (dumpStage setting stage.1 source) := by
    intro source
    refine Yields.ite (fun _ => ?_) fun _ => Yields.pure fun _ => trivial
    rintro draft a draft' ⟨⟩
    exact ⟨rfl, rfl, fun _ _ => trivial⟩
  have hgenerate : Yields (stage.2.boundNames ++ [])
      (fun later source => source.declarations = later.declared setting plans stage.1 stage.2)
      (generateStage setting plans stage.1 stage.2) := by
    refine (yields_declarations setting plans stage.1 stage.2).bind fun made => ?_
    refine hget.bind fun _ => ?_
    refine (Yields.mapM_idle (fun task => hemit _) _).bind fun preamble => ?_
    refine (Yields.mapM_idle hinner _).bind fun inner => ?_
    refine (Yields.mapM_idle hcopy _).bind fun copies => ?_
    refine (Yields.mapM_idle (fun task => hemit _) _).bind fun usages => Yields.pure ?_
    rintro later - - - - - rfl
    rfl
  rw [List.append_nil] at hgenerate
  have hwrite : Yields (stage.2.boundNames ++ [])
      (fun later source => source.declarations = later.declared setting plans stage.1 stage.2)
      (writeStage setting plans stage) := by
    refine hgenerate.bind fun source => ?_
    exact (hdump source).bind fun _ => Yields.pure fun _ _ hmade => hmade
  rwa [List.append_nil] at hwrite

/-- **All sources have the declarations that the last draft tells,** and the binding points that were
given out are those of the samplers and blocks of the stages. -/
theorem declared_of_parts {setting : Setting} {requests : List StageRequest}
    {desired : PropertyList} {made : Blueprint} {start planned assigned final : Draft}
    (h : Parts setting requests desired made start planned assigned final) :
    final.program = assigned.program.bindAll (made.storages.flatMap StageStorage.boundNames) ∧
      ∀ {i : Nat} {plan : StagePlan} {storage : StageStorage} {source : StageSource},
        made.At i plan storage source →
          source.declarations = final.declared setting made.plans plan storage := by
  obtain ⟨-, hprogram, hsources⟩ :=
    Yields.mapM (yields_writeStage setting made.plans) (made.plans.zip made.storages)
      assigned made.sources final h.write
  have hstorages : (made.plans.zip made.storages).flatMap (fun stage => stage.2.boundNames)
      = made.storages.flatMap StageStorage.boundNames := by
    have hlength := length_of_assignStages h.assign
    conv_rhs => rw [← List.map_snd_zip (Nat.le_of_eq hlength), List.flatMap_map]
  refine ⟨hstorages ▸ hprogram, ?_⟩
  intro i plan storage source hat
  have hplace : ((made.plans.zip made.storages).zip made.sources)[i]?
      = some ((plan, storage), source) := by
    rw [List.getElem?_zip_eq_some, List.getElem?_zip_eq_some]
    exact ⟨⟨hat.plan, hat.storage⟩, hat.source⟩
  -- The last draft is later than every draft that a source was written from.
  exact List.forall₂_zip (hsources final (Draft.Later.refl final)) (List.mem_of_getElem? hplace)

/-- **What is settled when a blueprint is finished:** the stages are sorted by classes without a name
in common, a class has what the first stage with the name had, the binding points are those of the
samplers and blocks of the stages, and the sources declare what the last draft tells. -/
structure Finished (setting : Setting) (made : Blueprint) (final : Draft) : Prop where
  program : final.program = made.program
  length : made.storages.length = made.plans.length
  apart : made.program.Apart
  introduced : ∀ cls, ∀ p ∈ (made.program.list cls).entries, Introduced made.storages cls p
  nodup : made.program.bindings.Nodup
  bound : ∀ name, name ∈ made.program.bindings ↔
    ∃ storage ∈ made.storages, name ∈ storage.boundNames
  sorted : ∀ {i : Nat} {plan : StagePlan} {storage : StageStorage}, made.plans[i]? = some plan →
    made.storages[i]? = some storage →
      storage.Sorted (plan.takesIn setting (handedTo none made.plans made.storages i)) made.program
        (plan.pipeline.sources.flatMap PropertyList.solid)
  declared : ∀ {i : Nat} {plan : StagePlan} {storage : StageStorage} {source : StageSource},
    made.At i plan storage source →
      source.declarations = final.declared setting made.plans plan storage

/-- What the program has in a class, some stage has in that class. -/
lemma Finished.added {setting : Setting} {made : Blueprint} {final : Draft}
    (h : Finished setting made final) (cls : StorageClass) (name : String)
    (hname : name ∈ (made.program.list cls).names) :
    ∃ storage ∈ made.storages, name ∈ (storage.list cls).names := by
  obtain ⟨p, hp, rfl⟩ := PropertyList.mem_names.1 hname
  obtain ⟨earlier, storage, later, hstorages, hmem, -⟩ := h.introduced cls p hp
  exact ⟨storage, hstorages ▸ List.mem_append_right _ List.mem_cons_self,
    PropertyList.name_mem_names hmem⟩

theorem finished_of_parts {setting : Setting} {requests : List StageRequest}
    {desired : PropertyList} {made : Blueprint} {start planned assigned final : Draft}
    (h : Parts setting requests desired made start planned assigned final) :
    Finished setting made final := by
  have hshared := shared_of_assignStages h.disjoint (h.fresh ▸ ProgramStorage.apart_fresh) h.assign
  obtain ⟨hprogram, hdeclared⟩ := declared_of_parts h
  have hlist : ∀ cls, made.program.list cls = assigned.program.list cls := by
    intro cls
    rw [h.program, hprogram, ProgramStorage.list_bindAll]
  have hempty : assigned.program.bindings = [] := by
    rw [hshared.bindings, h.fresh]
  have hapart : made.program.Apart := by
    intro name cls cls'
    rw [hlist, hlist]
    exact fun hname hname' => hshared.apart hname hname'
  refine ⟨h.program.symm, length_of_assignStages h.assign, hapart, ?_, ?_, ?_, ?_, hdeclared⟩
  · intro cls p hp
    rw [hlist] at hp
    refine (hshared.added cls p hp).resolve_left ?_
    rw [h.fresh]
    cases cls <;> exact List.not_mem_nil
  · rw [h.program, hprogram]
    exact ProgramStorage.nodup_bindAll (hempty ▸ List.nodup_nil)
  · intro name
    rw [h.program, hprogram, ProgramStorage.mem_bindings_bindAll, hempty, List.mem_flatMap]
    simp
  · intro i plan storage hplan hstorage
    refine (hshared.sorted i plan storage hplan hstorage).grow hapart ?_
    intro cls
    rw [hlist]
    exact List.Subset.refl _

end Drafting

end ShaderWeave
