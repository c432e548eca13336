import ShaderWeave.Proofs.Delivery
import ShaderWeave.Proofs.Growth
import ShaderWeave.Proofs.Requirements
import ShaderWeave.Proofs.StoredTasks

/-!
# Failures that point at the resolver

Most errors tell what is wrong with the tasks, the types or the device.  Three of them can only mean
that a resolver does not keep its word: a pipeline with a task that the resolver does not know, a
property in two classes, and a result of a fragment stage that was not asked for.  **A store of tasks
keeps its word,** so none of the three is ever seen with one.

* `SpecificationError.isInternal` — the three errors.
* `Outcome.Fails` — all errors of some work are of one kind, wherever it starts; the parts of some
  work tell the kind of its errors.
* `Drafting.Written` — a stage whose source was written, whether the program came about or not.
* `no_internal_error` — with a store no such error comes from a resolution or a compile,
  results of a fragment stage are numbered by what was asked for, and every attribute has its own
  location.
-/

namespace ShaderWeave

namespace Outcome

variable {ε σ α β : Type} {P : ε → Prop}

/-- All errors of the work are of one kind, whatever state it starts from. -/
def Fails (P : ε → Prop) (x : EStateM ε σ α) : Prop :=
  ∀ s e s', x s = .error e s' → P e

namespace Fails

/-- Work that always succeeds. -/
lemma of_ok {x : EStateM ε σ α} (h : ∀ s, ∃ a s', x s = .ok a s') : Fails P x := by
  intro s e s' herror
  obtain ⟨a, s₁, hok⟩ := h s
  rw [hok] at herror
  cases herror

lemma pure (a : α) : Fails P (pure a : EStateM ε σ α) := of_ok fun s => ⟨a, s, rfl⟩

lemma get : Fails P (get : EStateM ε σ σ) := of_ok fun s => ⟨s, s, rfl⟩

lemma modify (f : σ → σ) : Fails P (modify f : EStateM ε σ PUnit) := of_ok fun s => ⟨_, f s, rfl⟩

lemma throw {e : ε} (h : P e) : Fails P (throw e : EStateM ε σ α) := by
  rintro s e' s' ⟨⟩
  exact h

/-- What follows may use that the first part gave its result. -/
lemma bind_of_ok {x : EStateM ε σ α} {f : α → EStateM ε σ β} (hx : Fails P x)
    (hf : ∀ a s s', x s = .ok a s' → Fails P (f a)) : Fails P (x >>= f) := by
  intro s e s' h
  rcases bind_error h with h | ⟨a, s₁, hok, h⟩
  · exact hx s e s' h
  · exact hf a s s₁ hok s₁ e s' h

lemma bind {x : EStateM ε σ α} {f : α → EStateM ε σ β} (hx : Fails P x)
    (hf : ∀ a, Fails P (f a)) : Fails P (x >>= f) :=
  hx.bind_of_ok fun a _ _ _ => hf a

lemma ite {c : Prop} [Decidable c] {x y : EStateM ε σ α} (hx : Fails P x) (hy : Fails P y) :
    Fails P (if c then x else y) := by
  split_ifs
  · exact hx
  · exact hy

lemma foldlM {f : β → α → EStateM ε σ β} (hf : ∀ b x, Fails P (f b x)) (xs : List α) (b : β) :
    Fails P (xs.foldlM f b) := by
  induction xs generalizing b with
  | nil => exact pure b
  | cons x xs ih =>
      rw [List.foldlM_cons]
      exact (hf b x).bind ih

lemma mapM {f : α → EStateM ε σ β} {xs : List α} (hf : ∀ x ∈ xs, Fails P (f x)) :
    Fails P (xs.mapM f) := by
  induction xs with
  | nil => exact pure []
  | cons x xs ih =>
      rw [List.mapM_cons]
      refine (hf x List.mem_cons_self).bind fun y => ?_
      exact (ih fun z hz => hf z (List.mem_cons_of_mem x hz)).bind fun ys => pure (y :: ys)

lemma forM {f : α → EStateM ε σ PUnit} {xs : List α} (hf : ∀ x ∈ xs, Fails P (f x)) :
    Fails P (xs.forM f) := by
  induction xs with
  | nil => exact pure _
  | cons x xs ih =>
      exact (hf x List.mem_cons_self).bind fun _ => ih fun z hz => hf z (List.mem_cons_of_mem x hz)

end Fails

end Outcome

/-- The error means that the resolver does not keep its word. -/
def SpecificationError.isInternal : SpecificationError → Bool
  | .conflictingClasses .. => true
  | .unplacedOutput _ => true
  | .resolve (.unknownTask _) => true
  | _ => false

/-- The error means that the resolver does not keep its word. -/
def ShaderError.isInternal : ShaderError → Bool
  | .specification error => error.isInternal
  | _ => false

/-- The work blames the resolver for nothing. -/
abbrev Blameless {σ α : Type} (x : EStateM SpecificationError σ α) : Prop :=
  Outcome.Fails (fun error => error.isInternal = false) x

section Refusing

variable {σ α β : Type} {error : SpecificationError}

lemma blameless_throw (h : error.isInternal = false) :
    Blameless (throw error : EStateM SpecificationError σ α) :=
  Outcome.Fails.throw h

lemma blameless_throw_bind (h : error.isInternal = false)
    (f : α → EStateM SpecificationError σ β) : Blameless (throw error >>= f) :=
  (blameless_throw h).bind_of_ok fun _ _ _ hok => by cases hok

end Refusing

/-! ## Converting types -/

namespace Recipe

/-- No step of the recipe blames the resolver. -/
def Fair : Recipe → Prop
  | fail error => error.isInternal = false
  | done _ => True
  | ask _ next => ∀ type, (next type).Fair

lemma fair_struct (host : HostType) (layout : StructLayout) : (struct host layout).Fair := by
  unfold struct
  split_ifs
  · rfl
  · trivial

lemma fair_fields (host : HostType) (members : Registry.Members) (rest : List Field) :
    (fields host members rest).Fair := by
  induction rest generalizing members with
  | nil => exact fair_struct host members.layout
  | cons field rest ih =>
      intro type
      dsimp only
      split_ifs
      · rfl
      · exact ih _

lemma fair_layout (host : HostType) (body : StructLayout) (rest : List HostType) :
    (layout host body rest).Fair := by
  induction rest with
  | nil => exact fair_struct host body
  | cons dependency rest ih => exact fun _ => ih

lemma fair_elements (host : HostType) (shape : BufferShape) (body : String) (layout : GpuLayout) :
    (elements host shape body layout).Fair := by
  unfold elements
  split
  · trivial
  · intro type
    dsimp only
    split_ifs
    · rfl
    · rfl
    · trivial

lemma fair_buffer (host : HostType) (shape : BufferShape) : (buffer host shape).Fair := by
  unfold buffer
  split
  · exact fair_elements ..
  · intro type
    dsimp only
    split_ifs
    · rfl
    · rfl
    all_goals exact fair_elements ..

lemma fair_recipe (host : HostType) (shape : TypeShape) : (recipe host shape).Fair := by
  cases shape with
  | plain => rfl
  | fields fields => exact fair_fields ..
  | layout layout => exact fair_layout ..
  | buffer shape => exact fair_buffer ..

lemma blameless_follow {convert : HostType → Registry.Action ConversionKey}
    (hconvert : ∀ host, Blameless (convert host)) {r : Recipe} (h : r.Fair) (keys : List TypeKey) :
    Blameless (r.follow convert keys) := by
  induction r generalizing keys with
  | fail error => exact blameless_throw h
  | done form => exact Outcome.Fails.of_ok fun registry => ⟨_, _, rfl⟩
  | ask host next ih =>
      have htypeKey : Blameless (Registry.typeKey convert host) :=
        (hconvert host).bind fun _ => Outcome.Fails.get.bind fun _ => Outcome.Fails.pure _
      refine htypeKey.bind fun key => Outcome.Fails.get.bind fun registry => ?_
      exact ih _ (h _) _

end Recipe

lemma Registry.blameless_convertWithin (catalogue : Catalogue) (depth : Nat) (host : HostType) :
    Blameless (convertWithin catalogue depth host) := by
  induction depth generalizing host with
  | zero =>
      intro registry error registry' h
      cases hkey : registry.key? host with
      | some key =>
          rw [convertWithin_of_some hkey] at h
          cases h
      | none =>
          rw [convertWithin_zero hkey] at h
          cases h
          rfl
  | succ depth ih =>
      intro registry error registry' h
      cases hkey : registry.key? host with
      | some key =>
          rw [convertWithin_of_some hkey] at h
          cases h
      | none =>
          by_cases hpending : host ∈ registry.pending
          · rw [convertWithin_of_pending hkey hpending] at h
            cases h
            rfl
          · rw [convertWithin_succ hkey hpending] at h
            split at h
            · cases h
            · next e after hfollow =>
                cases h
                exact Recipe.blameless_follow ih (Recipe.fair_recipe host _) [] _ _ _ hfollow

namespace Drafting

open Outcome (Fails)

variable {α : Type}

/-! ## Assigning storage -/

section Assigning

variable (setting : Setting) (plan : StagePlan) (storage : StageStorage) (property : Property)

lemma blameless_convert (type : HostType) : Blameless (convert setting type) := by
  have honRegistry : Blameless (onRegistry (Registry.convert setting.catalogue type)) := by
    intro draft error draft' h
    unfold onRegistry at h
    split at h
    · cases h
    · next e registry herror =>
        cases h
        exact Registry.blameless_convertWithin setting.catalogue _ type _ _ _ herror
  exact honRegistry.bind fun _ => Fails.get.bind fun _ => Fails.pure _

lemma blameless_gpuType (type : HostType) : Blameless (gpuType setting type) :=
  (blameless_convert setting type).bind fun _ => Fails.get.bind fun _ => Fails.pure _

lemma blameless_hasValueName : Blameless (hasValueName setting property) :=
  (blameless_gpuType setting property.type).bind fun _ => Fails.pure _

lemma blameless_sourceConversion : Blameless (sourceConversion setting property) := by
  intro draft error draft' h
  unfold sourceConversion at h
  split at h
  · cases h
    rfl
  · exact blameless_convert setting property.type draft error draft' h

lemma blameless_classify : Blameless (classify setting property) := by
  refine Fails.get.bind fun draft => ?_
  split
  · exact Fails.pure _
  · refine (blameless_sourceConversion setting property).bind fun conversion => ?_
    split
    · exact blameless_throw rfl
    · refine (Fails.modify _).bind fun _ => ?_
      exact (Fails.modify _).bind fun _ => Fails.pure _

lemma blameless_assignSource (previous : Option Handover) :
    Blameless (assignSource setting plan previous storage property) := by
  unfold assignSource
  dsimp only
  split_ifs
  · exact (Fails.modify _).bind fun _ => Fails.pure _
  · exact Fails.pure _
  · exact (blameless_classify setting property).bind fun _ => Fails.pure _

lemma blameless_assignFilter : Blameless (assignFilter setting plan storage property) := by
  unfold assignFilter
  dsimp only
  split_ifs
  · exact Fails.pure _
  all_goals
    refine (blameless_hasValueName setting property).bind fun _ => ?_
    exact Fails.ite (blameless_throw_bind rfl _) (Fails.pure _)

lemma blameless_assignThrough (last : Bool) :
    Blameless (assignThrough setting plan last storage property) := by
  refine Fails.ite (Fails.pure _) ?_
  refine (blameless_hasValueName setting property).bind fun _ => ?_
  exact Fails.ite (blameless_throw_bind rfl _) (Fails.pure _)

lemma blameless_assignOutput : Blameless (assignOutput setting plan storage property) := by
  refine (blameless_gpuType setting property.type).bind fun _ => ?_
  exact Fails.ite (blameless_throw_bind rfl _) (Fails.pure _)

lemma blameless_assignInner : Blameless (assignInner setting storage property) := by
  refine (blameless_gpuType setting property.type).bind fun _ => ?_
  exact Fails.ite (blameless_throw_bind rfl _) (Fails.pure _)

lemma blameless_checkVarying : Blameless (checkVarying property) := by
  refine Fails.get.bind fun _ => ?_
  exact Fails.ite (blameless_throw rfl) (Fails.pure _)

lemma blameless_declarationOrder : Blameless (declarationOrder setting plan storage) :=
  Fails.foldlM (fun _ type => (blameless_convert setting type).bind fun _ =>
    Fails.get.bind fun _ => Fails.pure _) _ _

lemma blameless_assignStage (previous : Option Handover) (last : Bool) :
    Blameless (assignStage setting plan previous last) := by
  refine (Fails.foldlM (fun s p => blameless_assignSource setting plan s p previous) _ _).bind
    fun s₁ => ?_
  refine (Fails.foldlM (fun s p => blameless_assignFilter setting plan s p) _ _).bind fun s₂ => ?_
  refine (Fails.foldlM (fun s p => blameless_assignThrough setting plan s p last) _ _).bind
    fun s₃ => ?_
  refine (Fails.foldlM (fun s p => blameless_assignOutput setting plan s p) _ _).bind fun s₄ => ?_
  refine (Fails.foldlM (fun s p => blameless_assignInner setting s p) _ _).bind fun s₅ => ?_
  have hend : Blameless (declarationOrder setting plan s₅ >>= fun types => pure { s₅ with
      aliases := .layered [plan.request.aliases] s₅.renames, types }) :=
    (blameless_declarationOrder setting plan s₅).bind fun _ => Fails.pure _
  refine Fails.ite ?_ hend
  exact (Fails.forM fun p _ => blameless_checkVarying p).bind fun _ => hend

lemma blameless_assignStages (previous : Option Handover) (plans : List StagePlan) :
    Blameless (assignStages setting previous plans) := by
  induction plans generalizing previous with
  | nil => exact Fails.pure []
  | cons plan rest ih =>
      rw [assignStages]
      refine (blameless_assignStage setting plan previous _).bind fun storage => ?_
      exact (ih _).bind fun _ => Fails.pure _

end Assigning

/-! ## Planning -/

lemma blameless_ofExcept {x : Except SpecificationError α}
    (h : ∀ error, x = .error error → error.isInternal = false) : Blameless (ofExcept x) := by
  cases x with
  | ok a => exact Fails.pure a
  | error error => exact blameless_throw (h error rfl)

end Drafting

namespace Pipeline

variable {pipeline : Pipeline} {error : SpecificationError}

lemma addCount_error {aliases : Aliases} {count : InvocationCount}
    (h : pipeline.addCount aliases count = .error error) : error.isInternal = false := by
  cases count with
  | fixed n => cases h
  | property property =>
      simp only [addCount] at h
      split_ifs at h
      cases h
      rfl

lemma addCounts_error {request : StageRequest} (h : pipeline.addCounts request = .error error) :
    error.isInternal = false := by
  rw [addCounts] at h
  cases hguarded : request.guarded? with
  | none =>
      rw [hguarded] at h
      cases h
  | some dispatch =>
      rw [hguarded] at h
      obtain ⟨count, -, current, hcount⟩ := Outcome.of_foldlM_error h
      exact addCount_error hcount

/-- Where the resolver knows every task, the tasks of a pipeline are found. -/
lemma exists_tasks {resolver : Resolver}
    (h : ∀ key ∈ pipeline.items, ∃ task, resolver.task? key = some task) :
    ∃ tasks, pipeline.tasks resolver = .ok tasks := by
  rw [Pipeline.tasks]
  generalize pipeline.items = items at h ⊢
  induction items with
  | nil => exact ⟨[], rfl⟩
  | cons key items ih =>
      obtain ⟨task, htask⟩ := h key List.mem_cons_self
      obtain ⟨tasks, htasks⟩ := ih fun other hother => h other (List.mem_cons_of_mem key hother)
      refine ⟨task :: tasks, ?_⟩
      rw [List.mapM_cons, htask, htasks]
      rfl

end Pipeline

/-- Every scheduled task is registered for the stage under its key. -/
lemma TaskCollection.task?_of_mem_items {collection : TaskCollection} {stage : Stage}
    {desired : PropertyList} {aliases : Aliases} {found : Pipeline}
    (h : collection.resolve stage desired aliases = .ok found) {key : TaskKey}
    (hkey : key ∈ found.items) :
    ∃ entry ∈ collection.entries, entry.key = key ∧ stage ∈ entry.stages ∧
      collection.task? key = some entry.task := by
  obtain ⟨entry, hentry, rfl, hstage⟩ := (schedule_items h).registered key hkey
  exact ⟨entry, hentry, rfl, hstage, task?_key hentry⟩

namespace Drafting

open Outcome (Fails)

variable {collection : TaskCollection}

lemma blameless_planStage (request : StageRequest) (wanted : PropertyList) :
    Blameless (planStage collection.resolver request wanted) := by
  unfold planStage
  cases hresolve : collection.resolver.resolve request.stage (request.desired wanted)
      request.aliases with
  | error error =>
      obtain ⟨-, task, property, rfl⟩ :=
        TaskCollection.cyclic_of_resolve_error (Outcome.of_map_error hresolve)
      simp only [hresolve]
      exact blameless_throw rfl
  | ok outcome =>
      obtain ⟨found, events⟩ := outcome
      obtain ⟨found', hfound, heq⟩ := Outcome.of_map hresolve
      obtain rfl : found' = found := congrArg Prod.fst heq
      simp only [hresolve]
      refine (Fails.modify _).bind fun _ => ?_
      refine (blameless_ofExcept fun error => Pipeline.addCounts_error).bind_of_ok ?_
      intro pipeline draft draft' hcounts
      have hwidened := Pipeline.widened_addCounts (StagePlan.ofExcept_ok hcounts)
      obtain ⟨tasks, htasks⟩ : ∃ tasks, pipeline.tasks collection.resolver = .ok tasks := by
        refine Pipeline.exists_tasks fun key hkey => ?_
        obtain ⟨entry, -, -, -, htask⟩ :=
          TaskCollection.task?_of_mem_items hfound (hwidened.items ▸ hkey)
        exact ⟨entry.task, htask⟩
      refine (blameless_ofExcept ?_).bind fun _ => Fails.pure _
      rintro error herror
      rw [htasks] at herror
      cases herror

lemma blameless_planBackwards (wanted : PropertyList) (requests : List StageRequest) :
    Blameless (planBackwards collection.resolver wanted requests) := by
  induction requests generalizing wanted with
  | nil => exact Fails.pure []
  | cons request earlier ih =>
      rw [planBackwards]
      refine (blameless_planStage request wanted).bind fun plan => ?_
      exact (ih plan.wanted).bind fun _ => Fails.pure _

end Drafting

/-! ## Checking classes -/

namespace StagePlan

variable {plan : StagePlan}

lemma firstConflict_eq_none {stage : Stage} {seen rest : List (String × PropertyClass)}
    (h : ((seen ++ rest).map Prod.fst).Nodup) : firstConflict stage seen rest = none := by
  induction rest generalizing seen with
  | nil => rfl
  | cons pair rest ih =>
      have hnew : seen.find? (·.1 == pair.1) = none := by
        rw [List.find?_eq_none]
        intro other hother heq
        rw [List.map_append, List.nodup_append] at h
        exact h.2.2 other.1 (List.mem_map_of_mem hother) pair.1 (by simp) (by simpa using heq)
      rw [firstConflict, hnew]
      exact ih (by simpa using h)

/-- Where no name is in two classes, the check finds none. -/
lemma checkDisjoint_of_disjoint (h : plan.pipeline.Disjoint) : plan.checkDisjoint = .ok () := by
  have hnames : plan.classes.map Prod.fst
      = PropertyClass.all.flatMap fun cls => (plan.pipeline.list cls).names := by
    simp only [classes, List.map_flatMap, List.map_map]
    exact List.flatMap_congr fun cls _ => List.map_id _
  have hnodup : (plan.classes.map Prod.fst).Nodup := by
    rw [hnames, List.nodup_flatMap]
    refine ⟨fun cls _ => (plan.pipeline.list cls).nodup, ?_⟩
    have hall : PropertyClass.all.Nodup := by decide
    refine hall.imp ?_
    intro cls cls' hne name hname hname'
    exact hne (h hname hname')
  have hnone : firstConflict plan.request.stage [] plan.classes = none :=
    firstConflict_eq_none hnodup
  rw [checkDisjoint, hnone]

end StagePlan

/-! ## Results that were asked for -/

namespace StageStorage

variable {setting : Setting} {plan : StagePlan} {storage storage' : StageStorage}
  {draft draft' : Draft}

/-- A loop whose steps list only allowed names lists only those. -/
lemma allowed_of_foldlM (part : StageStorage → PropertyList) {allowed : String → Prop}
    {step : StageStorage → Property → Drafting StageStorage} {properties : List Property}
    (hstep : ∀ p ∈ properties, ∀ {s d s' d'}, step s p d = .ok s' d' → part s' = part s ∨
      allowed p.name ∧ part s' = (part s).insert p)
    (h : properties.foldlM step storage draft = .ok storage' draft')
    (hstorage : ∀ name ∈ (part storage).names, allowed name) :
    ∀ name ∈ (part storage').names, allowed name := by
  refine (Outcome.steps_of_foldlM_state h).invariant
    (P := fun _ s => ∀ name ∈ (part s).names, allowed name) ?_ hstorage
  rintro done property current current' hfront hall ⟨before, after, hok⟩ name hname
  rcases hstep property (hfront.subset (by simp)) hok with heq | ⟨hallowed, heq⟩
  · exact hall name (heq ▸ hname)
  · rw [heq, PropertyList.mem_names_insert] at hname
    rcases hname with hname | rfl
    · exact hall name hname
    · exact hallowed

/-- What is handed on was asked for, is handed through or is a result; what is copied and not handed
on was not asked for. -/
lemma handed_of_assignStage {previous : Option Handover} {last : Bool}
    (hdisjoint : plan.pipeline.Disjoint)
    (h : Drafting.assignStage setting plan previous last draft = .ok storage draft') :
    (∀ name ∈ storage.outputs.names, name ∈ plan.desiredNames ∨
      name ∈ plan.pipeline.pipethrough.solidNames ∨ name ∈ plan.pipeline.output.solidNames) ∧
    ∀ name ∈ storage.innerCopies.names, name ∉ plan.desiredNames := by
  obtain ⟨s₁, d₁, s₂, d₂, s₃, d₃, s₄, d₄, s₅, d₅, types, hsources, hfilters, hthroughs, houtputs,
    hinners, rfl, -⟩ := loops_of_assignStage h
  have hentered := entered_of_sources hdisjoint.nodup_sourceNames hsources
  show (∀ name ∈ s₅.outputs.names, _) ∧ ∀ name ∈ s₅.innerCopies.names, _
  constructor
  · refine allowed_of_foldlM outputs (fun p _ {s d s' d'} hok => ?_) hinners ?_
    · obtain rfl := assignInner_eq hok
      exact Or.inl rfl
    refine allowed_of_foldlM outputs (fun p hp {s d s' d'} hok => ?_) houtputs ?_
    · obtain rfl := assignOutput_eq hok
      exact Or.inr ⟨Or.inr (Or.inr (List.mem_map_of_mem hp)), rfl⟩
    refine allowed_of_foldlM outputs (fun p hp {s d s' d'} hok => ?_) hthroughs ?_
    · rcases assignThrough_cases hok with ⟨-, rfl⟩ | ⟨-, rfl⟩
      · exact Or.inl rfl
      · exact Or.inr ⟨Or.inr (Or.inl (List.mem_map_of_mem hp)), rfl⟩
    refine allowed_of_foldlM outputs (fun p _ {s d s' d'} hok => ?_) hfilters ?_
    · rcases assignFilter_cases hok with ⟨-, rfl⟩ | ⟨-, hlisted, rfl⟩ | ⟨-, -, rfl⟩
      · exact Or.inl rfl
      · exact Or.inr ⟨Or.inl hlisted, rfl⟩
      · exact Or.inl rfl
    rw [hentered.outputs]
    exact fun _ hname => absurd hname List.not_mem_nil
  · refine allowed_of_foldlM innerCopies (fun p _ {s d s' d'} hok => ?_) hinners ?_
    · obtain rfl := assignInner_eq hok
      exact Or.inl rfl
    refine allowed_of_foldlM innerCopies (fun p _ {s d s' d'} hok => ?_) houtputs ?_
    · obtain rfl := assignOutput_eq hok
      exact Or.inl rfl
    refine allowed_of_foldlM innerCopies (fun p _ {s d s' d'} hok => ?_) hthroughs ?_
    · rcases assignThrough_cases hok with ⟨-, rfl⟩ | ⟨-, rfl⟩
      · exact Or.inl rfl
      · exact Or.inl rfl
    refine allowed_of_foldlM innerCopies (fun p _ {s d s' d'} hok => ?_) hfilters ?_
    · rcases assignFilter_cases hok with ⟨-, rfl⟩ | ⟨-, -, rfl⟩ | ⟨-, hunlisted, rfl⟩
      · exact Or.inl rfl
      · exact Or.inl rfl
      · exact Or.inr ⟨hunlisted, rfl⟩
    rw [hentered.innerCopies]
    exact fun _ hname => absurd hname List.not_mem_nil

/-- **A stage hands on only what it was asked for,** along each of the ways in which something is
handed on. -/
lemma outputs_subset_desiredNames {collection : TaskCollection} {found : Pipeline}
    {previous : Option Handover} {last : Bool} (hfound : plan.Resolved collection found)
    (h : Drafting.assignStage setting plan previous last draft = .ok storage draft') :
    storage.outputs.names ⊆ plan.desiredNames := by
  have hdesired : ∀ {name}, TaskCollection.Desired plan.request.aliases plan.desired name →
      name ∈ plan.desiredNames := by
    rintro name ⟨p, hp, rfl⟩
    exact List.mem_map_of_mem (PropertyList.name_mem_names hp)
  intro name hname
  rcases (handed_of_assignStage hfound.disjoint h).1 name hname with hlisted | hthrough | houtput
  · exact hlisted
  · have hclass : name ∈ (plan.pipeline.list .pipethrough).names :=
      PropertyList.solidNames_subset _ hthrough
    exact hdesired ((hfound.mem_class_iff (by decide)).1 hclass).2.2.2
  · have hclass : name ∈ (plan.pipeline.list .output).names :=
      PropertyList.solidNames_subset _ houtput
    exact hdesired ((hfound.mem_class_iff (by decide)).1 hclass).2

end StageStorage

/-! ## Writing sources -/

namespace Drafting

open Outcome (Fails)

section Writing

variable {α : Type} (setting : Setting) (plans : List StagePlan) (plan : StagePlan)
  (storage : StageStorage) (property : Property)

lemma blameless_knownType : Blameless (knownType property) := by
  refine Fails.get.bind fun draft => ?_
  split
  · exact Fails.pure _
  · exact blameless_throw rfl

lemma blameless_valueName (role : DeclarationRole) : Blameless (valueName role property) := by
  refine (blameless_knownType property).bind fun type => ?_
  exact Fails.ite (blameless_throw_bind rfl _) (Fails.pure _)

lemma blameless_isFlat : Blameless (isFlat property) := by
  refine Fails.get.bind fun draft => ?_
  split
  · exact Fails.pure _
  · exact Fails.pure _

lemma blameless_bind (name : String) : Blameless (bind name) :=
  Fails.of_ok fun _ => ⟨_, _, rfl⟩

lemma blameless_declareUniform : Blameless (declareUniform property) :=
  (blameless_valueName property .uniform).bind fun _ => Fails.pure _

lemma blameless_declareSampler : Blameless (declareSampler property) := by
  refine (blameless_knownType property).bind fun type => ?_
  refine Fails.ite (blameless_throw_bind rfl _) ?_
  exact (blameless_bind property.name).bind fun _ => Fails.pure _

lemma blameless_declareUniformBlock : Blameless (declareUniformBlock property) := by
  refine (blameless_knownType property).bind fun type => ?_
  exact (blameless_bind property.name).bind fun _ => Fails.pure _

lemma blameless_storageContent (type : GpuType) : Blameless (storageContent property type) := by
  unfold storageContent
  refine Fails.ite (Fails.pure _) ?_
  split
  · exact Fails.pure _
  · refine Fails.get.bind fun draft => ?_
    refine Fails.ite (blameless_throw_bind rfl _) ?_
    exact Fails.ite (Fails.pure _) (Fails.pure _)

lemma blameless_declareStorageBlock : Blameless (declareStorageBlock plans property) := by
  refine (blameless_knownType property).bind fun type => ?_
  refine (blameless_bind property.name).bind fun _ => ?_
  exact (blameless_storageContent property type).bind fun _ => Fails.pure _

lemma blameless_declareInput : Blameless (declareInput setting plan storage property) := by
  refine (blameless_valueName property .stageInput).bind fun type => ?_
  split
  · exact Fails.pure _
  · exact (blameless_isFlat property).bind fun _ => Fails.pure _

/-- An output that was asked for has a place. -/
lemma blameless_declareOutput (hlisted : property.name ∈ plan.desiredNames) :
    Blameless (declareOutput plan property) := by
  refine (blameless_valueName property .stageOutput).bind fun type => ?_
  dsimp only
  split
  · exact (blameless_isFlat property).bind fun _ => Fails.pure _
  · exact Fails.pure _
  · split
    · exact Fails.pure _
    · next hnone =>
        rw [List.findIdx?_eq_none_iff] at hnone
        exact absurd (hnone _ hlisted) (by simp)

lemma blameless_declarations (hlisted : storage.outputs.names ⊆ plan.desiredNames) :
    Blameless (declarations setting plans plan storage) := by
  refine (Fails.get.bind fun _ => Fails.pure _).bind fun structs => ?_
  refine (Fails.mapM fun p _ => blameless_declareUniform p).bind fun uniforms => ?_
  refine (Fails.mapM fun p _ => blameless_declareSampler p).bind fun samplers => ?_
  refine (Fails.mapM fun p _ => blameless_declareUniformBlock p).bind fun uniformBlocks => ?_
  refine (Fails.mapM fun p _ => blameless_declareStorageBlock plans p).bind fun storageBlocks => ?_
  refine (Fails.mapM fun p _ => blameless_declareInput setting plan storage p).bind fun inputs => ?_
  refine (Fails.mapM fun p hp => ?_).bind fun outputs => Fails.pure _
  exact blameless_declareOutput plan p (hlisted (PropertyList.name_mem_names hp))

lemma blameless_ofEmit (code : Except EmitError α) : Blameless (ofEmit code) := by
  cases code with
  | ok a => exact Fails.pure a
  | error error => exact blameless_throw rfl

lemma blameless_writeStage (hlisted : storage.outputs.names ⊆ plan.desiredNames) :
    Blameless (writeStage setting plans (plan, storage)) := by
  have hgenerate : Blameless (generateStage setting plans plan storage) := by
    refine (blameless_declarations setting plans plan storage hlisted).bind fun made => ?_
    refine Fails.get.bind fun draft => ?_
    refine (Fails.mapM fun task _ => blameless_ofEmit _).bind fun preamble => ?_
    refine (Fails.mapM fun p _ => (blameless_valueName p .inner).bind fun _ => Fails.pure _).bind
      fun inner => ?_
    refine (Fails.mapM fun p _ => (blameless_valueName p .inner).bind fun _ => Fails.pure _).bind
      fun copies => ?_
    exact (Fails.mapM fun task _ => blameless_ofEmit _).bind fun usages => Fails.pure _
  refine hgenerate.bind fun source => ?_
  have hdump : Blameless (dumpStage setting plan source) :=
    Fails.ite (Fails.modify _) (Fails.pure _)
  exact hdump.bind fun _ => Fails.pure _

end Writing

end Drafting

/-! ## Whole programs -/

lemma checkLimit_error {limit : Limit} {value bound : Nat} {error : SpecificationError}
    (h : checkLimit limit value bound = .error error) :
    bound < value ∧ error = .limitExceeded limit value bound := by
  unfold checkLimit at h
  split_ifs at h with hlt
  exact ⟨hlt, (Except.error.inj h).symm⟩

/-- The check of the limits fails only for a limit. -/
lemma checkLimits_error {info : DeviceInfo} {plans : List StagePlan} {program : ProgramStorage}
    {registry : Registry} {error : SpecificationError}
    (h : checkLimits info plans program registry = .error error) :
    ∃ limit value bound, bound < value ∧ error = .limitExceeded limit value bound := by
  unfold checkLimits at h
  rcases Outcome.of_bind_error h with h | ⟨-, -, h⟩
  on_goal 2 => rcases Outcome.of_bind_error h with h | ⟨-, -, h⟩
  on_goal 3 => rcases Outcome.of_bind_error h with h | ⟨-, -, h⟩
  all_goals
    obtain ⟨_, -, h⟩ := Outcome.of_forM_error h
    split at h
    · exact ⟨_, _, _, checkLimit_error h⟩
    · cases h

namespace Drafting

open Outcome (Fails)

variable {collection : TaskCollection} {setting : Setting} {plans : List StagePlan}
  {plan : StagePlan}

lemma resolved_of_planStages (hresolver : setting.resolver = collection.resolver)
    {requests : List StageRequest} {desired : PropertyList} {draft draft' : Draft}
    (h : planStages setting.resolver requests desired draft = .ok plans draft')
    (hplan : plan ∈ plans) : ∃ found, plan.Resolved collection found := by
  obtain ⟨i, hi⟩ := List.mem_iff_getElem?.1 hplan
  obtain ⟨request, before, after, hstage⟩ := planned_at h hi
  exact (StagePlan.resolved_of_planStage (hresolver ▸ hstage)).2

/-- **With a collection, no draft blames the resolver.** -/
lemma blameless_blueprint (hresolver : setting.resolver = collection.resolver) (info : DeviceInfo)
    (requests : List StageRequest) (desired : PropertyList) :
    Blameless (blueprint setting info requests desired) := by
  refine (Fails.modify _).bind fun _ => ?_
  have hplanning : Blameless (planStages setting.resolver requests desired) :=
    hresolver ▸ blameless_planBackwards desired requests.reverse
  refine hplanning.bind_of_ok fun plans start planned hplans => ?_
  have hresolved : ∀ plan ∈ plans, ∃ found, plan.Resolved collection found :=
    fun plan => resolved_of_planStages hresolver hplans
  have hchecks : Blameless (plans.forM fun plan => ofExcept plan.checkDisjoint) := by
    refine Fails.forM fun plan hplan => blameless_ofExcept fun error herror => ?_
    obtain ⟨found, hfound⟩ := hresolved plan hplan
    rw [StagePlan.checkDisjoint_of_disjoint hfound.disjoint] at herror
    cases herror
  refine hchecks.bind fun _ => ?_
  refine (blameless_assignStages setting none plans).bind_of_ok
    fun storages before assigned hstorages => ?_
  have hwrites : Blameless ((plans.zip storages).mapM (writeStage setting plans)) := by
    refine Fails.mapM fun stage hstage => ?_
    obtain ⟨i, hi⟩ := List.mem_iff_getElem?.1 hstage
    obtain ⟨hplan, hstorage⟩ := List.getElem?_zip_eq_some.1 hi
    obtain ⟨found, hfound⟩ := hresolved stage.1 (List.mem_of_getElem? hplan)
    obtain ⟨first, last, hassign⟩ := assigned_at hstorages hplan hstorage
    exact blameless_writeStage setting plans stage.1 stage.2
      (StageStorage.outputs_subset_desiredNames hfound hassign)
  refine hwrites.bind fun sources => Fails.get.bind fun draft => ?_
  refine (blameless_ofExcept fun error herror => ?_).bind fun _ => Fails.pure _
  obtain ⟨limit, value, bound, -, rfl⟩ := checkLimits_error herror
  rfl

end Drafting

namespace Building

open Outcome (Fails)

variable {σ : Type} [Device σ]

/-- The device may refuse, but the resolver is not blamed. -/
abbrev Excused {α : Type} (x : Building σ α) : Prop :=
  Fails (fun error => error.isInternal = false) x

lemma excused_request {α : Type} (question : Request α) : Excused (σ := σ) (request question) :=
  Fails.of_ok fun _ => ⟨_, _, rfl⟩

lemma excused_release (shaders : List ShaderName) : Excused (σ := σ) (release shaders) :=
  Fails.forM fun _ _ => excused_request _

omit [Device σ] in
lemma excused_throw {α : Type} {error : ShaderError} (h : error.isInternal = false) :
    Excused (σ := σ) (throw error : Building σ α) :=
  Fails.throw h

lemma excused_compileStage (made : List ShaderName) (text : Stage × String) :
    Excused (σ := σ) (compileStage made text) := by
  refine (excused_request _).bind fun answer => ?_
  split
  · exact (excused_release _).bind fun _ => excused_throw rfl
  · refine (excused_request _).bind fun compiled => Fails.ite ?_ ?_
    · exact (Fails.modify _).bind fun _ => Fails.pure _
    · refine (excused_request _).bind fun log => (Fails.modify _).bind fun _ => ?_
      exact (excused_release _).bind fun _ => excused_throw rfl

lemma excused_linkShaders (shaders : List ShaderName) : Excused (σ := σ) (linkShaders shaders) := by
  refine (excused_request _).bind fun answer => ?_
  split
  · exact (excused_release _).bind fun _ => excused_throw rfl
  · refine (Fails.forM fun _ _ => excused_request _).bind fun _ => ?_
    refine (excused_request _).bind fun linked => ?_
    refine (Fails.forM fun _ _ => excused_request _).bind fun _ => ?_
    refine (excused_release _).bind fun _ => Fails.ite ?_ ?_
    · exact (Fails.modify _).bind fun _ => Fails.pure _
    · refine (excused_request _).bind fun log => (Fails.modify _).bind fun _ => ?_
      exact (excused_request _).bind fun _ => excused_throw rfl

lemma excused_queryBindings (storage : ProgramStorage) (locate : String → Request (Option Nat))
    (properties : List Property) :
    Excused (σ := σ) (queryBindings storage locate properties) := by
  refine Fails.foldlM (fun found p => (excused_request _).bind fun location => ?_) _ _
  split
  · exact Fails.pure _
  · exact Fails.pure _

lemma excused_query (name : ProgramName) (storage : ProgramStorage) :
    Excused (σ := σ) (query name storage) := by
  have huniform : ∀ linked p, Excused (σ := σ) (queryUniform name linked p) := by
    intro linked p
    refine (excused_request _).bind fun location => ?_
    split
    · exact Fails.pure _
    · exact (Fails.modify _).bind fun _ => Fails.pure _
  refine (Fails.foldlM huniform _ _).bind fun linked => ?_
  refine (excused_queryBindings _ _ _).bind fun samplers => ?_
  refine (excused_queryBindings _ _ _).bind fun uniformBlocks => ?_
  refine (excused_queryBindings _ _ _).bind fun storageBlocks => ?_
  exact (Fails.forM fun _ _ => Fails.modify _).bind fun _ => Fails.pure _

/-- What goes wrong on a device is not the resolver's fault. -/
lemma excused_program (made : Blueprint) (desired : PropertyList) :
    Excused (σ := σ) (program made desired) := by
  have hbuild : Excused (σ := σ) (build made.texts) :=
    (Fails.foldlM excused_compileStage _ _).bind excused_linkShaders
  refine hbuild.bind fun name => ?_
  exact (excused_query name made.program).bind fun _ => Fails.pure _

end Building

lemma compile_error {σ : Type} [Device σ] {collection : TaskCollection} {setting : Setting}
    (hresolver : setting.resolver = collection.resolver) {requests : List StageRequest}
    {desired : PropertyList} {workshop workshop' : Workshop σ} {error : ShaderError}
    (h : compile setting requests desired workshop = .error error workshop') :
    error.isInternal = false := by
  unfold compile at h
  split at h
  · next e draft hblueprint =>
      cases h
      exact Drafting.blameless_blueprint hresolver _ requests desired _ _ _ hblueprint
  · next made draft hblueprint =>
      dsimp only at h
      split at h
      · next e site hprogram =>
          cases h
          exact Building.excused_program made desired _ _ _ hprogram
      · cases h

/-! ## Places of results and attributes -/

/-- The place that a result of a fragment stage is declared with. -/
def Declaration.target? : Declaration → Option Nat
  | .target location _ _ => some location
  | _ => none

/-- The places of the results of a stage. -/
def StageSource.targets (source : StageSource) : List Nat :=
  source.declarations.filterMap Declaration.target?

namespace StagePlan

variable {plan : StagePlan} {name : String}

lemma length_desiredNames (plan : StagePlan) : plan.desiredNames.length = plan.desired.size := by
  rw [desiredNames, List.length_map, PropertyList.names, List.length_map, PropertyList.size]

/-- The place of a name among what the stage was asked for. -/
def place (plan : StagePlan) (name : String) : Nat :=
  (plan.desiredNames.findIdx? (· == name)).getD 0

lemma desiredNames_place (h : name ∈ plan.desiredNames) :
    plan.desiredNames[plan.place name]? = some name := by
  have hsome : (plan.desiredNames.findIdx? (· == name)).isSome := by
    rw [List.findIdx?_isSome, List.any_eq_true]
    exact ⟨name, h, beq_self_eq_true name⟩
  obtain ⟨i, hi⟩ := Option.isSome_iff_exists.1 hsome
  obtain ⟨hlt, heq, -⟩ := List.findIdx?_eq_some_iff_getElem.1 hi
  rw [place, hi, Option.getD_some, List.getElem?_eq_getElem hlt, eq_of_beq heq]

end StagePlan

namespace Draft

variable (draft : Draft) (setting : Setting) (plans : List StagePlan) (plan : StagePlan)
  (storage : StageStorage)

/-- Only what a fragment stage hands on is given a place. -/
lemma targets_declared :
    (draft.declared setting plans plan storage).filterMap Declaration.target? =
      if plan.request.stage = .fragment then storage.outputs.names.map plan.place else [] := by
  have hstructs : (draft.registry.structs storage.types).filterMap Declaration.target? = [] := by
    rw [List.filterMap_eq_nil_iff]
    intro declaration h
    obtain ⟨name, body, rfl⟩ := Registry.struct_of_mem_structs h
    rfl
  have hresource : ∀ cls (list : PropertyList),
      (list.entries.map (draft.resource plans · cls)).filterMap Declaration.target? = [] := by
    intro cls list
    rw [List.filterMap_map, List.filterMap_eq_nil_iff]
    intro p _
    cases cls <;> rfl
  have htaken : (storage.inputs.entries.map (draft.taken setting plan storage)).filterMap
      Declaration.target? = [] := by
    rw [List.filterMap_map, List.filterMap_eq_nil_iff]
    intro p _
    show (draft.taken setting plan storage p).target? = none
    unfold taken
    cases plan.request.stage <;> rfl
  have hhanded : (storage.outputs.entries.map (draft.handed plan)).filterMap Declaration.target? =
      if plan.request.stage = .fragment then storage.outputs.names.map plan.place else [] := by
    rw [List.filterMap_map]
    split_ifs with hstage
    · rw [PropertyList.names, List.map_map, ← List.filterMap_eq_map]
      refine List.filterMap_congr fun p _ => ?_
      simp only [Function.comp_apply, handed, hstage]
      rfl
    · rw [List.filterMap_eq_nil_iff]
      intro p _
      show (draft.handed plan p).target? = none
      unfold handed
      cases hcase : plan.request.stage with
      | fragment => exact absurd hcase hstage
      | vertex => rfl
      | compute => rfl
  simp only [declared, List.filterMap_append, hstructs, hresource, htaken, hhanded, List.nil_append]

end Draft

namespace Drafting

/-- **A source that was written** for a stage, whether the program came about or not. -/
def Written (setting : Setting) (requests : List StageRequest) (desired : PropertyList)
    (plan : StagePlan) (storage : StageStorage) (source : StageSource) : Prop :=
  ∃ start plans planned storages assigned before after,
    start.program = {} ∧ planStages setting.resolver requests desired start = .ok plans planned ∧
    assignStages setting none plans planned = .ok storages assigned ∧
    (plan, storage) ∈ plans.zip storages ∧
    writeStage setting plans (plan, storage) before = .ok source after

variable {collection : TaskCollection} {setting : Setting} {requests : List StageRequest}
  {desired : PropertyList} {plan : StagePlan} {storage : StageStorage} {source : StageSource}

namespace Written

lemma declarations_eq (h : Written setting requests desired plan storage source) :
    ∃ draft plans, source.declarations = Draft.declared draft setting plans plan storage := by
  obtain ⟨-, plans, -, -, -, before, after, -, -, -, -, hwrite⟩ := h
  obtain ⟨-, -, hsource⟩ :=
    yields_writeStage setting plans (plan, storage) before source after hwrite
  exact ⟨after, plans, hsource after (Draft.Later.refl after)⟩

/-- **Results of a fragment stage have places of their own,** all among what the stage was asked
for. -/
lemma targets_nodup (h : Written setting requests desired plan storage source)
    (hresolver : setting.resolver = collection.resolver) :
    source.targets.Nodup ∧ ∀ location ∈ source.targets, location < plan.desired.size := by
  have hsubset : storage.outputs.names ⊆ plan.desiredNames := by
    obtain ⟨start, plans, planned, storages, assigned, -, -, -, hplans, hassign, hstage, -⟩ := h
    obtain ⟨i, hi⟩ := List.mem_iff_getElem?.1 hstage
    obtain ⟨hplan, hstorage⟩ := List.getElem?_zip_eq_some.1 hi
    obtain ⟨found, hfound⟩ :=
      resolved_of_planStages hresolver hplans (List.mem_of_getElem? hplan)
    obtain ⟨first, last, hone⟩ := assigned_at hassign hplan hstorage
    exact StageStorage.outputs_subset_desiredNames hfound hone
  obtain ⟨draft, plans, hsource⟩ := h.declarations_eq
  rw [StageSource.targets, hsource, Draft.targets_declared]
  split_ifs
  · refine ⟨storage.outputs.nodup.map_on ?_, ?_⟩
    · intro name hname other hother heq
      have hplace := StagePlan.desiredNames_place (hsubset hname)
      rw [heq, StagePlan.desiredNames_place (hsubset hother)] at hplace
      exact (Option.some.inj hplace).symm
    · intro location hlocation
      obtain ⟨name, hname, rfl⟩ := List.mem_map.1 hlocation
      have hplace := StagePlan.desiredNames_place (hsubset hname)
      rw [← plan.length_desiredNames]
      exact (List.getElem?_eq_some_iff.1 hplace).1
  · exact ⟨List.nodup_nil, fun _ h => absurd h List.not_mem_nil⟩

/-- **Every attribute has the location that the layout has for it.** -/
lemma location?_of_vertexInput (h : Written setting requests desired plan storage source)
    (hresolver : setting.resolver = collection.resolver) {location : Nat} {type holder : String}
    (hinput : .vertexInput location type holder ∈ source.declarations) :
    ∃ name, holder = Mark.element ++ name ∧
      setting.vertexLayout.location? name = some location := by
  obtain ⟨draft, plans, hsource⟩ := h.declarations_eq
  rw [hsource, Draft.mem_declared] at hinput
  rcases hinput with hstruct | ⟨cls, p, -, heq⟩ | ⟨p, hp, heq⟩ | ⟨p, -, heq⟩
  · obtain ⟨name, body, heq⟩ := Registry.struct_of_mem_structs hstruct
    cases heq
  · cases cls <;> cases heq
  · obtain ⟨start, plans, planned, storages, assigned, -, -, hfresh, hplans, hassign, hstage, -⟩ :=
      h
    obtain ⟨i, hi⟩ := List.mem_iff_getElem?.1 hstage
    obtain ⟨hplan, hstorage⟩ := List.getElem?_zip_eq_some.1 hi
    have hdisjoint : ∀ other ∈ plans, other.pipeline.Disjoint := by
      intro other hother
      obtain ⟨found, hfound⟩ := resolved_of_planStages hresolver hplans hother
      exact hfound.disjoint
    have hprogram : planned.program = {} :=
      (keeps_planBackwards _ _ _ start plans planned hplans).trans hfresh
    have hshared := shared_of_assignStages hdisjoint (hprogram ▸ ProgramStorage.apart_fresh) hassign
    have htakes := ((hshared.sorted i plan storage hplan hstorage).inputs p).1 hp
    unfold Draft.taken at heq
    cases hvertex : plan.request.stage with
    | vertex =>
        rw [StagePlan.takesIn, if_pos hvertex, VertexLayout.contains] at htakes
        obtain ⟨found, hfound⟩ := Option.isSome_iff_exists.1 htakes.2
        simp only [hvertex, hfound, Option.getD_some, Declaration.vertexInput.injEq] at heq
        obtain ⟨rfl, -, rfl⟩ := heq
        exact ⟨p.name, rfl, hfound⟩
    | fragment =>
        simp only [hvertex] at heq
        cases heq
    | compute =>
        simp only [hvertex] at heq
        cases heq
  · unfold Draft.handed at heq
    cases hstage : plan.request.stage <;> simp only [hstage] at heq <;> cases heq

end Written

/-- The sources of a finished blueprint were written. -/
lemma Parts.written {made : Blueprint} {start planned assigned final : Draft} {i : Nat}
    (h : Parts setting requests desired made start planned assigned final)
    (hat : made.At i plan storage source) :
    Written setting requests desired plan storage source := by
  have hstage : (made.plans.zip made.storages)[i]? = some (plan, storage) :=
    List.getElem?_zip_eq_some.2 ⟨hat.plan, hat.storage⟩
  have hfresh : start.program = {} :=
    (keeps_planBackwards _ _ _ start made.plans planned h.plan).symm.trans h.fresh
  obtain ⟨before, after, hwrite⟩ := h.writes hat
  exact ⟨start, made.plans, planned, made.storages, assigned, before, after, hfresh, h.plan,
    h.assign, List.mem_of_getElem? hstage, hwrite⟩

end Drafting

/-! ## Stores keep their word -/

/-- **With a store of tasks, nothing goes wrong that only a resolver could be blamed for.**  Take any
history of registering tasks and taking them out.

* Tasks, stages and order keep in step, and the search for a producer never comes by a key without a
  task.
* A resolution fails only by a cycle, and every task it schedules was registered for the stage, was
  not taken out since, and is found under its key.
* A compile never blames the resolver, whatever the device answers.
* Whenever the source of a stage is written, the results of a fragment stage have places of their
  own among what it was asked for, and every attribute of a vertex stage has the location that the
  layout has for it. -/
theorem no_internal_error (history : List TaskCollection.Change) (setting : Setting)
    (hresolver : setting.resolver = (TaskStore.after history).resolver)
    (requests : List StageRequest) (desired : PropertyList) :
    (TaskStore.after history).InStep ∧
    (∀ stage aliases name, ∃ key?,
      (TaskStore.after history).producer? stage aliases name = .ok key?) ∧
    (∀ stage wanted aliases fault,
      (TaskStore.after history).resolve stage wanted aliases = .error fault →
        ∃ task property, fault = .failed (.cycle task property)) ∧
    (∀ stage wanted aliases found,
      (TaskStore.after history).resolve stage wanted aliases = .ok found →
        ∀ key ∈ found.items, ∃ entry, entry.key = key ∧ stage ∈ entry.stages ∧
          TaskCollection.Stands history entry ∧
          (TaskStore.after history).task? key = some entry.task) ∧
    (∀ (σ : Type) [Device σ] (workshop workshop' : Workshop σ) error,
      compile setting requests desired workshop = .error error workshop' →
        error.isInternal = false) ∧
    ∀ plan storage source, Drafting.Written setting requests desired plan storage source →
      source.targets.Nodup ∧ (∀ location ∈ source.targets, location < plan.desired.size) ∧
      ∀ location type holder, .vertexInput location type holder ∈ source.declarations →
        ∃ name, holder = Mark.element ++ name ∧
          setting.vertexLayout.location? name = some location := by
  have hinStep := TaskStore.inStep_after history
  rw [TaskStore.after_eq] at hresolver hinStep ⊢
  rw [TaskCollection.resolver_apart] at hresolver
  refine ⟨hinStep, ?_, ?_, ?_, ?_, ?_⟩
  · intro stage aliases name
    exact ⟨_, TaskCollection.producer?_apart name⟩
  · intro stage wanted aliases fault h
    rw [TaskCollection.resolve_apart] at h
    cases hresolve : (TaskCollection.after history).resolve stage wanted aliases with
    | ok found =>
        rw [hresolve] at h
        cases h
    | error error =>
        rw [hresolve] at h
        cases h
        obtain ⟨task, property, rfl⟩ := (TaskCollection.cyclic_of_resolve_error hresolve).2
        exact ⟨task, property, rfl⟩
  · intro stage wanted aliases found h key hkey
    rw [TaskCollection.resolve_apart] at h
    cases hresolve : (TaskCollection.after history).resolve stage wanted aliases with
    | error error =>
        rw [hresolve] at h
        cases h
    | ok other =>
        rw [hresolve] at h
        cases h
        obtain ⟨entry, hentry, hentryKey, hstage, htask⟩ :=
          TaskCollection.task?_of_mem_items hresolve hkey
        rw [TaskCollection.task?_apart]
        exact ⟨entry, hentryKey, hstage, TaskCollection.mem_after_iff.1 hentry, htask⟩
  · intro σ _ workshop workshop' error h
    exact compile_error hresolver h
  · intro plan storage source h
    obtain ⟨hnodup, hbound⟩ := h.targets_nodup hresolver
    exact ⟨hnodup, hbound, fun location type holder => h.location?_of_vertexInput hresolver⟩

/-- A task is taken out, and another takes its slot. -/
def replaced : List TaskCollection.Change :=
  [.register (.call "blank" { outputs := .ofList [⟨"color", .vec4⟩] }) [.fragment],
    .register (.call "place" { inputs := .ofList [⟨"corner", .vec4⟩]
                               outputs := .ofList [⟨vertexPosition, .vec4⟩, ⟨"tone", .vec4⟩] })
      [.vertex],
    .remove ⟨1, 1⟩,
    .register (.call "shade" { filters := .ofList [⟨"tone", .vec4⟩]
                               outputs := .ofList [⟨"color", .vec4⟩] }) [.fragment]]

/-- Meshes with tints and corners. -/
def cornered : Setting where
  catalogue := .empty
  vertexLayout := { components := [(⟨"tint", .vec4⟩, 0), (⟨"corner", .vec4⟩, 1)], next := 2 }
  resolver := (TaskStore.after replaced).resolver
  options := {}

/-- Two stages after a history in which a slot is used twice.  A color and a tone are asked for, and
the tone, which is only changed, is declared first. -/
theorem no_internal_error_replaced :
    let requests := [StageRequest.vertex .empty, .fragment .empty]
    let desired := PropertyList.ofList [⟨"color", .vec4⟩, ⟨"tone", .vec4⟩]
    (TaskStore.after replaced).InStep ∧ (TaskStore.after replaced).order = [⟨2, 1⟩, ⟨1, 3⟩] ∧
    ∃ plan storage source next storage' source',
      Drafting.Written cornered requests desired plan storage source ∧
      Drafting.Written cornered requests desired next storage' source' ∧
      next.pipeline.items = [⟨1, 3⟩] ∧
      source.declarations.head? = some (.vertexInput 1 "vec4" "elem_corner") ∧
      source'.targets = [1, 0] ∧ source'.targets.Nodup ∧
      (∃ name, "elem_corner" = Mark.element ++ name ∧
        cornered.vertexLayout.location? name = some 1) ∧
      ∀ (workshop workshop' : Workshop Headless) error,
        compile cornered requests desired workshop = .error error workshop' →
          error.isInternal = false := by
  intro requests desired
  have htest : Outcome.passes (fun made : Blueprint =>
        (made.stageTest 0 fun _ _ source => decide (source.declarations.head?
          = some (.vertexInput 1 "vec4" "elem_corner"))) &&
        made.stageTest 1 fun plan _ source => decide (plan.pipeline.items = [⟨1, 3⟩] ∧
          source.targets = [1, 0]))
      (Drafting.blueprint cornered .ideal requests desired { registry := .ofBasics }) = true := by
    decide +kernel
  obtain ⟨made, draft, hmade, htest⟩ := Outcome.exists_of_passes htest
  rw [Bool.and_eq_true] at htest
  obtain ⟨plan, storage, source, hat, hinput⟩ := Blueprint.exists_of_stageTest htest.1
  obtain ⟨next, storage', source', hat', htargets⟩ := Blueprint.exists_of_stageTest htest.2
  obtain ⟨start, planned, assigned, hparts⟩ := Drafting.parts_of_blueprint hmade
  obtain ⟨hitems, htargets⟩ := of_decide_eq_true htargets
  have hinput := of_decide_eq_true hinput
  obtain ⟨hinStep, -, -, -, hcompile, hwritten⟩ :=
    no_internal_error replaced cornered rfl requests desired
  exact ⟨hinStep, by decide, plan, storage, source, next, storage', source', hparts.written hat,
    hparts.written hat', hitems, hinput, htargets, (hwritten _ _ _ (hparts.written hat')).1,
    (hwritten _ _ _ (hparts.written hat)).2.2 _ _ _ (List.mem_of_mem_head? hinput),
    hcompile Headless⟩

end ShaderWeave
