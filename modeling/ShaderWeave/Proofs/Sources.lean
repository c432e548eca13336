import ShaderWeave.Proofs.Drafts
import ShaderWeave.Proofs.Effects
import ShaderWeave.Proofs.Plan
import ShaderWeave.Task.Kinds

/-!
# Sources of different histories

What a draft writes does not show when the types in its registry were registered.

**Tasks.**  A task may ask for the name of any type.  `Task.SelfContained` says that its code
depends on the names of no other types than those it reports and those that a base registry has, and
that it leaves in the set what other tasks reported.  The kinds of task that the library builds are
self-contained over every base (`Task.selfContained_of_builtIn`); a remark is if it remarks on such
types only.

**Sources.**  The parts of a source look at types that the stage mentions, which both drafts have
met, so they are written alike (`Drafting.beside_generateStage`).

**Blueprints.**  `Drafting.beside_blueprint`: with self-contained tasks two drafts end in the same
error, or in blueprints with equal plans, equal sources and equal storage decisions.
-/

namespace ShaderWeave

open Registry

/-! ## Self-contained tasks -/

/-- Two contexts with the same variables, in which some types have the same names. -/
structure EmitContext.Agree (named : HostType → Prop) (context context' : EmitContext) : Prop where
  aliases : context.aliases = context'.aliases
  value {type : HostType} : named type → context.types.value type = context'.types.value type
  handle {type : HostType} : named type → context.types.handle type = context'.types.handle type

namespace EmitContext.Agree

variable {named : HostType → Prop} {context context' : EmitContext} {property : Property}

lemma holder_eq (h : context.Agree named context') : context.holder = context'.holder := by
  funext name
  rw [holder, holder, h.aliases]

lemma typeName?_eq (h : context.Agree named context') (hproperty : named property.type) :
    context.typeName? property = context'.typeName? property := by
  rw [typeName?, typeName?, h.value hproperty, h.handle hproperty]

end EmitContext.Agree

namespace Task

/-- The task reports the type: it is in the set of types after the task, whatever was in it before. -/
def Reports (task : Task) (type : HostType) : Prop :=
  ∀ types : TypeSet, type ∈ (task.collectTypes types).order

/-- What other tasks reported is still there after the task. -/
def KeepsTypes (task : Task) : Prop :=
  ∀ (types : TypeSet) (type : HostType), type ∈ types.order → type ∈ (task.collectTypes types).order

/-- The task leaves the types of other tasks where they are, and its code depends on the names of no
other types than those it reports and those that the base has. -/
structure SelfContained (base : Registry) (task : Task) : Prop where
  keeps : task.KeepsTypes
  code : ∀ context context' : EmitContext,
    context.Agree (fun type => task.Reports type ∨ base.key? type ≠ none) context' →
    task.declaration context = task.declaration context' ∧ task.usage context = task.usage context'

/-- The kinds of task that come with the library. -/
inductive BuiltIn : Task → Prop where
  | constant {name : String} {value : Value} {task : Task} (h : constant? name value = some task) :
      BuiltIn task
  | call (function : String) (lists : TaskLists) : BuiltIn (call function lists)
  | snippet (code : String) (lists : TaskLists) : BuiltIn (snippet code lists)
  | header (code : String) (lists : TaskLists) (label : String) : BuiltIn (header code lists label)
  | headerOfFile {contents : Option ByteArray} {lists : TaskLists} {label : String} {task : Task}
      (h : headerOfFile contents lists label = .ok task) : BuiltIn task

variable {base : Registry} {task : Task} {lists : TaskLists}

/-- A task that does not say otherwise leaves all types in the set and reports those of its
properties. -/
lemma keepsTypes_of_default (h : task.collectTypes = task.lists.collectTypes) :
    task.KeepsTypes := by
  intro types type htype
  rw [h]
  exact TypeSet.mem_insertAll.2 (Or.inl htype)

lemma reports_of_default (h : task.collectTypes = task.lists.collectTypes) {property : Property}
    (hproperty : property ∈ task.lists.arguments) : task.Reports property.type := by
  intro types
  rw [h]
  exact TypeSet.mem_insertAll.2 (Or.inr (List.mem_map_of_mem hproperty))

lemma defines_eq {named : HostType → Prop} {context context' : EmitContext}
    (h : context.Agree named context') : lists.defines context = lists.defines context' := by
  simp only [TaskLists.defines, TaskLists.renamed, h.holder_eq]

lemma undefines_eq {named : HostType → Prop} {context context' : EmitContext}
    (h : context.Agree named context') : lists.undefines context = lists.undefines context' := by
  simp only [TaskLists.undefines, TaskLists.renamed, h.holder_eq]

lemma selfContained_header (code label : String) :
    (header code lists label).SelfContained base := by
  refine ⟨keepsTypes_of_default rfl, fun context context' hagree => ?_⟩
  simp only [header, defines_eq hagree, undefines_eq hagree, and_self]

/-- **The kinds of task that come with the library are self-contained,** whatever the base has. -/
lemma selfContained_of_builtIn (h : task.BuiltIn) : task.SelfContained base := by
  cases h with
  | constant h =>
      obtain ⟨literal, -, rfl⟩ := Option.map_eq_some_iff.1 h
      refine ⟨keepsTypes_of_default rfl, fun context context' hagree => ?_⟩
      simp [hagree.holder_eq]
  | call function lists =>
      refine ⟨keepsTypes_of_default rfl, fun context context' hagree => ⟨rfl, ?_⟩⟩
      have hnamed : lists.arguments.filter (fun p => (context.typeName? p).isSome) =
          lists.arguments.filter fun p => (context'.typeName? p).isSome := by
        apply List.filter_congr
        intro p hp
        rw [hagree.typeName?_eq (Or.inl (reports_of_default rfl hp))]
      simp only [Task.call, hnamed, hagree.holder_eq]
  | snippet code lists =>
      refine ⟨keepsTypes_of_default rfl, fun context context' hagree => ?_⟩
      simp only [Task.snippet, defines_eq hagree, undefines_eq hagree, and_self]
  | header code lists label => exact selfContained_header code label
  | headerOfFile h =>
      unfold Task.headerOfFile at h
      split at h
      · cases h
      · split at h
        · cases h
        · cases h
          exact selfContained_header _ _

/-- A remark that reports the types it remarks on is self-contained, and so is one on types of the
base. -/
lemma selfContained_remark {label : String} {inputs outputs needs : PropertyList} {gaveUp : Bool}
    {collectTypes : TypeSet → TypeSet}
    (hkeeps : { remark label inputs outputs needs gaveUp with collectTypes }.KeepsTypes)
    (hnamed : ∀ p ∈ needs.entries,
      { remark label inputs outputs needs gaveUp with collectTypes }.Reports p.type ∨
        base.key? p.type ≠ none) :
    { remark label inputs outputs needs gaveUp with collectTypes }.SelfContained base := by
  refine ⟨hkeeps, fun context context' hagree => ⟨?_, rfl⟩⟩
  have hlines : needs.entries.mapM (remarkLine context) =
      needs.entries.mapM (remarkLine context') := by
    apply Outcome.mapM_congr
    intro p hp
    rw [remarkLine, remarkLine, EmitContext.typeName, EmitContext.typeName,
      hagree.typeName?_eq (hnamed p hp), hagree.holder_eq]
  simp only [remark, hlines]

end Task

/-- Every task of the resolver comes with the library or is self-contained. -/
def Resolver.SelfContained (base : Registry) (resolver : Resolver) : Prop :=
  ∀ key task, resolver.task? key = some task → task.BuiltIn ∨ task.SelfContained base

lemma Resolver.SelfContained.task {base : Registry} {resolver : Resolver} {key : TaskKey}
    {task : Task} (h : resolver.SelfContained base) (htask : resolver.task? key = some task) :
    task.SelfContained base :=
  (h key task htask).elim Task.selfContained_of_builtIn id

namespace TaskCollection

variable {base : Registry}

lemma selfContained_empty : empty.resolver.SelfContained base := by
  intro key task htask
  cases htask

lemma selfContained_register {collection : TaskCollection} {task : Task} (stages : List Stage)
    (h : collection.resolver.SelfContained base) (htask : task.BuiltIn ∨ task.SelfContained base) :
    (collection.register task stages).resolver.SelfContained base := by
  intro key other hother
  obtain ⟨entry, hentry, -, rfl⟩ := task?_eq_some_iff.1 hother
  have hmem : entry ∈ collection.entries ∨ entry.task = task := by
    unfold register at hentry
    split at hentry
    all_goals
      rcases List.mem_append.1 hentry with hentry | hentry
      · exact Or.inl hentry
      · exact Or.inr (by rw [List.mem_singleton.1 hentry])
  rcases hmem with hmem | rfl
  · exact h entry.key entry.task (task?_key hmem)
  · exact htask

end TaskCollection

/-- Two blueprints with the same program in them.  The keys of types may differ. -/
structure Blueprint.Matches (blueprint blueprint' : Blueprint) : Prop where
  plans : blueprint.plans = blueprint'.plans
  sources : blueprint.sources = blueprint'.sources
  program : blueprint.program = blueprint'.program

namespace Drafting

variable {base : Registry} {setting : Setting} {draft draft' : Draft} {property : Property}

/-! ## Declarations -/

lemma beside_knownType (h : Draft.Paired base setting.catalogue draft draft')
    (hmet : Draft.Met draft draft' property.type) :
    (bond base setting.catalogue).Beside
      (fun after after' type type' =>
        type.Alike (Linked base after.registry after'.registry) type')
      (knownType property) (knownType property) draft draft' := by
  apply Bond.beside_get_bind
  rcases typeOf?_of_met h hmet with ⟨hnone, hnone'⟩ | ⟨type, type', htyped⟩
  · rw [hnone, hnone']
    exact Bond.beside_throw _ h
  · rw [htyped.1, htyped.2]
    exact Bond.beside_pure h (htyped.alike h)

lemma beside_valueName {role : DeclarationRole}
    (h : Draft.Paired base setting.catalogue draft draft')
    (hmet : Draft.Met draft draft' property.type) :
    (bond base setting.catalogue).Beside Bond.Equal (valueName role property)
      (valueName role property) draft draft' := by
  refine (beside_knownType h hmet).bind fun type type' _ _ hrel _ halike => ?_
  rw [halike.valueName_eq]
  exact Bond.beside_ite (fun _ => Bond.beside_throw _ hrel) fun _ => Bond.beside_pure hrel rfl

lemma beside_isFlat (h : Draft.Paired base setting.catalogue draft draft')
    (hmet : Draft.Met draft draft' property.type) :
    (bond base setting.catalogue).Beside Bond.Equal (isFlat property) (isFlat property)
      draft draft' := by
  apply Bond.beside_get_bind
  have hformat : (draft.registry.lookup? property.type).bind Conversion.format =
      (draft'.registry.lookup? property.type).bind Conversion.format := by
    rcases lookup?_of_met h hmet with ⟨hnone, hnone'⟩ | ⟨c, c', hfound, hfound'⟩
    · rw [hnone, hnone']
    · rw [hfound, hfound', lookup?_alike h.grown h.grown' hfound hfound', Option.bind_some,
        Option.bind_some]
  rw [hformat]
  cases (draft'.registry.lookup? property.type).bind Conversion.format with
  | none => exact Bond.beside_pure h rfl
  | some format => exact Bond.beside_pure h rfl

lemma beside_structDeclarations {plan : StagePlan} {storage storage' : StageStorage}
    (h : Draft.Paired base setting.catalogue draft draft')
    (hstored : Draft.Stored base plan draft draft' storage storage') :
    (bond base setting.catalogue).Beside Bond.Equal (structDeclarations storage)
      (structDeclarations storage') draft draft' := by
  apply Bond.beside_get_bind
  refine Bond.beside_pure h ?_
  have htypes := hstored.types
  generalize storage.types = types at htypes ⊢
  generalize storage'.types = types' at htypes ⊢
  induction htypes with
  | nil => rfl
  | cons hlinked _ ih =>
      have halike := hlinked.alike h.grown h.grown'
      simp only [List.filterMap_cons, halike.valueName_eq, halike.body_eq, ih]

lemma beside_bind (name : String) (h : Draft.Paired base setting.catalogue draft draft') :
    (bond base setting.catalogue).Beside Bond.Equal (bind name) (bind name) draft draft' := by
  have honward : Draft.Onward draft draft' { draft with program := (draft.program.bind name).2 }
      { draft' with program := (draft'.program.bind name).2 } := ⟨Extends.refl _, Extends.refl _⟩
  refine ⟨⟨h.void, h.grown, h.grown', h.pending, h.pending', ?_, ?_⟩, honward, ?_⟩
  · rw [h.program]
  · intro cls property (hproperty : property ∈ ((draft.program.bind name).2.list cls).entries)
    rw [ProgramStorage.list_bind] at hproperty
    exact (h.met cls property hproperty).onward honward
  · rw [Bond.Equal, h.program]

lemma beside_declareUniform (h : Draft.Paired base setting.catalogue draft draft')
    (hmet : Draft.Met draft draft' property.type) :
    (bond base setting.catalogue).Beside Bond.Equal (declareUniform property)
      (declareUniform property) draft draft' := by
  refine (beside_valueName h hmet).bind fun name _ _ _ hrel _ hname => ?_
  exact Bond.beside_pure hrel (by rw [hname])

lemma beside_declareSampler (h : Draft.Paired base setting.catalogue draft draft')
    (hmet : Draft.Met draft draft' property.type) :
    (bond base setting.catalogue).Beside Bond.Equal (declareSampler property)
      (declareSampler property) draft draft' := by
  refine (beside_knownType h hmet).bind fun type type' _ _ hrel _ halike => ?_
  rw [halike.handleName_eq]
  refine Bond.beside_ite (fun _ => Bond.beside_throw _ hrel) fun _ => ?_
  refine (beside_bind property.name hrel).bind fun binding _ _ _ hrel _ hbinding => ?_
  exact Bond.beside_pure hrel (by rw [hbinding])

lemma beside_declareUniformBlock (h : Draft.Paired base setting.catalogue draft draft')
    (hmet : Draft.Met draft draft' property.type) :
    (bond base setting.catalogue).Beside Bond.Equal (declareUniformBlock property)
      (declareUniformBlock property) draft draft' := by
  refine (beside_knownType h hmet).bind fun type type' _ _ hrel _ halike => ?_
  refine (beside_bind property.name hrel).bind fun binding _ _ _ hrel _ hbinding => ?_
  exact Bond.beside_pure hrel (by rw [hbinding, halike.valueName_eq, halike.body_eq])

lemma beside_storageContent {type type' : GpuType}
    (h : Draft.Paired base setting.catalogue draft draft')
    (halike : type.Alike (Linked base draft.registry draft'.registry) type') :
    (bond base setting.catalogue).Beside Bond.Equal (storageContent property type)
      (storageContent property type') draft draft' := by
  rw [storageContent, storageContent, halike.valueName_eq, halike.body_eq]
  refine Bond.beside_ite (fun _ => Bond.beside_pure h rfl) fun _ => ?_
  have hflexible : type.bare.flexible = type'.bare.flexible := by rw [halike.bare]
  cases hsome : type.flexible with
  | none =>
      have hnone : type'.flexible = none := by simpa [GpuType.bare, hsome] using hflexible.symm
      rw [hnone]
      exact Bond.beside_pure h rfl
  | some flexible =>
      cases hsome' : type'.flexible with
      | none => simp [GpuType.bare, hsome, hsome'] at hflexible
      | some flexible' =>
          have hname : flexible.name = flexible'.name := by
            simp only [GpuType.bare, hsome, hsome', Option.map_some, Option.some_inj,
              FlexibleMember.mk.injEq] at hflexible
            exact hflexible.2.1
          have helement := (halike.element hsome hsome').alike h.grown h.grown'
          apply Bond.beside_get_bind
          rw [helement.valueName_eq, hname]
          refine Bond.beside_ite (fun _ => Bond.beside_throw _ h) fun _ => ?_
          exact Bond.beside_ite (fun _ => Bond.beside_pure h rfl) fun _ => Bond.beside_pure h rfl

lemma beside_declareStorageBlock {plans : List StagePlan}
    (h : Draft.Paired base setting.catalogue draft draft')
    (hmet : Draft.Met draft draft' property.type) :
    (bond base setting.catalogue).Beside Bond.Equal (declareStorageBlock plans property)
      (declareStorageBlock plans property) draft draft' := by
  refine (beside_knownType h hmet).bind fun type type' t t' hrel _ halike => ?_
  refine (beside_bind property.name hrel).bind fun binding _ u u' hrel' hgoes hbinding => ?_
  refine (beside_storageContent hrel' (halike.imp (linked_onward hrel hgoes))).bind
    fun content _ _ _ hrel _ hcontent => ?_
  exact Bond.beside_pure hrel (by rw [hbinding, hcontent])

lemma beside_declareInput {plan : StagePlan} {storage : StageStorage}
    (h : Draft.Paired base setting.catalogue draft draft')
    (hmet : Draft.Met draft draft' property.type) :
    (bond base setting.catalogue).Beside Bond.Equal (declareInput setting plan storage property)
      (declareInput setting plan storage property) draft draft' := by
  refine (beside_valueName h hmet).bind fun name _ _ _ hrel hgoes hname => ?_
  obtain rfl := hname
  have hflat : (bond base setting.catalogue).Beside Bond.Equal
      (do return Declaration.input (← isFlat property) name (storage.inMark ++ property.name))
      (do return Declaration.input (← isFlat property) name (storage.inMark ++ property.name))
      _ _ :=
    (beside_isFlat hrel (hmet.onward hgoes)).bind fun flat _ _ _ hrel _ hflat =>
      Bond.beside_pure hrel (by rw [hflat])
  cases plan.request.stage with
  | vertex => exact Bond.beside_pure hrel rfl
  | fragment => exact hflat
  | compute => exact hflat

lemma beside_declareOutput {plan : StagePlan}
    (h : Draft.Paired base setting.catalogue draft draft')
    (hmet : Draft.Met draft draft' property.type) :
    (bond base setting.catalogue).Beside Bond.Equal (declareOutput plan property)
      (declareOutput plan property) draft draft' := by
  refine (beside_valueName h hmet).bind fun name _ _ _ hrel hgoes hname => ?_
  obtain rfl := hname
  cases plan.request.stage with
  | vertex =>
      refine (beside_isFlat hrel (hmet.onward hgoes)).bind fun flat _ _ _ hrel _ hflat => ?_
      exact Bond.beside_pure hrel (by rw [hflat])
  | compute => exact Bond.beside_pure hrel rfl
  | fragment =>
      cases plan.desiredNames.findIdx? (· == property.name) with
      | none => exact Bond.beside_throw _ hrel
      | some location => exact Bond.beside_pure hrel rfl

lemma beside_declare {β : Type} {declare declare' : Property → Drafting β} {list : PropertyList}
    (h : Draft.Paired base setting.catalogue draft draft')
    (hmet : ∀ property ∈ list.entries, Draft.Met draft draft' property.type)
    (hdeclare : ∀ {property after after'}, Draft.Paired base setting.catalogue after after' →
      Draft.Met after after' property.type →
      (bond base setting.catalogue).Beside Bond.Equal (declare property) (declare' property)
        after after') :
    (bond base setting.catalogue).Beside Bond.Equal (list.entries.mapM declare)
      (list.entries.mapM declare') draft draft' :=
  Bond.beside_mapM_of_mem h fun property hproperty _ _ hrel hgoes =>
    hdeclare hrel ((hmet property hproperty).onward hgoes)

lemma mem_stageTypes_of_list {plan : StagePlan} {storage : StageStorage} {list : PropertyList}
    (hlist : list ∈ [plan.pipeline.pipethrough, storage.uniforms, storage.samplers,
      storage.uniformBlocks, storage.storageBlocks, storage.inputs, storage.outputs, storage.inner])
    (h : property ∈ list.entries) : property.type ∈ (stageTypes plan storage).order :=
  TypeSet.mem_insertAll.2 (Or.inr (List.mem_flatMap.2 ⟨list, hlist, List.mem_map_of_mem h⟩))

/-- Types stay collected while tasks leave the types of others where they are. -/
lemma mem_collected {tasks : List Task} {types : TypeSet} {type : HostType}
    (hkeeps : ∀ task ∈ tasks, task.KeepsTypes) (h : type ∈ types.order) :
    type ∈ (tasks.foldl (fun types task => task.collectTypes types) types).order := by
  induction tasks generalizing types with
  | nil => exact h
  | cons first rest ih =>
      exact ih (fun task htask => hkeeps task (List.mem_cons_of_mem _ htask))
        (hkeeps first List.mem_cons_self types type h)

lemma mem_stageTypes_of_task {plan : StagePlan} {storage : StageStorage} {task : Task}
    {type : HostType} (hkeeps : ∀ task ∈ plan.tasks, task.KeepsTypes) (htask : task ∈ plan.tasks)
    (h : task.Reports type) : type ∈ (stageTypes plan storage).order := by
  refine TypeSet.mem_insertAll.2 (Or.inl ?_)
  obtain ⟨before, after, htasks⟩ := List.append_of_mem htask
  rw [htasks, List.foldl_append, List.foldl_cons]
  refine mem_collected (fun other hother => hkeeps other ?_) (h _)
  rw [htasks]
  exact List.mem_append_right _ (List.mem_cons_of_mem _ hother)

/-- The declarations of a list that the stage mentions; the storages correspond as before. -/
lemma beside_declareList {β : Type} {declare declare' : Property → Drafting β} {plan : StagePlan}
    {storage storage' : StageStorage} {list : PropertyList}
    (h : Draft.Paired base setting.catalogue draft draft')
    (hstored : Draft.Stored base plan draft draft' storage storage')
    (hlist : list ∈ [plan.pipeline.pipethrough, storage.uniforms, storage.samplers,
      storage.uniformBlocks, storage.storageBlocks, storage.inputs, storage.outputs, storage.inner])
    (hdeclare : ∀ {property after after'}, Draft.Paired base setting.catalogue after after' →
      Draft.Met after after' property.type →
      (bond base setting.catalogue).Beside Bond.Equal (declare property) (declare' property)
        after after') :
    (bond base setting.catalogue).Beside
      (fun after after' declared declared' =>
        declared = declared' ∧ Draft.Stored base plan after after' storage storage')
      (list.entries.mapM declare) (list.entries.mapM declare') draft draft' := by
  have hmet : ∀ p ∈ list.entries, Draft.Met draft draft' p.type := fun p hp =>
    hstored.mentioned p.type (mem_stageTypes_of_list hlist hp)
  exact (beside_declare h hmet hdeclare).imp fun _ _ _ _ hgoes heq =>
    ⟨heq, Stored.onward hstored h hgoes⟩

lemma beside_declarations {plans : List StagePlan} {plan : StagePlan} {storage : StageStorage}
    {types' : List TypeKey} (h : Draft.Paired base setting.catalogue draft draft')
    (hstored : Draft.Stored base plan draft draft' storage { storage with types := types' }) :
    (bond base setting.catalogue).Beside
      (fun after after' declared declared' => declared = declared' ∧
        Draft.Stored base plan after after' storage { storage with types := types' })
      (declarations setting plans plan storage)
      (declarations setting plans plan { storage with types := types' }) draft draft' := by
  refine (beside_structDeclarations h hstored).bind fun structs _ _ _ hrel hgoes hstructs => ?_
  have hstored := Stored.onward hstored h hgoes
  refine (beside_declareList hrel hstored (by simp) beside_declareUniform).bind
    fun uniforms _ _ _ hrel _ hmade => ?_
  obtain ⟨rfl, hstored⟩ := hmade
  refine (beside_declareList hrel hstored (by simp) beside_declareSampler).bind
    fun samplers _ _ _ hrel _ hmade => ?_
  obtain ⟨rfl, hstored⟩ := hmade
  refine (beside_declareList hrel hstored (by simp) beside_declareUniformBlock).bind
    fun uniformBlocks _ _ _ hrel _ hmade => ?_
  obtain ⟨rfl, hstored⟩ := hmade
  refine (beside_declareList hrel hstored (by simp) beside_declareStorageBlock).bind
    fun storageBlocks _ _ _ hrel _ hmade => ?_
  obtain ⟨rfl, hstored⟩ := hmade
  refine (beside_declareList hrel hstored (by simp) beside_declareInput).bind
    fun inputs _ _ _ hrel _ hmade => ?_
  obtain ⟨rfl, hstored⟩ := hmade
  refine (beside_declareList hrel hstored (by simp) beside_declareOutput).bind
    fun outputs _ _ _ hrel _ hmade => ?_
  obtain ⟨rfl, hstored⟩ := hmade
  exact Bond.beside_pure hrel ⟨by rw [hstructs], hstored⟩

/-! ## Code and statements -/

lemma beside_ofEmit {α : Type} (code : Except EmitError α)
    (h : Draft.Paired base setting.catalogue draft draft') :
    (bond base setting.catalogue).Beside Bond.Equal (ofEmit code) (ofEmit code) draft draft' := by
  cases code with
  | error error => exact Bond.beside_throw _ h
  | ok a => exact Bond.beside_pure h rfl

/-- Both drafts have the same names for the types that a task reports and for those of the base. -/
lemma agree_of_stored {plan : StagePlan} {storage storage' : StageStorage} {task : Task}
    (h : Draft.Paired base setting.catalogue draft draft')
    (hstored : Draft.Stored base plan draft draft' storage storage')
    (hkeeps : ∀ task ∈ plan.tasks, task.KeepsTypes) (htask : task ∈ plan.tasks)
    (aliases : Aliases) :
    EmitContext.Agree (fun type => task.Reports type ∨ base.key? type ≠ none)
      ⟨draft.registry.typeNames, aliases⟩ ⟨draft'.registry.typeNames, aliases⟩ := by
  have hnames : ∀ {type}, task.Reports type ∨ base.key? type ≠ none →
      draft.registry.typeNames.value type = draft'.registry.typeNames.value type ∧
        draft.registry.typeNames.handle type = draft'.registry.typeNames.handle type := by
    intro type htype
    have hmet : Draft.Met draft draft' type := by
      rcases htype with htype | hbase
      · exact hstored.mentioned type (mem_stageTypes_of_task hkeeps htask htype)
      · exact Or.inr ⟨h.grown.extends_base.key?_ne_none hbase,
          h.grown'.extends_base.key?_ne_none hbase⟩
    rcases typeOf?_of_met h hmet with ⟨hnone, hnone'⟩ | ⟨gpuType, gpuType', htyped⟩
    · simp [typeNames, hnone, hnone']
    · have halike := htyped.alike h
      simp [typeNames, htyped.1, htyped.2, halike.valueName_eq, halike.handleName_eq]
  exact ⟨rfl, fun htype => (hnames htype).1, fun htype => (hnames htype).2⟩

lemma beside_declareInner {storage : StageStorage}
    (h : Draft.Paired base setting.catalogue draft draft')
    (hmet : Draft.Met draft draft' property.type) :
    (bond base setting.catalogue).Beside Bond.Equal (declareInner storage property)
      (declareInner storage property) draft draft' := by
  refine (beside_valueName h hmet).bind fun name _ _ _ hrel _ hname => ?_
  exact Bond.beside_pure hrel (by rw [hname])

lemma beside_declareCopy {plan : StagePlan} (h : Draft.Paired base setting.catalogue draft draft')
    (hmet : Draft.Met draft draft' property.type) :
    (bond base setting.catalogue).Beside Bond.Equal (declareCopy plan property)
      (declareCopy plan property) draft draft' := by
  refine (beside_valueName h hmet).bind fun name _ _ _ hrel _ hname => ?_
  exact Bond.beside_pure hrel (by rw [hname])

/-- The source of a stage is the same in both drafts. -/
lemma beside_generateStage {plans : List StagePlan} {plan : StagePlan} {storage : StageStorage}
    {types' : List TypeKey} (h : Draft.Paired base setting.catalogue draft draft')
    (htasks : ∀ task ∈ plan.tasks, task.SelfContained base)
    (hstored : Draft.Stored base plan draft draft' storage { storage with types := types' }) :
    (bond base setting.catalogue).Beside Bond.Equal (generateStage setting plans plan storage)
      (generateStage setting plans plan { storage with types := types' }) draft draft' := by
  refine (beside_declarations h hstored).bind fun declared _ t t' hrel _ hmade => ?_
  obtain ⟨rfl, hstored⟩ := hmade
  apply Bond.beside_get_bind
  have hcode : ∀ task ∈ plan.tasks,
      task.declaration ⟨t.registry.typeNames, storage.aliases⟩ =
          task.declaration ⟨t'.registry.typeNames, storage.aliases⟩ ∧
        task.usage ⟨t.registry.typeNames, storage.aliases⟩ =
          task.usage ⟨t'.registry.typeNames, storage.aliases⟩ := fun task htask =>
    (htasks task htask).code _ _ (agree_of_stored hrel hstored
      (fun other hother => (htasks other hother).keeps) htask storage.aliases)
  refine (Bond.beside_mapM_of_mem hrel fun task htask _ _ hrel _ => ?_).bind
    fun preamble _ t₁ t₁' hrel₁ hgoes₁ hpreamble => ?_
  · rw [(hcode task htask).1]
    exact beside_ofEmit _ hrel
  have hstored := Stored.onward hstored hrel hgoes₁
  refine (beside_declareList hrel₁ hstored (by simp) beside_declareInner).bind
    fun inner _ t₂ t₂' hrel₂ hgoes₂ hmade => ?_
  obtain ⟨rfl, hstored⟩ := hmade
  refine (beside_declare hrel₂ hstored.innerCopies beside_declareCopy).bind
    fun copies _ t₃ t₃' hrel₃ _ hcopies => ?_
  refine (Bond.beside_mapM_of_mem hrel₃ fun task htask _ _ hrel _ => ?_).bind
    fun usages _ _ _ hrel _ husages => ?_
  · rw [(hcode task htask).2]
    exact beside_ofEmit _ hrel
  · exact Bond.beside_pure hrel (by rw [hpreamble, hcopies, husages]; rfl)

lemma beside_dumpStage (plan : StagePlan) (source : StageSource)
    (h : Draft.Paired base setting.catalogue draft draft') :
    (bond base setting.catalogue).Beside Bond.Equal (dumpStage setting plan source)
      (dumpStage setting plan source) draft draft' :=
  Bond.beside_ite (fun _ => beside_modify h rfl rfl h.program h.met) fun _ => Bond.beside_pure h rfl

lemma beside_writeStage {plans : List StagePlan} {stage stage' : StagePlan × StageStorage}
    (h : Draft.Paired base setting.catalogue draft draft') (hplan : stage.1 = stage'.1)
    (htasks : ∀ task ∈ stage.1.tasks, task.SelfContained base)
    (hstored : Draft.Stored base stage.1 draft draft' stage.2 stage'.2) :
    (bond base setting.catalogue).Beside Bond.Equal (writeStage setting plans stage)
      (writeStage setting plans stage') draft draft' := by
  obtain ⟨plan, storage⟩ := stage
  obtain ⟨plan', storage'⟩ := stage'
  obtain rfl : plan = plan' := hplan
  obtain ⟨types', rfl⟩ : ∃ types', storage' = { storage with types := types' } := ⟨_, hstored.eq⟩
  refine (beside_generateStage h htasks hstored).bind fun source _ _ _ hrel _ hsource => ?_
  obtain rfl := hsource
  refine (beside_dumpStage plan source hrel).bind fun _ _ _ _ hrel _ _ => ?_
  exact Bond.beside_pure hrel rfl

/-! ## Blueprints -/

lemma beside_ofExcept {α : Type} (x : Except SpecificationError α)
    (h : Draft.Paired base setting.catalogue draft draft') :
    (bond base setting.catalogue).Beside (fun _ _ a a' => a = a' ∧ x = .ok a) (ofExcept x)
      (ofExcept x) draft draft' := by
  cases x with
  | error error => exact Bond.beside_throw _ h
  | ok a => exact Bond.beside_pure h ⟨rfl, rfl⟩

lemma beside_planStage {request : StageRequest} {wanted : PropertyList}
    (h : Draft.Paired base setting.catalogue draft draft')
    (htasks : setting.resolver.SelfContained base) :
    (bond base setting.catalogue).Beside
      (fun _ _ plan plan' => plan = plan' ∧ ∀ task ∈ plan.tasks, task.SelfContained base)
      (planStage setting.resolver request wanted) (planStage setting.resolver request wanted)
      draft draft' := by
  rw [planStage]
  cases setting.resolver.resolve request.stage (request.desired wanted) request.aliases with
  | error error => exact Bond.beside_throw _ h
  | ok found =>
      obtain ⟨pipeline, events⟩ := found
      refine (beside_report h events).bind fun _ _ _ _ hrel _ _ => ?_
      refine (beside_ofExcept _ hrel).bind fun pipeline _ _ _ hrel _ hpipeline => ?_
      obtain ⟨rfl, -⟩ := hpipeline
      refine (beside_ofExcept _ hrel).bind fun tasks _ _ _ hrel _ hfound => ?_
      obtain ⟨rfl, hfound⟩ := hfound
      refine Bond.beside_pure hrel ⟨rfl, fun task htask => ?_⟩
      have hmem : some task ∈ pipeline.items.map setting.resolver.task? := by
        rw [Pipeline.map_tasks hfound]
        exact List.mem_map_of_mem htask
      obtain ⟨key, -, hkey⟩ := List.mem_map.1 hmem
      exact htasks.task hkey

lemma beside_planBackwards {requests : List StageRequest} {wanted : PropertyList}
    (h : Draft.Paired base setting.catalogue draft draft')
    (htasks : setting.resolver.SelfContained base) :
    (bond base setting.catalogue).Beside
      (fun _ _ plans plans' => plans = plans' ∧ ∀ plan ∈ plans, ∀ task ∈ plan.tasks,
        task.SelfContained base)
      (planBackwards setting.resolver wanted requests)
      (planBackwards setting.resolver wanted requests) draft draft' := by
  induction requests generalizing wanted draft draft' with
  | nil => exact Bond.beside_pure h ⟨rfl, by simp⟩
  | cons request earlier ih =>
      refine (beside_planStage h htasks).bind fun plan _ _ _ hrel _ hplan => ?_
      obtain ⟨rfl, hplan⟩ := hplan
      refine (ih hrel).bind fun plans _ _ _ hrel _ hplans => ?_
      obtain ⟨rfl, hplans⟩ := hplans
      refine Bond.beside_pure hrel ⟨rfl, fun other hother => ?_⟩
      rcases List.mem_append.1 hother with hother | hother
      · exact hplans other hother
      · rw [List.mem_singleton.1 hother]
        exact hplan

/-- The limits are kept in both drafts, or the same one is broken in both. -/
lemma checkLimits_eq {info : DeviceInfo} {plans : List StagePlan}
    (h : Draft.Paired base setting.catalogue draft draft') :
    checkLimits info plans draft.program draft.registry =
      checkLimits info plans draft'.program draft'.registry := by
  -- Only the sizes of uniform blocks are looked up in the registry.
  rw [checkLimits, checkLimits, ← h.program]
  refine congrArg (_ >>= ·) (funext fun _ => congrArg (_ >>= ·) (funext fun _ => ?_))
  refine congrArg (· >>= _) (Outcome.forM_congr fun property hproperty => ?_)
  rcases typeOf?_of_met h (h.met .uniformBlock property hproperty) with
    ⟨hnone, hnone'⟩ | ⟨type, type', htyped⟩
  · rw [hnone, hnone']
  · rw [htyped.1, htyped.2]
    dsimp only
    rw [(htyped.alike h).layout_eq]

/-- **Blueprints do not depend on the history of the registry.** -/
theorem beside_blueprint (info : DeviceInfo) (requests : List StageRequest) (desired : PropertyList)
    (h : Draft.Paired base setting.catalogue draft draft')
    (htasks : setting.resolver.SelfContained base) :
    (bond base setting.catalogue).Beside (fun _ _ => Blueprint.Matches)
      (blueprint setting info requests desired) (blueprint setting info requests desired)
      draft draft' := by
  refine (beside_modify h rfl rfl rfl ?_).bind fun _ _ _ _ hrel _ _ => ?_
  · intro cls property hproperty
    cases cls <;> simp [ProgramStorage.list] at hproperty
  refine (beside_planBackwards hrel htasks).bind fun plans _ _ _ hrel _ hplans => ?_
  obtain ⟨rfl, hplans⟩ := hplans
  refine (Bond.beside_forM hrel fun plan _ _ _ hrel _ => ?_).bind fun _ _ _ _ hrel _ _ => ?_
  · exact (beside_ofExcept _ hrel).imp fun _ _ _ _ _ hchecked => hchecked.1
  refine (beside_assignStages none plans hrel).bind fun storages storages' t t' hrel _ hstages => ?_
  refine (Bond.beside_mapM hrel ?_).bind fun sources _ u u' hrel _ hsources => ?_
  · obtain ⟨hlength, hzip⟩ := List.forall₂_iff_zip.1 hstages
    refine List.forall₂_iff_zip.2 ⟨hlength, fun {stage stage'} hmem _ _ hrel' hgoes => ?_⟩
    have hplan : stage.1 ∈ plans := (List.of_mem_zip (List.of_mem_zip hmem).1).1
    exact beside_writeStage hrel' (hzip hmem).1 (hplans stage.1 hplan)
      (Stored.onward (hzip hmem).2 hrel hgoes)
  apply Bond.beside_get_bind
  rw [checkLimits_eq hrel]
  refine (beside_ofExcept _ hrel).bind fun _ _ _ _ hrel' _ _ => ?_
  exact Bond.beside_pure hrel' ⟨rfl, hsources, hrel.program⟩

end Drafting

end ShaderWeave
