import ShaderWeave.Program.Plan
import ShaderWeave.Proofs.Classes

/-!
# Plans of stages

A plan of a stage is a resolved pipeline with its tasks; a compute stage may get some inputs more,
which count its invocations.  What resolution says about keys and classes is said here about the
plan.

* `Pipeline.Widened` — **all that counting invocations does:** inputs are added whose names no class
  held before.
* `StagePlan.Resolved` — a plan whose pipeline was found in a collection and widened.
  `StagePlan.resolved_of_planStage` gets it from a successful planning.
* `StagePlan.Resolved.disjoint`, `StagePlan.Resolved.mem_class_iff` — no name is in two classes, and
  all classes but the inputs hold what belongs in them.
* `StagePlan.Resolved.ready` — the order of the tasks.
-/

namespace ShaderWeave

lemma PropertyClass.mem_all (cls : PropertyClass) : cls ∈ PropertyClass.all := by
  cases cls <;> decide

namespace Pipeline

variable {pipeline pipeline' pipeline'' : Pipeline} {aliases : Aliases} {name : String}

/-- No name is in two classes. -/
def Disjoint (pipeline : Pipeline) : Prop :=
  ∀ ⦃name : String⦄ ⦃cls cls' : PropertyClass⦄, name ∈ (pipeline.list cls).names →
    name ∈ (pipeline.list cls').names → cls = cls'

lemma Disjoint.not_mem (h : pipeline.Disjoint) (cls cls' : PropertyClass) (hne : cls ≠ cls')
    (hname : name ∈ (pipeline.list cls).names) : name ∉ (pipeline.list cls').names :=
  fun hname' => hne (h hname hname')

/-- Nothing changed but that inputs were added.  Their names are choices, and no class held them. -/
structure Widened (aliases : Aliases) (pipeline pipeline' : Pipeline) : Prop where
  items : pipeline'.items = pipeline.items
  others : ∀ cls, cls ≠ .input → pipeline'.list cls = pipeline.list cls
  kept : ∀ p ∈ pipeline.input.entries, p ∈ pipeline'.input.entries
  added : ∀ p ∈ pipeline'.input.entries, p ∈ pipeline.input.entries ∨
    (∀ cls, p.name ∉ (pipeline.list cls).names) ∧ ∃ name, p.name = aliases.choice name

namespace Widened

lemma refl (aliases : Aliases) (pipeline : Pipeline) : Widened aliases pipeline pipeline :=
  ⟨rfl, fun _ _ => rfl, fun _ hp => hp, fun _ hp => Or.inl hp⟩

/-- Every class keeps its names. -/
lemma names_subset (h : Widened aliases pipeline pipeline') (cls : PropertyClass) :
    (pipeline.list cls).names ⊆ (pipeline'.list cls).names := by
  intro name hname
  by_cases hcls : cls = .input
  · subst hcls
    obtain ⟨p, hp, rfl⟩ := PropertyList.mem_names.1 hname
    exact PropertyList.name_mem_names (h.kept p hp)
  · rw [h.others cls hcls]
    exact hname

lemma trans (h : Widened aliases pipeline pipeline') (h' : Widened aliases pipeline' pipeline'') :
    Widened aliases pipeline pipeline'' where
  items := h'.items.trans h.items
  others := fun cls hcls => (h'.others cls hcls).trans (h.others cls hcls)
  kept := fun p hp => h'.kept p (h.kept p hp)
  added := by
    intro p hp
    rcases h'.added p hp with hp | ⟨hnew, hchoice⟩
    · exact h.added p hp
    · exact Or.inr ⟨fun cls hcls => hnew cls (h.names_subset cls hcls), hchoice⟩

lemma disjoint (h : Widened aliases pipeline pipeline') (hdisjoint : pipeline.Disjoint) :
    pipeline'.Disjoint := by
  -- A name of the wider pipeline is in its class already, or it is new and in the inputs only.
  have hold : ∀ name cls, name ∈ (pipeline'.list cls).names →
      name ∈ (pipeline.list cls).names ∨
        cls = .input ∧ ∀ cls', name ∉ (pipeline.list cls').names := by
    intro name cls hname
    by_cases hcls : cls = .input
    · subst hcls
      obtain ⟨p, hp, rfl⟩ := PropertyList.mem_names.1 hname
      rcases h.added p hp with hp | ⟨hnew, -⟩
      · exact Or.inl (PropertyList.name_mem_names hp)
      · exact Or.inr ⟨rfl, hnew⟩
    · exact Or.inl (h.others cls hcls ▸ hname)
  intro name cls cls' hname hname'
  rcases hold name cls hname with hin | ⟨rfl, hnew⟩
  · rcases hold name cls' hname' with hin' | ⟨-, hnew⟩
    · exact hdisjoint hin hin'
    · exact absurd hin (hnew cls)
  · rcases hold name cls' hname' with hin' | ⟨rfl, -⟩
    · exact absurd hin' (hnew cls')
    · rfl

end Widened

lemma knows_iff : pipeline.knows name = true ↔ ∃ cls, name ∈ (pipeline.list cls).names := by
  simp only [knows, List.any_eq_true, PropertyList.contains_iff]
  constructor
  · rintro ⟨cls, -, hname⟩
    exact ⟨cls, hname⟩
  · rintro ⟨cls, hname⟩
    exact ⟨cls, cls.mem_all, hname⟩

lemma widened_addCount {count : InvocationCount}
    (h : pipeline.addCount aliases count = .ok pipeline') :
    Widened aliases pipeline pipeline' := by
  cases count with
  | fixed n =>
      obtain rfl := Except.ok.inj h
      exact Widened.refl aliases pipeline
  | property property =>
      simp only [addCount] at h
      split_ifs at h with hproduced hknown
      · obtain rfl := Except.ok.inj h
        exact Widened.refl aliases pipeline
      · obtain rfl := Except.ok.inj h
        refine ⟨rfl, ?_, ?_, ?_⟩
        · intro cls hcls
          cases cls <;> first | rfl | exact absurd rfl hcls
        · intro p hp
          rcases PropertyList.entries_insert pipeline.input (aliases.chosen property) with heq | heq
          · exact heq ▸ hp
          · exact heq ▸ List.mem_append_left _ hp
        · intro p hp
          rcases PropertyList.mem_entries_of_insert hp with hp | rfl
          · exact Or.inl hp
          · refine Or.inr ⟨?_, property.name, rfl⟩
            intro cls hcls
            exact hknown (knows_iff.2 ⟨cls, hcls⟩)

lemma widened_addCounts {request : StageRequest} (h : pipeline.addCounts request = .ok pipeline') :
    Widened request.aliases pipeline pipeline' := by
  rw [addCounts] at h
  cases hguarded : request.guarded? with
  | none =>
      rw [hguarded] at h
      obtain rfl := Except.ok.inj h
      exact Widened.refl _ pipeline
  | some dispatch =>
      rw [hguarded] at h
      refine (Outcome.steps_of_foldlM h).invariant
        (P := fun _ current => Widened request.aliases pipeline current) ?_ (Widened.refl _ pipeline)
      intro done count current current' _ hwidened hok
      exact hwidened.trans (widened_addCount hok)

/-- Every task of a pipeline is the one its resolver knows under the key. -/
lemma map_tasks {resolver : Resolver} {tasks : List Task} (h : pipeline.tasks resolver = .ok tasks) :
    pipeline.items.map resolver.task? = tasks.map some := by
  rw [Pipeline.tasks] at h
  generalize pipeline.items = items at h ⊢
  induction items generalizing tasks with
  | nil =>
      obtain rfl := Except.ok.inj h
      rfl
  | cons key items ih =>
      rw [List.mapM_cons] at h
      obtain ⟨task, htask, h⟩ := Outcome.of_bind h
      obtain ⟨rest, hrest, h⟩ := Outcome.of_bind h
      obtain rfl := Except.ok.inj h
      rw [List.map_cons, List.map_cons, ih hrest]
      cases hkey : resolver.task? key with
      | none => rw [hkey] at htask; exact absurd htask (by rintro ⟨⟩)
      | some found =>
          rw [hkey] at htask
          rw [Except.ok.inj htask]

end Pipeline

namespace StagePlan

variable {collection : TaskCollection} {plan : StagePlan} {found : Pipeline} {name : String}
  {access : Access} {task : Task} {property : Property} {cls : PropertyClass}

/-- Some task of the plan touches a name in a given way. -/
def Touched (plan : StagePlan) (access : Access) (name : String) : Prop :=
  ∃ task ∈ plan.tasks, task.Touches plan.request.aliases access name

instance (plan : StagePlan) (access : Access) (name : String) :
    Decidable (plan.Touched access name) :=
  inferInstanceAs (Decidable (∃ task ∈ plan.tasks, task.Touches plan.request.aliases access name))

/-- All properties a stage was told of: those it was asked for, and those its tasks list. -/
def specs (plan : StagePlan) : List Property :=
  plan.desired.entries ++ plan.tasks.flatMap fun task => task.lists.all

/-- **A plan made from a collection:** `found` is the pipeline that was resolved for what the stage was
asked for. -/
structure Resolved (plan : StagePlan) (collection : TaskCollection) (found : Pipeline) : Prop where
  resolved : collection.resolve plan.request.stage plan.desired plan.request.aliases = .ok found
  widened : found.Widened plan.request.aliases plan.pipeline
  tasks : plan.pipeline.items.map collection.task? = plan.tasks.map some

lemma ofExcept_ok {α : Type} {x : Except SpecificationError α} {a : α} {draft draft' : Draft}
    (h : Drafting.ofExcept x draft = .ok a draft') : x = .ok a := by
  cases x with
  | error error => exact absurd h (by rintro ⟨⟩)
  | ok b =>
      obtain ⟨rfl, -⟩ := Outcome.pure_ok h
      rfl

/-- **What a successful planning did:** a pipeline was found, and the counts of the stage were added
to it. -/
lemma found_of_planStage {resolver : Resolver} {request : StageRequest} {wanted : PropertyList}
    {draft draft' : Draft}
    (h : Drafting.planStage resolver request wanted draft = .ok plan draft') :
    plan.request = request ∧ plan.desired = request.desired wanted ∧
      plan.pipeline.tasks resolver = .ok plan.tasks ∧ ∃ found events,
        resolver.resolve request.stage (request.desired wanted) request.aliases
          = .ok (found, events) ∧ found.addCounts request = .ok plan.pipeline := by
  unfold Drafting.planStage at h
  cases hresolve : resolver.resolve request.stage (request.desired wanted) request.aliases with
  | error error => rw [hresolve] at h; exact absurd h (by rintro ⟨⟩)
  | ok outcome =>
      obtain ⟨found, events⟩ := outcome
      simp only [hresolve] at h
      obtain ⟨-, draft₁, -, h⟩ := Outcome.bind_ok h
      obtain ⟨pipeline, draft₂, hcounts, h⟩ := Outcome.bind_ok h
      obtain ⟨tasks, draft₃, htasks, h⟩ := Outcome.bind_ok h
      obtain ⟨rfl, -⟩ := Outcome.pure_ok h
      exact ⟨rfl, rfl, ofExcept_ok htasks, found, events, rfl, ofExcept_ok hcounts⟩

/-- A successful planning gives a plan made from the collection. -/
lemma resolved_of_planStage {request : StageRequest} {wanted : PropertyList} {draft draft' : Draft}
    (h : Drafting.planStage collection.resolver request wanted draft = .ok plan draft') :
    plan.request = request ∧ ∃ found, plan.Resolved collection found := by
  obtain ⟨rfl, hdesired, htasks, found, events, hresolve, hcounts⟩ := found_of_planStage h
  obtain ⟨found', hfound, heq⟩ := Outcome.of_map hresolve
  obtain rfl : found' = found := congrArg Prod.fst heq
  exact ⟨rfl, found', hdesired ▸ hfound, Pipeline.widened_addCounts hcounts,
    Pipeline.map_tasks htasks⟩

lemma mem_all_iff {lists : TaskLists} :
    property ∈ lists.all ↔ ∃ access, property ∈ (lists.under access).entries := by
  simp only [TaskLists.all, List.mem_append]
  constructor
  · rintro (((h | h) | h) | h)
    exacts [⟨.reads, h⟩, ⟨.writes, h⟩, ⟨.filters, h⟩, ⟨.consumes, h⟩]
  · rintro ⟨access, h⟩
    cases access with
    | reads => exact Or.inl (Or.inl (Or.inl h))
    | consumes => exact Or.inr h
    | filters => exact Or.inl (Or.inr h)
    | writes => exact Or.inl (Or.inl (Or.inr h))

lemma mem_specs_of_task (access : Access) (htask : task ∈ plan.tasks)
    (hproperty : property ∈ (task.lists.under access).entries) : property ∈ plan.specs :=
  List.mem_append_right _ (List.mem_flatMap.2 ⟨task, htask, mem_all_iff.2 ⟨access, hproperty⟩⟩)

namespace Resolved

/-- The task at a place of the plan is the one behind the key at that place of the schedule. -/
lemma getElem?_items (h : plan.Resolved collection found) {i : Nat} (htask : plan.tasks[i]? = some task) :
    ∃ key, found.items[i]? = some key ∧ collection.task? key = some task := by
  have hplace := congrArg (·[i]?) h.tasks
  simp only [List.getElem?_map, htask, Option.map_some, h.widened.items] at hplace
  obtain ⟨key, hkey, heq⟩ := Option.map_eq_some_iff.1 hplace
  exact ⟨key, hkey, heq⟩

lemma getElem?_tasks (h : plan.Resolved collection found) {i : Nat} {key : TaskKey}
    (hkey : found.items[i]? = some key) (htask : collection.task? key = some task) :
    plan.tasks[i]? = some task := by
  have hplace := congrArg (·[i]?) h.tasks
  simp only [List.getElem?_map, h.widened.items, hkey, Option.map_some, htask] at hplace
  obtain ⟨found, hfound, heq⟩ := Option.map_eq_some_iff.1 hplace.symm
  rw [hfound, Option.some.inj heq]

lemma touched_iff (h : plan.Resolved collection found) :
    collection.Touched plan.request.aliases found.items access name ↔ plan.Touched access name := by
  constructor
  · rintro ⟨key, hkey, task, htask, htouch⟩
    obtain ⟨i, hi⟩ := List.mem_iff_getElem?.1 hkey
    exact ⟨task, List.mem_of_getElem? (h.getElem?_tasks hi htask), htouch⟩
  · rintro ⟨task, htask, htouch⟩
    obtain ⟨i, hi⟩ := List.mem_iff_getElem?.1 htask
    obtain ⟨key, hkey, heq⟩ := h.getElem?_items hi
    exact ⟨key, List.mem_of_getElem? hkey, task, heq, htouch⟩

lemma disjoint (h : plan.Resolved collection found) : plan.pipeline.Disjoint := by
  refine h.widened.disjoint ?_
  intro name cls cls' hname hname'
  rw [TaskCollection.mem_class_iff h.resolved] at hname hname'
  exact hname.unique hname'

lemma mem_class_iff (h : plan.Resolved collection found) (hcls : cls ≠ .input) :
    name ∈ (plan.pipeline.list cls).names ↔
      collection.Belongs plan.request.aliases plan.desired found.items name cls := by
  rw [h.widened.others cls hcls, TaskCollection.mem_class_iff h.resolved]

/-! ### What the tasks do to a class -/

/-- What a task writes is an output or stays inside. -/
lemma output_or_inner (h : plan.Resolved collection found) (hwritten : plan.Touched .writes name) :
    name ∈ plan.pipeline.output.names ∨ name ∈ plan.pipeline.inner.names := by
  have htouched := h.touched_iff.2 hwritten
  by_cases hdesired : TaskCollection.Desired plan.request.aliases plan.desired name
  · exact Or.inl ((h.mem_class_iff (by decide : PropertyClass.output ≠ .input)).2
      ⟨htouched, hdesired⟩)
  · exact Or.inr ((h.mem_class_iff (by decide : PropertyClass.inner ≠ .input)).2
      ⟨htouched, hdesired⟩)

lemma written_of_output (h : plan.Resolved collection found)
    (hname : name ∈ plan.pipeline.output.names) : plan.Touched .writes name :=
  h.touched_iff.1 ((h.mem_class_iff (by decide : PropertyClass.output ≠ .input)).1 hname).1

lemma written_of_inner (h : plan.Resolved collection found)
    (hname : name ∈ plan.pipeline.inner.names) : plan.Touched .writes name :=
  h.touched_iff.1 ((h.mem_class_iff (by decide : PropertyClass.inner ≠ .input)).1 hname).1

/-- No task writes what comes from outside. -/
lemma not_written (h : plan.Resolved collection found) (cls : PropertyClass)
    (hname : name ∈ (plan.pipeline.list cls).names) (houtput : cls ≠ .output)
    (hinner : cls ≠ .inner) : ¬ plan.Touched .writes name := by
  intro hwritten
  rcases h.output_or_inner hwritten with hmem | hmem
  · exact houtput (h.disjoint hname hmem)
  · exact hinner (h.disjoint hname hmem)

/-- No task changes what is only handed through. -/
lemma not_filtered (h : plan.Resolved collection found)
    (hname : name ∈ plan.pipeline.pipethrough.names) : ¬ plan.Touched .filters name := by
  rw [← h.touched_iff]
  exact ((h.mem_class_iff (by decide : PropertyClass.pipethrough ≠ .input)).1 hname).2.2.1

/-- No task uses up what is only changed or handed through. -/
lemma not_consumed (h : plan.Resolved collection found)
    (hname : name ∈ plan.pipeline.filter.names ∨ name ∈ plan.pipeline.pipethrough.names) :
    ¬ plan.Touched .consumes name := by
  rw [← h.touched_iff]
  rcases hname with hname | hname
  · exact ((h.mem_class_iff (by decide : PropertyClass.filter ≠ .input)).1 hname).2.1
  · exact ((h.mem_class_iff (by decide : PropertyClass.pipethrough ≠ .input)).1 hname).2.1

/-- **The order of the tasks.**  What a task reads, consumes or filters was written by a task before
it, or is written by none. -/
lemma ready (h : plan.Resolved collection found) {done rest : List Task}
    (hsplit : plan.tasks = done ++ task :: rest) (haccess : access ≠ .writes)
    (htouch : task.Touches plan.request.aliases access name) :
    (∃ earlier ∈ done, earlier.Touches plan.request.aliases .writes name) ∨
      ¬ plan.Touched .writes name := by
  have hschedule := TaskCollection.schedule_items h.resolved
  have hplace : plan.tasks[done.length]? = some task := by
    rw [hsplit, List.getElem?_append_right (Nat.le_refl _), Nat.sub_self]
    rfl
  obtain ⟨key, hkey, htask⟩ := h.getElem?_items hplace
  rcases hschedule.ready done.length key task access name hkey htask haccess htouch with
    ⟨j, key', earlier, hlt, hkey', hearlier, hwrites⟩ | hnone
  · refine Or.inl ⟨earlier, ?_, hwrites⟩
    have hat := h.getElem?_tasks hkey' hearlier
    rw [hsplit, List.getElem?_append_left hlt] at hat
    exact List.mem_of_getElem? hat
  · exact Or.inr fun hwritten => hnone (hschedule.offers (h.touched_iff.2 hwritten))

/-! ### Where the properties of a class come from -/

/-- Every name a stage was told of is in a class. -/
lemma exists_class (h : plan.Resolved collection found) (hspec : property ∈ plan.specs) :
    ∃ cls, plan.request.aliases.choice property.name ∈ (found.list cls).names := by
  have hoccurs : collection.Occurs plan.request.aliases plan.desired found.items
      (plan.request.aliases.choice property.name) := by
    rcases List.mem_append.1 hspec with hdesired | hlisted
    · exact Or.inl ⟨property, hdesired, rfl⟩
    · obtain ⟨task, htask, hproperty⟩ := List.mem_flatMap.1 hlisted
      obtain ⟨access, haccess⟩ := mem_all_iff.1 hproperty
      exact Or.inr ⟨access, h.touched_iff.2 ⟨task, htask, property, haccess, rfl⟩⟩
  obtain ⟨cls, hcls⟩ := TaskCollection.exists_belongs_iff.2 hoccurs
  exact ⟨cls, (TaskCollection.mem_class_iff h.resolved cls _).2 hcls⟩

/-- A property in a class that was found is one the stage was told of, under the name chosen for
it. -/
lemma spec_of_mem_found (h : plan.Resolved collection found) (cls : PropertyClass)
    (hproperty : property ∈ (found.list cls).entries) :
    ∃ spec ∈ plan.specs, plan.request.aliases.chosen spec = property := by
  rcases TaskCollection.asked_of_mem_class h.resolved hproperty with
    hwanted | ⟨key, hkey, task, htask, access, spec, hspec, heq⟩
  · obtain ⟨spec, hspec, heq⟩ := List.mem_map.1 hwanted
    exact ⟨spec, List.mem_append_left _ hspec, heq⟩
  · obtain ⟨i, hi⟩ := List.mem_iff_getElem?.1 hkey
    have hat := List.mem_of_getElem? (h.getElem?_tasks hi htask)
    exact ⟨spec, mem_specs_of_task access hat hspec, heq⟩

/-- A property in a class of the plan is such a one, or it counts invocations and the stage was told
of no property of its name. -/
lemma spec_of_mem_class (h : plan.Resolved collection found)
    (hproperty : property ∈ (plan.pipeline.list cls).entries) :
    (∃ spec ∈ plan.specs, plan.request.aliases.chosen spec = property) ∨
      (∃ name, property.name = plan.request.aliases.choice name) ∧
        ∀ spec ∈ plan.specs, plan.request.aliases.choice spec.name ≠ property.name := by
  by_cases hcls : cls = .input
  · subst hcls
    rcases h.widened.added property hproperty with hmem | ⟨hnew, hchoice⟩
    · exact Or.inl (h.spec_of_mem_found .input hmem)
    · refine Or.inr ⟨hchoice, ?_⟩
      intro spec hspec heq
      obtain ⟨cls, hcls⟩ := h.exists_class hspec
      exact hnew cls (heq ▸ hcls)
  · rw [h.widened.others cls hcls] at hproperty
    exact Or.inl (h.spec_of_mem_found cls hproperty)

/-- Every name in a class is the choice for some name. -/
lemma choice_of_mem_class (h : plan.Resolved collection found)
    (hname : name ∈ (plan.pipeline.list cls).names) :
    ∃ own, name = plan.request.aliases.choice own := by
  obtain ⟨property, hproperty, rfl⟩ := PropertyList.mem_names.1 hname
  rcases h.spec_of_mem_class hproperty with ⟨spec, -, heq⟩ | ⟨hchoice, -⟩
  · exact ⟨spec.name, (congrArg Property.name heq).symm⟩
  · exact hchoice

end Resolved

end StagePlan

end ShaderWeave
