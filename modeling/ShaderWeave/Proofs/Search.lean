import ShaderWeave.Pipeline.Graph
import ShaderWeave.Proofs.Collections

/-!
# What a search keeps

`TaskCollection.need` and `TaskCollection.run` call each other on one `Search`, which they grow
until every desired property is there.  This file says once what a search keeps on the way, and
derives it for every successful call.

**Touching.**  A task touches a name in one of four ways (`Access`), always under the name chosen
for it: `Task.Touches` for one task, `TaskCollection.Touched` for some task among given keys.

**The invariant.**  `Search.Sound` has two sorts of bounds.  *Lower* bounds speak of the tasks that
have run: whatever they touch has been dealt with (`Search.Meets`).  *Upper* bounds explain every
name in a class by a task that has run **or still waits for its needs**, because a task reclassifies
its inputs before it joins the schedule.  When nothing waits the two meet.

**Growth.**  `Search.Grows`: what a search has dealt with stays dealt with, whichever of its early
returns a call takes.
-/

namespace ShaderWeave

/-! ## Touching -/

/-- The list through which a task touches properties in a given way. -/
def TaskLists.under (lists : TaskLists) : Access → PropertyList
  | .reads => lists.inputs
  | .consumes => lists.consuming
  | .filters => lists.filters
  | .writes => lists.outputs

/-- A task touches a name in a given way, after alias choice. -/
def Task.Touches (task : Task) (aliases : Aliases) (access : Access) (name : String) : Prop :=
  ∃ p ∈ (task.lists.under access).entries, aliases.choice p.name = name

instance (task : Task) (aliases : Aliases) (access : Access) (name : String) :
    Decidable (task.Touches aliases access name) :=
  inferInstanceAs
    (Decidable (∃ p ∈ (task.lists.under access).entries, aliases.choice p.name = name))

namespace TaskCollection

variable (collection : TaskCollection) (stage : Stage) (aliases : Aliases)

/-- Some task among the keys touches a name in a given way. -/
def Touched (keys : List TaskKey) (access : Access) (name : String) : Prop :=
  ∃ key ∈ keys, ∃ task, collection.task? key = some task ∧ task.Touches aliases access name

/-- Some task registered for the stage outputs a name. -/
def Offers (name : String) : Prop :=
  ∃ entry ∈ collection.entries, stage ∈ entry.stages ∧ entry.task.Touches aliases .writes name

/-- A property is asked for: it is wanted of the stage, or some task among the keys lists it. -/
def Asked (wanted : List Property) (keys : List TaskKey) (property : Property) : Prop :=
  property ∈ wanted ∨ ∃ key ∈ keys, ∃ task, collection.task? key = some task ∧
    ∃ access, ∃ p ∈ (task.lists.under access).entries, aliases.chosen p = property

/-- **A schedule of a stage:** tasks of the stage, each at most once, and whatever the task at a
position reads, consumes or filters is output by a task before that position, or by no task of the
stage at all. -/
structure Schedule (items : List TaskKey) : Prop where
  nodup : items.Nodup
  registered : ∀ key ∈ items, ∃ entry ∈ collection.entries, entry.key = key ∧ stage ∈ entry.stages
  ready : ∀ (i : Nat) (key : TaskKey) (task : Task) (access : Access) (name : String),
    items[i]? = some key → collection.task? key = some task → access ≠ .writes →
    task.Touches aliases access name →
      (∃ j key' task', j < i ∧ items[j]? = some key' ∧ collection.task? key' = some task' ∧
        task'.Touches aliases .writes name) ∨ ¬ collection.Offers stage aliases name

variable {collection stage aliases} {keys keys' items : List TaskKey} {access : Access}
  {name : String}

lemma Touched.mono (hkeys : keys ⊆ keys') (h : collection.Touched aliases keys access name) :
    collection.Touched aliases keys' access name := by
  obtain ⟨key, hkey, rest⟩ := h
  exact ⟨key, hkeys hkey, rest⟩

lemma Asked.mono {wanted : List Property} {p : Property} (hkeys : keys ⊆ keys')
    (h : collection.Asked aliases wanted keys p) : collection.Asked aliases wanted keys' p := by
  rcases h with h | ⟨key, hkey, rest⟩
  · exact Or.inl h
  · exact Or.inr ⟨key, hkeys hkey, rest⟩

lemma touched_append : collection.Touched aliases (keys ++ keys') access name ↔
    collection.Touched aliases keys access name ∨ collection.Touched aliases keys' access name := by
  simp only [Touched, List.mem_append, or_and_right, exists_or]

lemma touched_singleton {entry : TaskEntry} (h : entry ∈ collection.entries) :
    collection.Touched aliases [entry.key] access name ↔
      entry.task.Touches aliases access name := by
  simp only [Touched, List.mem_singleton, exists_eq_left, task?_key h, Option.some.injEq,
    exists_eq_left']

/-- What a task of the schedule outputs, some task of the stage outputs. -/
lemma Schedule.offers (h : collection.Schedule stage aliases items)
    (hname : collection.Touched aliases items .writes name) :
    collection.Offers stage aliases name := by
  obtain ⟨key, hkey, task, htask, htouch⟩ := hname
  obtain ⟨entry, hentry, rfl, hstage⟩ := h.registered key hkey
  rw [task?_key hentry, Option.some.injEq] at htask
  exact ⟨entry, hentry, hstage, htask ▸ htouch⟩

/-- The producer of a name is the first task of the stage that outputs it, so there is none exactly
when no task does. -/
lemma producer?_eq_none :
    collection.producer? stage aliases name = none ↔ ¬ collection.Offers stage aliases name := by
  simp only [producer?, List.find?_eq_none, Bool.and_eq_true, decide_eq_true_eq, List.any_eq_true,
    PropertyList.mem_names, beq_iff_eq, Offers, Task.Touches, TaskLists.under]
  constructor
  · rintro h ⟨entry, hentry, hstage, p, hp, hname⟩
    exact h entry hentry ⟨hstage, p.name, ⟨p, hp, rfl⟩, hname⟩
  · rintro h entry hentry ⟨hstage, _, ⟨p, hp, rfl⟩, hname⟩
    exact h ⟨entry, hentry, hstage, p, hp, hname⟩

lemma producer?_eq_some {entry : TaskEntry}
    (h : collection.producer? stage aliases name = some entry) :
    entry ∈ collection.entries ∧ stage ∈ entry.stages ∧
      entry.task.Touches aliases .writes name := by
  have hmem := List.mem_of_find?_eq_some h
  have hfound := List.find?_some h
  simp only [Bool.and_eq_true, decide_eq_true_eq, List.any_eq_true, PropertyList.mem_names,
    beq_iff_eq] at hfound
  obtain ⟨hstage, _, ⟨p, hp, rfl⟩, hname⟩ := hfound
  exact ⟨hmem, hstage, p, hp, hname⟩

end TaskCollection

namespace Search

/-! ## Growth -/

/-- What a search has done about a name that a task touches: a name is there if it is produced or
known to come from outside; consumed or changed, it has left the classes below. -/
def Meets (search : Search) : Access → String → Prop
  | .reads, name => search.produces name = true ∨ search.external name = true
  | .consumes, name => search.produces name = true ∨ name ∈ search.pipeline.consuming.names
  | .filters, name => search.produces name = true ∨ name ∈ search.pipeline.filter.names ∨
      name ∈ search.pipeline.consuming.names
  | .writes, name => search.produces name = true

/-- What a search has dealt with stays dealt with. -/
structure Grows (search search' : Search) : Prop where
  items : search.pipeline.items ⊆ search'.pipeline.items
  meets : ∀ access name, search.Meets access name → search'.Meets access name

variable {search search' search'' : Search} {name other : String} {property : Property}

lemma Grows.refl (search : Search) : Grows search search :=
  ⟨List.Subset.refl _, fun _ _ h => h⟩

lemma Grows.trans (h : Grows search search') (h' : Grows search' search'') :
    Grows search search'' :=
  ⟨List.Subset.trans h.items h'.items, fun access name hmet =>
    h'.meets access name (h.meets access name hmet)⟩

lemma external_iff : search.external name = true ↔ name ∈ search.pipeline.input.names ∨
    name ∈ search.pipeline.filter.names ∨ name ∈ search.pipeline.consuming.names := by
  simp only [external, Bool.or_eq_true, PropertyList.contains_iff, or_assoc]

/-- However a name is touched, it is there once it has been dealt with. -/
lemma Meets.reads {access : Access} (h : search.Meets access name) :
    search.Meets .reads name := by
  cases access with
  | reads => exact h
  | consumes =>
      rcases h with h | h
      · exact Or.inl h
      · exact Or.inr (external_iff.2 (Or.inr (Or.inr h)))
  | filters =>
      rcases h with h | h
      · exact Or.inl h
      · exact Or.inr (external_iff.2 (Or.inr h))
  | writes => exact Or.inl h

/-- The property is in a class or among the produced ones. -/
def Holds (search : Search) (property : Property) : Prop :=
  property ∈ search.pipeline.input.entries ∨ property ∈ search.pipeline.filter.entries ∨
    property ∈ search.pipeline.consuming.entries ∨ property ∈ search.produced

/-! ## Reclassifying an input

Each of `consume` and `modify` is opened once, in a lemma that says all it can do; what it means for
the classes is read off there. -/

lemma consume_cases (search : Search) (name : String) :
    (∃ p ∈ search.pipeline.input.entries, p.name = name ∧
      search.consume name = { search with pipeline := { search.pipeline with
        input := search.pipeline.input.erase name
        consuming := search.pipeline.consuming.insert p } }) ∨
    (name ∉ search.pipeline.input.names ∧ ∃ p ∈ search.pipeline.filter.entries, p.name = name ∧
      search.consume name = { search with pipeline := { search.pipeline with
        filter := search.pipeline.filter.erase name
        consuming := search.pipeline.consuming.insert p } }) ∨
    (name ∉ search.pipeline.input.names ∧ name ∉ search.pipeline.filter.names ∧
      search.consume name = search) := by
  cases hinput : search.pipeline.input.get? name with
  | some p =>
      obtain ⟨hp, hname⟩ := PropertyList.get?_eq_some hinput
      exact Or.inl ⟨p, hp, hname, by simp only [consume, hinput]⟩
  | none =>
      have hnot := PropertyList.get?_eq_none.1 hinput
      cases hfilter : search.pipeline.filter.get? name with
      | some p =>
          obtain ⟨hp, hname⟩ := PropertyList.get?_eq_some hfilter
          exact Or.inr (Or.inl ⟨hnot, p, hp, hname, by simp only [consume, hinput, hfilter]⟩)
      | none =>
          have hnot' := PropertyList.get?_eq_none.1 hfilter
          exact Or.inr (Or.inr ⟨hnot, hnot', by simp only [consume, hinput, hfilter]⟩)

lemma modify_cases (search : Search) (name : String) :
    (∃ p ∈ search.pipeline.input.entries, p.name = name ∧
      search.modify name = { search with pipeline := { search.pipeline with
        input := search.pipeline.input.erase name
        filter := search.pipeline.filter.insert p } }) ∨
    (name ∉ search.pipeline.input.names ∧ search.modify name = search) := by
  cases hinput : search.pipeline.input.get? name with
  | some p =>
      obtain ⟨hp, hname⟩ := PropertyList.get?_eq_some hinput
      exact Or.inl ⟨p, hp, hname, by simp only [modify, hinput]⟩
  | none =>
      exact Or.inr ⟨PropertyList.get?_eq_none.1 hinput, by simp only [modify, hinput]⟩

/-- A search that differs from another in its three outer classes only. -/
structure Reclassified (search search' : Search) : Prop where
  produced : search'.produced = search.produced
  items : search'.pipeline.items = search.pipeline.items
  pipethrough : search'.pipeline.pipethrough = search.pipeline.pipethrough
  output : search'.pipeline.output = search.pipeline.output
  inner : search'.pipeline.inner = search.pipeline.inner
  holds : ∀ property, search'.Holds property → search.Holds property

lemma reclassified_consume (search : Search) (name : String) :
    Reclassified search (search.consume name) := by
  rcases consume_cases search name with ⟨p, hp, -, heq⟩ | ⟨-, p, hp, -, heq⟩ | ⟨-, -, heq⟩
  · rw [heq]
    refine ⟨rfl, rfl, rfl, rfl, rfl, ?_⟩
    rintro q (hq | hq | hq | hq)
    · exact Or.inl (PropertyList.mem_entries_erase.1 hq).1
    · exact Or.inr (Or.inl hq)
    · rcases PropertyList.mem_entries_of_insert hq with hq | rfl
      · exact Or.inr (Or.inr (Or.inl hq))
      · exact Or.inl hp
    · exact Or.inr (Or.inr (Or.inr hq))
  · rw [heq]
    refine ⟨rfl, rfl, rfl, rfl, rfl, ?_⟩
    rintro q (hq | hq | hq | hq)
    · exact Or.inl hq
    · exact Or.inr (Or.inl (PropertyList.mem_entries_erase.1 hq).1)
    · rcases PropertyList.mem_entries_of_insert hq with hq | rfl
      · exact Or.inr (Or.inr (Or.inl hq))
      · exact Or.inr (Or.inl hp)
    · exact Or.inr (Or.inr (Or.inr hq))
  · rw [heq]
    exact ⟨rfl, rfl, rfl, rfl, rfl, fun _ h => h⟩

lemma reclassified_modify (search : Search) (name : String) :
    Reclassified search (search.modify name) := by
  rcases modify_cases search name with ⟨p, hp, -, heq⟩ | ⟨-, heq⟩
  · rw [heq]
    refine ⟨rfl, rfl, rfl, rfl, rfl, ?_⟩
    rintro q (hq | hq | hq)
    · exact Or.inl (PropertyList.mem_entries_erase.1 hq).1
    · rcases PropertyList.mem_entries_of_insert hq with hq | rfl
      · exact Or.inr (Or.inl hq)
      · exact Or.inl hp
    · exact Or.inr (Or.inr hq)
  · rw [heq]
    exact ⟨rfl, rfl, rfl, rfl, rfl, fun _ h => h⟩

lemma mem_consume_input : other ∈ (search.consume name).pipeline.input.names ↔
    other ∈ search.pipeline.input.names ∧ other ≠ name := by
  rcases consume_cases search name with ⟨p, -, -, heq⟩ | ⟨hnot, p, -, -, heq⟩ | ⟨hnot, -, heq⟩
  · simp [heq]
  · rw [heq]
    exact ⟨fun h => ⟨h, fun hname => hnot (hname ▸ h)⟩, And.left⟩
  · rw [heq]
    exact ⟨fun h => ⟨h, fun hname => hnot (hname ▸ h)⟩, And.left⟩

lemma mem_consume_filter
    (hdisjoint : ∀ n ∈ search.pipeline.input.names, n ∉ search.pipeline.filter.names) :
    other ∈ (search.consume name).pipeline.filter.names ↔
      other ∈ search.pipeline.filter.names ∧ other ≠ name := by
  rcases consume_cases search name with ⟨p, hp, rfl, heq⟩ | ⟨-, p, -, -, heq⟩ | ⟨-, hnot, heq⟩
  · rw [heq]
    have hnot := hdisjoint _ (PropertyList.name_mem_names hp)
    exact ⟨fun h => ⟨h, fun hname => hnot (hname ▸ h)⟩, And.left⟩
  · simp [heq]
  · rw [heq]
    exact ⟨fun h => ⟨h, fun hname => hnot (hname ▸ h)⟩, And.left⟩

lemma mem_consume_consuming : other ∈ (search.consume name).pipeline.consuming.names ↔
    other ∈ search.pipeline.consuming.names ∨ other = name ∧
      (name ∈ search.pipeline.input.names ∨ name ∈ search.pipeline.filter.names) := by
  rcases consume_cases search name with ⟨p, hp, rfl, heq⟩ | ⟨-, p, hp, rfl, heq⟩ | ⟨h, h', heq⟩
  · simp [heq, PropertyList.name_mem_names hp]
  · simp [heq, PropertyList.name_mem_names hp]
  · simp [heq, h, h']

lemma mem_modify_input : other ∈ (search.modify name).pipeline.input.names ↔
    other ∈ search.pipeline.input.names ∧ other ≠ name := by
  rcases modify_cases search name with ⟨p, -, -, heq⟩ | ⟨hnot, heq⟩
  · simp [heq]
  · rw [heq]
    exact ⟨fun h => ⟨h, fun hname => hnot (hname ▸ h)⟩, And.left⟩

lemma mem_modify_filter : other ∈ (search.modify name).pipeline.filter.names ↔
    other ∈ search.pipeline.filter.names ∨ other = name ∧ name ∈ search.pipeline.input.names := by
  rcases modify_cases search name with ⟨p, hp, rfl, heq⟩ | ⟨hnot, heq⟩
  · simp [heq, PropertyList.name_mem_names hp]
  · simp [heq, hnot]

lemma modify_consuming : (search.modify name).pipeline.consuming = search.pipeline.consuming := by
  rcases modify_cases search name with ⟨p, -, -, heq⟩ | ⟨-, heq⟩ <;> rw [heq]

lemma external_consume
    (hdisjoint : ∀ n ∈ search.pipeline.input.names, n ∉ search.pipeline.filter.names) :
    (search.consume name).external other = true ↔ search.external other = true := by
  rw [external_iff, external_iff, mem_consume_input, mem_consume_filter hdisjoint,
    mem_consume_consuming]
  by_cases h : other = name
  · subst h
    tauto
  · tauto

lemma external_modify :
    (search.modify name).external other = true ↔ search.external other = true := by
  rw [external_iff, external_iff, mem_modify_input, mem_modify_filter, modify_consuming]
  by_cases h : other = name
  · subst h
    tauto
  · tauto

/-- Taking a property from outside loses nothing. -/
lemma grows_enter : Grows search { search with pipeline := { search.pipeline with
    input := search.pipeline.input.insert property } } := by
  refine ⟨List.Subset.refl _, ?_⟩
  intro access name h
  cases access with
  | reads =>
      refine h.imp_right fun hext => external_iff.2 ?_
      exact (external_iff.1 hext).imp_left fun hin => PropertyList.mem_names_insert.2 (Or.inl hin)
  | consumes => exact h
  | filters => exact h
  | writes => exact h

lemma produces_congr (h : search'.produced = search.produced) :
    search'.produces name = search.produces name := by
  unfold produces
  rw [h]

lemma grows_consume (name : String)
    (hdisjoint : ∀ n ∈ search.pipeline.input.names, n ∉ search.pipeline.filter.names) :
    Grows search (search.consume name) := by
  have hframe := reclassified_consume search name
  refine ⟨by rw [hframe.items]; exact List.Subset.refl _, ?_⟩
  intro access other h
  cases access with
  | reads =>
      simp only [Meets, produces_congr hframe.produced, external_consume hdisjoint] at h ⊢
      exact h
  | consumes =>
      simp only [Meets, produces_congr hframe.produced, mem_consume_consuming] at h ⊢
      tauto
  | filters =>
      simp only [Meets, produces_congr hframe.produced, mem_consume_consuming,
        mem_consume_filter hdisjoint] at h ⊢
      by_cases hname : other = name
      · subst hname
        tauto
      · tauto
  | writes =>
      simp only [Meets, produces_congr hframe.produced] at h ⊢
      exact h

lemma grows_modify : Grows search (search.modify name) := by
  have hframe := reclassified_modify search name
  refine ⟨by rw [hframe.items]; exact List.Subset.refl _, ?_⟩
  intro access other h
  cases access with
  | reads =>
      simp only [Meets, produces_congr hframe.produced, external_modify] at h ⊢
      exact h
  | consumes =>
      simp only [Meets, produces_congr hframe.produced, modify_consuming] at h ⊢
      exact h
  | filters =>
      simp only [Meets, produces_congr hframe.produced, modify_consuming,
        mem_modify_filter] at h ⊢
      tauto
  | writes =>
      simp only [Meets, produces_congr hframe.produced] at h ⊢
      exact h

/-- Consuming deals with a name that is there. -/
lemma meets_consume (h : search.Meets .reads name) : (search.consume name).Meets .consumes name := by
  simp only [Meets, produces_congr (reclassified_consume search name).produced,
    mem_consume_consuming, external_iff] at h ⊢
  tauto

/-- Changing deals with a name that is there. -/
lemma meets_modify (h : search.Meets .reads name) : (search.modify name).Meets .filters name := by
  simp only [Meets, produces_congr (reclassified_modify search name).produced, modify_consuming,
    mem_modify_filter, external_iff] at h ⊢
  tauto

/-! ## Finishing a task -/

lemma produce_pipeline (search : Search) (property : Property) :
    (search.produce property).pipeline = search.pipeline := by
  unfold produce
  split <;> rfl

lemma produces_iff : search.produces name = true ↔ ∃ p ∈ search.produced, p.name = name := by
  simp [produces]

lemma produces_produce : (search.produce property).produces name = true ↔
    search.produces name = true ∨ property.name = name := by
  unfold produce
  split
  · next h =>
      obtain ⟨q, hq, hqname⟩ := produces_iff.1 h
      simp only [produces_iff, List.mem_map]
      constructor
      · rintro ⟨_, ⟨p, hp, rfl⟩, rfl⟩
        split_ifs with hname
        · exact Or.inr rfl
        · exact Or.inl ⟨p, hp, rfl⟩
      · rintro (⟨p, hp, rfl⟩ | rfl)
        · refine ⟨_, ⟨p, hp, rfl⟩, ?_⟩
          split_ifs with hname
          · exact hname.symm
          · rfl
        · exact ⟨_, ⟨q, hq, rfl⟩, by rw [if_pos hqname]⟩
  · simp [produces_iff, or_and_right, exists_or]

lemma mem_produced_of_produce {p : Property} (h : p ∈ (search.produce property).produced) :
    p ∈ search.produced ∨ p = property := by
  unfold produce at h
  split at h
  · obtain ⟨q, hq, rfl⟩ := List.mem_map.1 h
    split_ifs with hname
    · exact Or.inr rfl
    · exact Or.inl hq
  · simpa using h

lemma foldl_produce_pipeline (properties : List Property) (search : Search) :
    (properties.foldl produce search).pipeline = search.pipeline := by
  induction properties generalizing search with
  | nil => rfl
  | cons p rest ih => rw [List.foldl_cons, ih, produce_pipeline]

lemma produces_foldl_produce (properties : List Property) (search : Search) :
    (properties.foldl produce search).produces name = true ↔
      search.produces name = true ∨ ∃ p ∈ properties, p.name = name := by
  induction properties generalizing search with
  | nil => simp
  | cons p rest ih =>
      rw [List.foldl_cons, ih, produces_produce]
      simp only [List.mem_cons, exists_eq_or_imp, or_assoc]

lemma mem_produced_of_foldl_produce (properties : List Property) {search : Search} {p : Property}
    (h : p ∈ (properties.foldl produce search).produced) :
    p ∈ search.produced ∨ p ∈ properties := by
  induction properties generalizing search with
  | nil => exact Or.inl h
  | cons q rest ih =>
      rcases ih h with h | h
      · rcases mem_produced_of_produce h with h | rfl
        · exact Or.inl h
        · exact Or.inr List.mem_cons_self
      · exact Or.inr (List.mem_cons_of_mem _ h)

variable {aliases : Aliases} {entry : TaskEntry}

lemma finish_pipeline : (search.finish aliases entry.key entry.task).pipeline
    = { search.pipeline with items := search.pipeline.items ++ [entry.key] } := by
  unfold finish
  rw [foldl_produce_pipeline]

lemma produces_finish : (search.finish aliases entry.key entry.task).produces name = true ↔
    search.produces name = true ∨ entry.task.Touches aliases .writes name := by
  unfold finish
  rw [produces_foldl_produce]
  simp only [List.mem_map, exists_exists_and_eq_and]
  rfl

lemma mem_produced_of_finish {p : Property}
    (h : p ∈ (search.finish aliases entry.key entry.task).produced) :
    p ∈ search.produced ∨ ∃ q ∈ (entry.task.lists.under .writes).entries, aliases.chosen q = p := by
  unfold finish at h
  rcases mem_produced_of_foldl_produce _ h with h | h
  · exact Or.inl h
  · exact Or.inr (List.mem_map.1 h)

lemma external_finish :
    (search.finish aliases entry.key entry.task).external name = search.external name := by
  unfold external
  rw [finish_pipeline]

lemma grows_finish : Grows search (search.finish aliases entry.key entry.task) := by
  refine ⟨by rw [finish_pipeline]; exact List.subset_append_left _ _, ?_⟩
  intro access name h
  cases access with
  | reads =>
      simp only [Meets, produces_finish, external_finish] at h ⊢
      tauto
  | consumes =>
      simp only [Meets, produces_finish, finish_pipeline] at h ⊢
      tauto
  | filters =>
      simp only [Meets, produces_finish, finish_pipeline] at h ⊢
      tauto
  | writes =>
      simp only [Meets, produces_finish] at h ⊢
      tauto

/-! ## Delivering the desired properties -/

/-- What the delivery of some properties does: a produced one becomes an output, and one that is
still an input is handed through. -/
structure Delivered (properties : List Property) (search search' : Search) : Prop where
  produced : search'.produced = search.produced
  items : search'.pipeline.items = search.pipeline.items
  filter : search'.pipeline.filter = search.pipeline.filter
  consuming : search'.pipeline.consuming = search.pipeline.consuming
  inner : search'.pipeline.inner = search.pipeline.inner
  output : ∀ name, name ∈ search'.pipeline.output.names ↔ name ∈ search.pipeline.output.names ∨
    search.produces name = true ∧ ∃ p ∈ properties, p.name = name
  input : ∀ name, name ∈ search'.pipeline.input.names ↔ name ∈ search.pipeline.input.names ∧
    (search.produces name = true ∨ ∀ p ∈ properties, p.name ≠ name)
  pipethrough : ∀ name, name ∈ search'.pipeline.pipethrough.names ↔
    name ∈ search.pipeline.pipethrough.names ∨ name ∈ search.pipeline.input.names ∧
      ¬ search.produces name = true ∧ ∃ p ∈ properties, p.name = name
  output_entries : ∀ p ∈ search'.pipeline.output.entries,
    p ∈ search.pipeline.output.entries ∨ p ∈ properties
  input_entries : ∀ p ∈ search'.pipeline.input.entries, p ∈ search.pipeline.input.entries
  pipethrough_entries : ∀ p ∈ search'.pipeline.pipethrough.entries,
    p ∈ search.pipeline.pipethrough.entries ∨ p ∈ search.pipeline.input.entries

lemma Delivered.nil (search : Search) : Delivered [] search search :=
  ⟨rfl, rfl, rfl, rfl, rfl, by simp, by simp, by simp, fun _ => Or.inl, fun _ h => h, fun _ => Or.inl⟩

lemma delivered_produced (hproduced : search.produces property.name = true) :
    Delivered [property] search (search.deliver property) := by
  have heq : search.deliver property = { search with pipeline := { search.pipeline with
      output := search.pipeline.output.insert property } } := by
    simp only [deliver, hproduced, if_true]
  rw [heq]
  refine ⟨rfl, rfl, rfl, rfl, rfl, ?_, ?_, ?_, ?_, ?_, ?_⟩
  · intro name
    simp only [PropertyList.mem_names_insert, List.mem_singleton, exists_eq_left]
    constructor
    · rintro (h | rfl)
      · exact Or.inl h
      · exact Or.inr ⟨hproduced, rfl⟩
    · rintro (h | ⟨-, rfl⟩)
      · exact Or.inl h
      · exact Or.inr rfl
  · intro name
    simp only [List.mem_singleton, forall_eq, iff_self_and]
    intro _
    by_cases hname : property.name = name
    · exact Or.inl (hname ▸ hproduced)
    · exact Or.inr hname
  · intro name
    simp only [List.mem_singleton, exists_eq_left, iff_self_or]
    rintro ⟨-, hnot, rfl⟩
    exact absurd hproduced hnot
  · intro p hp
    exact (PropertyList.mem_entries_of_insert hp).imp_right List.mem_singleton.2
  · exact fun p hp => hp
  · exact fun p hp => Or.inl hp

lemma delivered_input {input : Property} (hproduced : ¬ search.produces property.name = true)
    (hinput : search.pipeline.input.get? property.name = some input) :
    Delivered [property] search (search.deliver property) := by
  obtain ⟨hmem, hname⟩ := PropertyList.get?_eq_some hinput
  have heq : search.deliver property = { search with pipeline := { search.pipeline with
      input := search.pipeline.input.erase property.name
      pipethrough := search.pipeline.pipethrough.insert input } } := by
    simp only [deliver, hproduced, hinput]
    simp
  rw [heq]
  refine ⟨rfl, rfl, rfl, rfl, rfl, ?_, ?_, ?_, ?_, ?_, ?_⟩
  · intro name
    simp only [List.mem_singleton, exists_eq_left, iff_self_or]
    rintro ⟨hprod, rfl⟩
    exact absurd hprod hproduced
  · intro name
    simp only [PropertyList.mem_names_erase, List.mem_singleton, forall_eq]
    constructor
    · rintro ⟨h, hne⟩
      exact ⟨h, Or.inr (Ne.symm hne)⟩
    · rintro ⟨h, hprod | hne⟩
      · exact ⟨h, fun heq => hproduced (heq ▸ hprod)⟩
      · exact ⟨h, Ne.symm hne⟩
  · intro name
    simp only [PropertyList.mem_names_insert, List.mem_singleton, exists_eq_left, hname]
    constructor
    · rintro (h | rfl)
      · exact Or.inl h
      · exact Or.inr ⟨hname ▸ PropertyList.name_mem_names hmem, hproduced, rfl⟩
    · rintro (h | ⟨-, -, rfl⟩)
      · exact Or.inl h
      · exact Or.inr rfl
  · exact fun p hp => Or.inl hp
  · exact fun p hp => (PropertyList.mem_entries_erase.1 hp).1
  · intro p hp
    rcases PropertyList.mem_entries_of_insert hp with hp | rfl
    · exact Or.inl hp
    · exact Or.inr hmem

/-- A property that is consumed or changed stays where it is. -/
lemma delivered_other (hproduced : ¬ search.produces property.name = true)
    (hinput : search.pipeline.input.get? property.name = none) :
    Delivered [property] search (search.deliver property) := by
  have hnot := PropertyList.get?_eq_none.1 hinput
  have heq : search.deliver property = search := by
    simp only [deliver, hproduced, hinput]
    simp
  rw [heq]
  refine ⟨rfl, rfl, rfl, rfl, rfl, ?_, ?_, ?_, ?_, ?_, ?_⟩
  · intro name
    simp only [List.mem_singleton, exists_eq_left, iff_self_or]
    rintro ⟨hprod, rfl⟩
    exact absurd hprod hproduced
  · intro name
    simp only [List.mem_singleton, forall_eq, iff_self_and]
    exact fun h => Or.inr fun heq => hnot (heq ▸ h)
  · intro name
    simp only [List.mem_singleton, exists_eq_left, iff_self_or]
    rintro ⟨hin, -, rfl⟩
    exact absurd hin hnot
  · exact fun p hp => Or.inl hp
  · exact fun p hp => hp
  · exact fun p hp => Or.inl hp

lemma delivered_deliver (search : Search) (property : Property) :
    Delivered [property] search (search.deliver property) := by
  by_cases hproduced : search.produces property.name = true
  · exact delivered_produced hproduced
  · cases hinput : search.pipeline.input.get? property.name with
    | some input => exact delivered_input hproduced hinput
    | none => exact delivered_other hproduced hinput

lemma Delivered.cons {rest : List Property} (h : Delivered [property] search search')
    (h' : Delivered rest search' search'') : Delivered (property :: rest) search search'' := by
  have hproduces : ∀ name, search'.produces name = search.produces name := fun _ =>
    produces_congr h.produced
  refine ⟨h'.produced.trans h.produced, h'.items.trans h.items, h'.filter.trans h.filter,
    h'.consuming.trans h.consuming, h'.inner.trans h.inner, ?_, ?_, ?_, ?_, ?_, ?_⟩
  · intro name
    rw [h'.output, h.output, hproduces]
    simp only [List.mem_cons, List.not_mem_nil, or_false, exists_eq_left, exists_eq_or_imp]
    tauto
  · intro name
    rw [h'.input, h.input, hproduces]
    simp only [List.mem_cons, List.not_mem_nil, or_false, forall_eq, forall_eq_or_imp]
    tauto
  · intro name
    rw [h'.pipethrough, h.pipethrough, h.input, hproduces]
    simp only [List.mem_cons, List.not_mem_nil, or_false, exists_eq_left, exists_eq_or_imp,
      forall_eq]
    tauto
  · intro p hp
    rcases h'.output_entries p hp with hp | hp
    · exact (h.output_entries p hp).imp_right fun hp => List.mem_cons.2 (Or.inl (by simpa using hp))
    · exact Or.inr (List.mem_cons_of_mem _ hp)
  · exact fun p hp => h.input_entries p (h'.input_entries p hp)
  · intro p hp
    rcases h'.pipethrough_entries p hp with hp | hp
    · exact h.pipethrough_entries p hp
    · exact Or.inr (h.input_entries p hp)

lemma delivered_foldl (properties : List Property) (search : Search) :
    Delivered properties search (properties.foldl deliver search) := by
  induction properties generalizing search with
  | nil => exact Delivered.nil search
  | cons p rest ih => exact (delivered_deliver search p).cons (ih _)

end Search

end ShaderWeave
