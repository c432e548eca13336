import ShaderWeave.Pipeline.Store
import ShaderWeave.Proofs.Registration

/-!
# Stores keep in step

A `TaskStore` has its tasks, stages and order in three places, and a `TaskCollection` has them in one.
**Whatever is registered and taken out, the three places agree,** and a search over them goes as a
search over the collection.

* `TaskCollection.apart` — the collection as a store.
* `TaskStore.after_eq` — a history leads to the same store as to the collection, taken apart.  One
  change more is `TaskCollection.apart_change`.
* `TaskStore.inStep_after` — what that says of the three places.
* `TaskCollection.resolve_apart` — **the two searches agree,** so no key leads nowhere.
-/

namespace ShaderWeave

/-! ## Errors of another kind -/

namespace Outcome

variable {ε ε' α β γ : Type} (convert : ε → ε')

lemma mapError_bind (x : Except ε α) (f : α → Except ε β) :
    (x >>= f).mapError convert = x.mapError convert >>= fun a => (f a).mapError convert := by
  cases x <;> rfl

lemma mapError_foldlM {step : β → γ → Except ε β} {step' : β → γ → Except ε' β}
    (h : ∀ b c, step' b c = (step b c).mapError convert) (list : List γ) (b : β) :
    list.foldlM step' b = (list.foldlM step b).mapError convert := by
  induction list generalizing b with
  | nil => rfl
  | cons c list ih =>
      rw [List.foldlM_cons, List.foldlM_cons, mapError_bind, h]
      exact congrArg _ (funext ih)

end Outcome

/-! ## A collection taken apart -/

namespace TaskStore

/-- The store after a change. -/
def change (store : TaskStore) : TaskCollection.Change → TaskStore
  | .register task stages => store.register task stages
  | .remove key => store.remove key

/-- The store that a history leads to. -/
def after (history : List TaskCollection.Change) : TaskStore := history.foldl change empty

end TaskStore

namespace TaskCollection

variable {collection : TaskCollection} {entry : TaskEntry}

/-- The collection with its tasks, stages and order apart. -/
def apart (collection : TaskCollection) : TaskStore where
  tasks :=
    { entries := collection.entries.map fun entry => (entry.key, entry.task)
      freed := collection.freed }
  stages := ⟨collection.entries.map fun entry => (entry.key, entry.stages)⟩
  order := collection.entries.map (·.key)

lemma task?_apart (key : TaskKey) : collection.apart.task? key = collection.task? key := by
  simp only [TaskStore.task?, SlotMap.get?, apart, List.find?_map, Option.map_map, task?, entry?]
  rfl

lemma stages_apart (key : TaskKey) :
    collection.apart.stages.get? key = (collection.entry? key).map (·.stages) := by
  simp only [SideMap.get?, apart, List.find?_map, Option.map_map, entry?]
  rfl

lemma nextKey_apart : collection.apart.tasks.nextKey = collection.nextKey := by
  rw [SlotMap.nextKey, nextKey]
  cases hfreed : collection.freed <;> simp only [apart, hfreed, List.length_map]

/-- The next key is for a slot that is not in use. -/
lemma slot_ne_nextKey (h : entry ∈ collection.entries) :
    entry.key.slot ≠ collection.nextKey.slot := by
  have hslot : entry.key.slot ∈ collection.entries.map (·.key.slot) := List.mem_map_of_mem h
  rw [nextKey]
  cases hfreed : collection.freed with
  | nil =>
      have hle := collection.bounded _ (List.mem_append_left _ hslot)
      rw [hfreed, List.length_nil] at hle
      exact Nat.ne_of_lt (Nat.lt_succ_of_le hle)
  | cons key rest =>
      have hnodup := (List.nodup_append.1 collection.nodup).2.2
      rw [hfreed] at hnodup
      exact hnodup _ hslot _ List.mem_cons_self

lemma apart_register (task : Task) (stages : List Stage) :
    (collection.register task stages).apart = collection.apart.register task stages := by
  have hnewer : (collection.apart.stages.entries.any fun entry =>
      entry.1.slot == collection.nextKey.slot && collection.nextKey.version < entry.1.version)
        = false := by
    simp only [apart, List.any_map, List.any_eq_false]
    intro entry hentry
    simp [slot_ne_nextKey hentry]
  have hkept : collection.apart.stages.entries.filter (·.1.slot != collection.nextKey.slot) =
      collection.apart.stages.entries := by
    refine List.filter_eq_self.2 fun pair hpair => ?_
    obtain ⟨entry, hentry, rfl⟩ := List.mem_map.1 hpair
    exact bne_iff_ne.2 (slot_ne_nextKey hentry)
  rw [TaskStore.register, nextKey_apart, SlotMap.insert, nextKey_apart, SideMap.insert, hnewer, hkept,
    apart, entries_register, freed_register]
  simp [apart]

lemma apart_remove (key : TaskKey) :
    (collection.remove key).apart = collection.apart.remove key := by
  rw [TaskStore.remove, SlotMap.remove, ← TaskStore.task?, task?_apart, SideMap.remove]
  simp only [apart, entries_remove, freed_remove, List.filter_map]
  rfl

lemma apart_change (change : Change) :
    (collection.change change).apart = collection.apart.change change := by
  cases change with
  | register task stages => exact apart_register task stages
  | remove key => exact apart_remove key

end TaskCollection

namespace TaskStore

/-- **A history leads to the collection, taken apart.** -/
lemma after_eq (history : List TaskCollection.Change) :
    after history = (TaskCollection.after history).apart := by
  induction history using List.reverseRecOn with
  | nil => rfl
  | append_singleton history last ih =>
      rw [TaskCollection.after_snoc, TaskCollection.apart_change, ← ih, after, List.foldl_append]
      rfl

/-- **The three places agree:** every key of the order has a task and stages, and no other key has. -/
structure InStep (store : TaskStore) : Prop where
  nodup : store.order.Nodup
  tasks : ∀ key, (store.task? key).isSome = true ↔ key ∈ store.order
  stages : ∀ key, (store.stages.get? key).isSome = true ↔ key ∈ store.order
  size : store.size = store.order.length
  /-- The next key is a new one. -/
  fresh : store.tasks.nextKey ∉ store.order

lemma inStep_after (history : List TaskCollection.Change) : (after history).InStep := by
  rw [after_eq]
  set collection := TaskCollection.after history
  have horder : ∀ key, key ∈ collection.apart.order ↔ ∃ entry ∈ collection.entries, entry.key = key :=
    fun key => List.mem_map
  refine ⟨?_, fun key => ?_, fun key => ?_, ?_, fun hfresh => ?_⟩
  · -- Different slots, different keys.
    have hslots : (collection.apart.order.map TaskKey.slot).Nodup := by
      rw [TaskCollection.apart, List.map_map]
      exact (List.nodup_append.1 collection.nodup).1
    exact hslots.of_map
  · rw [horder, TaskCollection.task?_apart, TaskCollection.isSome_task?]
  · rw [horder, TaskCollection.stages_apart, Option.isSome_map, ← TaskCollection.isSome_task?,
      TaskCollection.task?, Option.isSome_map]
  · rw [size, SlotMap.size]
    simp only [TaskCollection.apart, List.length_map]
  · obtain ⟨entry, hentry, hkey⟩ := (horder _).1 hfresh
    rw [TaskCollection.nextKey_apart] at hkey
    exact TaskCollection.slot_ne_nextKey hentry (congrArg TaskKey.slot hkey)

end TaskStore

/-! ## Searches -/

namespace TaskCollection

variable {collection : TaskCollection} {stage : Stage} {aliases : Aliases}

/-- Every key that the search for a producer comes by has a task. -/
lemma producerAmong_apart (name : String) {entries : List TaskEntry}
    (h : entries ⊆ collection.entries) :
    collection.apart.producerAmong stage aliases name (entries.map (·.key)) =
      .ok ((entries.find? fun entry => decide (stage ∈ entry.stages) &&
        entry.task.lists.outputs.names.any (aliases.choice · == name)).map (·.key)) := by
  induction entries with
  | nil => rfl
  | cons entry later ih =>
      obtain ⟨hentry, hlater⟩ := List.cons_subset.1 h
      have hfound := entry?_eq_some_iff.2 ⟨hentry, rfl⟩
      rw [List.map_cons, TaskStore.producerAmong, stages_apart, task?_apart, task?, hfound,
        List.find?_cons, ih hlater]
      simp only [Option.map_some, Option.getD_some]
      by_cases hstage : stage ∈ entry.stages
      · by_cases houtput : entry.task.lists.outputs.names.any (aliases.choice · == name) = true
        · simp [hstage, houtput]
        · simp [hstage, houtput]
      · simp [hstage]

lemma producer?_apart (name : String) :
    collection.apart.producer? stage aliases name =
      .ok ((collection.producer? stage aliases name).map (·.key)) :=
  producerAmong_apart name (List.Subset.refl _)

/-- The needs are met alike if the tasks for them are run alike. -/
lemma need_apart {run : TaskEntry → String → Search → Except ResolveError Search}
    {run' : TaskKey → String → Search → Except ResolveFault Search}
    (h : ∀ entry ∈ collection.entries, ∀ wanted search,
      run' entry.key wanted search = (run entry wanted search).mapError .failed)
    (property : Property) (search : Search) :
    collection.apart.need stage aliases run' property search =
      (collection.need stage aliases run property search).mapError .failed := by
  rw [TaskStore.need, need]
  split_ifs with hthere
  · rfl
  · rw [producer?_apart]
    cases hproducer : collection.producer? stage aliases property.name with
    | none => rfl
    | some entry => exact h entry (List.mem_of_find?_eq_some hproducer) property.name search

/-- **A task is run by its key as it is run by its entry.** -/
lemma run_apart (depth : Nat) (waiting : List TaskKey) {entry : TaskEntry}
    (hentry : entry ∈ collection.entries) (wanted : String) (search : Search) :
    collection.apart.run stage aliases depth waiting entry.key wanted search =
      (collection.run stage aliases depth waiting entry wanted search).mapError .failed := by
  induction depth generalizing waiting entry wanted search with
  | zero =>
      unfold TaskStore.run run
      rw [task?_apart, task?_key hentry]
      dsimp only
      split_ifs <;> rfl
  | succ depth ih =>
      have hneed : ∀ property search, collection.apart.need stage aliases
          (collection.apart.run stage aliases depth (entry.key :: waiting)) property search =
            (collection.need stage aliases
              (collection.run stage aliases depth (entry.key :: waiting)) property search).mapError
              .failed :=
        need_apart fun other hother => ih (entry.key :: waiting) hother
      unfold TaskStore.run run
      rw [task?_apart, task?_key hentry]
      dsimp only
      split_ifs
      · rfl
      · rfl
      · rw [Outcome.mapError_bind, ← Outcome.mapError_foldlM]
        · refine congrArg _ (funext fun search => ?_)
          rw [Outcome.mapError_bind, ← Outcome.mapError_foldlM]
          · refine congrArg _ (funext fun search => ?_)
            rw [Outcome.mapError_bind, ← Outcome.mapError_foldlM]
            · rfl
            · intro search p
              rw [hneed, Outcome.mapError_bind]
              rfl
          · intro search p
            exact hneed p search
        · intro search p
          rw [hneed, Outcome.mapError_bind]
          rfl

/-- **The searches agree.**  Their only errors are those of the search over the collection. -/
lemma resolve_apart (wanted : PropertyList) :
    collection.apart.resolve stage wanted aliases =
      (collection.resolve stage wanted aliases).mapError .failed := by
  have hsize : collection.apart.size = collection.size := List.length_map _
  rw [TaskStore.resolve, resolve, Outcome.mapError_bind, hsize]
  rw [← Outcome.mapError_foldlM]
  · rfl
  · intro search p
    exact need_apart (fun entry => run_apart collection.size []) p search

/-- A store resolves as the collection does. -/
lemma resolver_apart : collection.apart.resolver = collection.resolver := by
  rw [TaskStore.resolver, resolver]
  congr 1
  · funext stage wanted aliases
    rw [resolve_apart]
    cases collection.resolve stage wanted aliases <;> rfl
  · funext key
    exact task?_apart key

end TaskCollection

end ShaderWeave
