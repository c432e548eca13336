import Mathlib.Data.List.Induction
import ShaderWeave.Proofs.Collections

/-!
# Tasks come and go

A collection is what registering tasks and taking them out has made of the empty one.  Slots are
used again, but under new keys, so **a task is there as long as it was registered and not taken out
since** (`TaskCollection.mem_after_iff`), and its key leads to it for just as long.
-/

namespace ShaderWeave

namespace TaskCollection

/-- What can happen to a collection. -/
inductive Change where
  | register (task : Task) (stages : List Stage)
  | remove (key : TaskKey)

/-- The collection after a change. -/
def change (collection : TaskCollection) : Change → TaskCollection
  | .register task stages => collection.register task stages
  | .remove key => collection.remove key

/-- The collection that a history leads to. -/
def after (history : List Change) : TaskCollection := history.foldl change empty

lemma after_snoc (history : List Change) (last : Change) :
    after (history ++ [last]) = (after history).change last := by
  rw [after, List.foldl_append]
  rfl

/-- The history registers a task under a key, and does not take it out afterwards. -/
def Stands (history : List Change) (entry : TaskEntry) : Prop :=
  ∃ before later, history = before ++ .register entry.task entry.stages :: later ∧
    entry.key = (after before).nextKey ∧ .remove entry.key ∉ later

variable {collection : TaskCollection} {entry : TaskEntry} {history : List Change}

/-! ## One change -/

lemma entries_register (task : Task) (stages : List Stage) :
    (collection.register task stages).entries
      = collection.entries ++ [⟨collection.nextKey, stages, task⟩] := by
  unfold register
  split
  · next h => simp only [nextKey, h]
  · next h => simp only [nextKey, h]

lemma freed_register (task : Task) (stages : List Stage) :
    (collection.register task stages).freed = collection.freed.tail := by
  unfold register
  split
  · next h => simp only [h, List.tail_nil]
  · next h => simp only [h, List.tail_cons]

/-- Keys of different entries have different slots, so one entry goes at most. -/
lemma entries_remove (key : TaskKey) :
    (collection.remove key).entries = collection.entries.filter (·.key != key) := by
  unfold remove
  split
  · next h =>
      obtain ⟨before, later, found, rfl, hsplit, herase⟩ := slots_eraseP _ key h
      have hkeys : ∀ other ∈ before ++ later, other.key ≠ found.key := by
        have hnodup := (List.nodup_append.1 collection.nodup).1
        rw [hsplit, List.map_append, List.map_cons, List.nodup_middle, List.nodup_cons,
          ← List.map_append] at hnodup
        intro other hother hkey
        exact hnodup.1 (List.mem_map.2 ⟨other, hother, congrArg TaskKey.slot hkey⟩)
      have hkept : (before ++ later).filter (·.key != found.key) = before ++ later :=
        List.filter_eq_self.2 fun other hother => bne_iff_ne.2 (hkeys other hother)
      show collection.entries.eraseP (·.key == found.key) = _
      rw [herase, hsplit, ← hkept]
      simp
  · next h =>
      refine (List.filter_eq_self.2 fun entry hentry => ?_).symm
      exact bne_iff_ne.2 fun heq => h ⟨entry, hentry, heq⟩

lemma isSome_task? {key : TaskKey} :
    (collection.task? key).isSome = true ↔ ∃ entry ∈ collection.entries, entry.key = key := by
  simp only [Option.isSome_iff_exists, task?_eq_some_iff]
  constructor
  · rintro ⟨task, entry, hentry, hkey, -⟩
    exact ⟨entry, hentry, hkey⟩
  · rintro ⟨entry, hentry, hkey⟩
    exact ⟨entry.task, entry, hentry, hkey, rfl⟩

lemma freed_remove (key : TaskKey) :
    (collection.remove key).freed =
      if (collection.task? key).isSome then key :: collection.freed else collection.freed := by
  unfold remove
  split
  · next h => rw [if_pos (isSome_task?.2 h)]
  · next h => rw [if_neg fun hsome => h (isSome_task?.1 hsome)]

lemma mem_entries_remove {key : TaskKey} :
    entry ∈ (collection.remove key).entries ↔ entry ∈ collection.entries ∧ entry.key ≠ key := by
  rw [entries_remove, List.mem_filter, bne_iff_ne]

/-! ## A whole history -/

/-- A task stands until it is taken out. -/
lemma stands_snoc {last : Change} :
    Stands (history ++ [last]) entry ↔
      last ≠ .remove entry.key ∧ Stands history entry ∨
        last = .register entry.task entry.stages ∧ entry.key = (after history).nextKey := by
  constructor
  · rintro ⟨before, later, hsplit, hkey, hout⟩
    rcases List.eq_nil_or_concat later with rfl | ⟨later, change, rfl⟩
    · obtain ⟨rfl, hlast⟩ := List.append_inj' hsplit rfl
      exact Or.inr ⟨List.head_eq_of_cons_eq hlast, hkey⟩
    · rw [List.concat_eq_append] at hsplit hout
      rw [← List.cons_append, ← List.append_assoc] at hsplit
      obtain ⟨rfl, hlast⟩ := List.append_inj' hsplit rfl
      obtain rfl := List.head_eq_of_cons_eq hlast
      rw [List.mem_append, not_or, List.mem_singleton] at hout
      exact Or.inl ⟨Ne.symm hout.2, before, later, rfl, hkey, hout.1⟩
  · rintro (⟨hlast, before, later, rfl, hkey, hout⟩ | ⟨rfl, hkey⟩)
    · refine ⟨before, later ++ [last], by simp, hkey, ?_⟩
      rw [List.mem_append, not_or, List.mem_singleton]
      exact ⟨hout, Ne.symm hlast⟩
    · exact ⟨history, [], rfl, hkey, List.not_mem_nil⟩

/-- **A collection holds what was registered and not taken out since.** -/
theorem mem_after_iff : entry ∈ (after history).entries ↔ Stands history entry := by
  induction history using List.reverseRecOn with
  | nil =>
      constructor
      · exact fun h => absurd h List.not_mem_nil
      · rintro ⟨before, later, hsplit, -⟩
        exact absurd hsplit (by simp)
  | append_singleton history last ih =>
      rw [after_snoc, stands_snoc, ← ih]
      cases last with
      | register task stages =>
          rw [change, entries_register, List.mem_append, List.mem_singleton]
          simp only [ne_eq, reduceCtorEq, not_false_eq_true, true_and, Change.register.injEq]
          refine or_congr_right ?_
          constructor
          · rintro rfl
            exact ⟨⟨rfl, rfl⟩, rfl⟩
          · obtain ⟨key, stages', task'⟩ := entry
            rintro ⟨⟨rfl, rfl⟩, hkey⟩
            rw [show key = _ from hkey]
      | remove key =>
          rw [change, mem_entries_remove]
          simp only [ne_eq, Change.remove.injEq, reduceCtorEq, false_and, or_false]
          rw [and_comm, eq_comm]

end TaskCollection

end ShaderWeave
