import ShaderWeave.Pipeline.Basic

/-!
# Collections of tasks

A `TaskCollection` holds tasks in the order of their registration, each for some stages.  A task is
known by its key.  Removing a task frees its slot, and **the slot freed last is taken first,** under a
new version, so no key is ever given out twice.
-/

namespace ShaderWeave

/-- A registered task. -/
structure TaskEntry where
  key : TaskKey
  stages : List Stage
  task : Task

/-- Tasks in the order of their registration. -/
structure TaskCollection where
  entries : List TaskEntry
  /-- Keys of removed tasks whose slots are free, the last freed first. -/
  freed : List TaskKey
  /-- No slot is used twice. -/
  nodup : (entries.map (·.key.slot) ++ freed.map (·.slot)).Nodup
  /-- Slots are counted from one without gaps. -/
  bounded : ∀ slot ∈ entries.map (·.key.slot) ++ freed.map (·.slot),
    slot ≤ entries.length + freed.length

namespace TaskCollection

/-- The collection without tasks. -/
def empty : TaskCollection := ⟨[], [], by simp, by simp⟩

/-- Number of tasks. -/
def size (collection : TaskCollection) : Nat := collection.entries.length

/-- The key the next task will get. -/
def nextKey (collection : TaskCollection) : TaskKey :=
  match collection.freed with
  | [] => ⟨collection.entries.length + 1, 1⟩
  | key :: _ => ⟨key.slot, key.version + 2⟩

/-- Adds a task for some stages, after all others. -/
def register (collection : TaskCollection) (task : Task) (stages : List Stage) : TaskCollection :=
  match h : collection.freed with
  | [] =>
    { entries := collection.entries ++ [⟨⟨collection.entries.length + 1, 1⟩, stages, task⟩]
      freed := []
      nodup := by
        have hnodup := collection.nodup
        have hbounded := collection.bounded
        simp only [h, List.map_nil, List.append_nil, List.length_nil, Nat.add_zero] at hnodup hbounded
        simp only [List.map_append, List.map_cons, List.map_nil, List.append_nil,
          List.nodup_append]
        refine ⟨hnodup, by simp, ?_⟩
        intro a ha b hb
        have hle := hbounded a ha
        simp only [List.mem_singleton] at hb
        omega
      bounded := by
        have hbounded := collection.bounded
        simp only [h, List.map_nil, List.append_nil, List.length_nil, Nat.add_zero] at hbounded
        intro slot hslot
        simp only [List.map_append, List.map_cons, List.map_nil, List.append_nil, List.mem_append,
          List.mem_singleton] at hslot
        simp only [List.length_append, List.length_cons, List.length_nil]
        rcases hslot with hslot | hslot
        · have hle := hbounded slot hslot
          omega
        · omega }
  | key :: rest =>
    { entries := collection.entries ++ [⟨⟨key.slot, key.version + 2⟩, stages, task⟩]
      freed := rest
      nodup := by
        have hnodup := collection.nodup
        rw [h] at hnodup
        simpa using hnodup
      bounded := by
        have hbounded := collection.bounded
        rw [h] at hbounded
        intro slot hslot
        have hle := hbounded slot (by simpa [List.append_assoc] using hslot)
        simp only [List.length_cons, List.length_append, List.length_nil] at hle ⊢
        omega }

/-- The entry under a key. -/
def entry? (collection : TaskCollection) (key : TaskKey) : Option TaskEntry :=
  collection.entries.find? (·.key == key)

/-- The task under a key. -/
def task? (collection : TaskCollection) (key : TaskKey) : Option Task :=
  (collection.entry? key).map (·.task)

theorem slots_eraseP (entries : List TaskEntry) (key : TaskKey)
    (h : ∃ entry ∈ entries, entry.key = key) :
    ∃ before after : List TaskEntry, ∃ entry : TaskEntry, entry.key = key
      ∧ entries = before ++ entry :: after
      ∧ entries.eraseP (·.key == key) = before ++ after := by
  obtain ⟨entry, hmem, hkey⟩ := h
  obtain ⟨found, before, after, _, hfound, hsplit, herase⟩ :=
    List.exists_of_eraseP (p := (·.key == key)) hmem (by simpa using hkey)
  exact ⟨before, after, found, by simpa using hfound, hsplit, herase⟩

/-- Takes a task out and frees its slot; a key that is not in use changes nothing. -/
def remove (collection : TaskCollection) (key : TaskKey) : TaskCollection :=
  if h : ∃ entry ∈ collection.entries, entry.key = key then
    { entries := collection.entries.eraseP (·.key == key)
      freed := key :: collection.freed
      nodup := by
        obtain ⟨before, after, entry, hkey, hsplit, herase⟩ := slots_eraseP _ key h
        have hnodup := collection.nodup
        rw [hsplit] at hnodup
        rw [herase]
        refine (List.Perm.nodup_iff ?_).1 hnodup
        subst hkey
        simp only [List.map_append, List.map_cons, List.append_assoc, List.cons_append]
        refine List.Perm.append_left _ ?_
        exact (List.perm_middle).symm
      bounded := by
        obtain ⟨before, after, entry, hkey, hsplit, herase⟩ := slots_eraseP _ key h
        have hbounded := collection.bounded
        rw [hsplit] at hbounded
        rw [herase]
        subst hkey
        intro slot hslot
        have hle := hbounded slot (by
          simp only [List.map_append, List.map_cons, List.mem_append, List.mem_cons] at hslot ⊢
          rcases hslot with (hs | hs) | hs | hs <;> simp [hs])
        simp only [List.length_append, List.length_cons] at hle ⊢
        omega }
  else collection

/-- The first task registered for `stage` that outputs `name` after alias choice. -/
def producer? (collection : TaskCollection) (stage : Stage) (aliases : Aliases) (name : String) :
    Option TaskEntry :=
  collection.entries.find? fun entry =>
    decide (stage ∈ entry.stages) && entry.task.lists.outputs.names.any (aliases.choice · == name)

end TaskCollection

end ShaderWeave
