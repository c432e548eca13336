import ShaderWeave.Proofs.Schedule

/-!
# The classes of a resolved stage

A search moves names between classes in an order that depends on the tasks it meets, and delivery
moves some of them again.  **Where a name ends up does not depend on that order:** it is decided by
what the scheduled tasks do with the name and by whether it is desired (`TaskCollection.Belongs`).

* `TaskCollection.mem_class_iff` — a class of a resolved stage holds exactly the names that belong
  in it.
* `TaskCollection.classes_of_resolve` — hence every name that occurs is in exactly one class, and no
  other name is in any.
* `TaskCollection.asked_of_mem_class` — every property in a class is a desired one or one that a
  scheduled task lists, so its type is one that somebody asked for.
-/

namespace ShaderWeave

namespace TaskCollection

variable {collection : TaskCollection} {stage : Stage} {aliases : Aliases}
  {desired : PropertyList} {pipeline : Pipeline} {items : List TaskKey} {name : String}

/-- A name is desired, after alias choice. -/
def Desired (aliases : Aliases) (desired : PropertyList) (name : String) : Prop :=
  ∃ p ∈ desired.entries, aliases.choice p.name = name

/-- A name occurs: it is desired, or some task among the keys touches it. -/
def Occurs (collection : TaskCollection) (aliases : Aliases) (desired : PropertyList)
    (items : List TaskKey) (name : String) : Prop :=
  Desired aliases desired name ∨ ∃ access, collection.Touched aliases items access name

/-- **Where a name belongs,** told from the scheduled tasks and the desired properties alone.
Consuming goes before filtering, filtering before being handed through, and that before being
read. -/
def Belongs (collection : TaskCollection) (aliases : Aliases) (desired : PropertyList)
    (items : List TaskKey) (name : String) : PropertyClass → Prop
  | .output => collection.Touched aliases items .writes name ∧ Desired aliases desired name
  | .inner => collection.Touched aliases items .writes name ∧ ¬ Desired aliases desired name
  | .consuming => ¬ collection.Touched aliases items .writes name ∧
      collection.Touched aliases items .consumes name
  | .filter => ¬ collection.Touched aliases items .writes name ∧
      ¬ collection.Touched aliases items .consumes name ∧
      collection.Touched aliases items .filters name
  | .pipethrough => ¬ collection.Touched aliases items .writes name ∧
      ¬ collection.Touched aliases items .consumes name ∧
      ¬ collection.Touched aliases items .filters name ∧ Desired aliases desired name
  | .input => ¬ collection.Touched aliases items .writes name ∧
      ¬ collection.Touched aliases items .consumes name ∧
      ¬ collection.Touched aliases items .filters name ∧ ¬ Desired aliases desired name ∧
      collection.Touched aliases items .reads name

/-- A name belongs in one class at most. -/
lemma Belongs.unique {cls cls' : PropertyClass}
    (h : collection.Belongs aliases desired items name cls)
    (h' : collection.Belongs aliases desired items name cls') : cls = cls' := by
  cases cls <;> cases cls' <;> simp only [Belongs] at h h' <;> grind

/-- A name that occurs belongs somewhere, and only such a name does. -/
lemma exists_belongs_iff : (∃ cls, collection.Belongs aliases desired items name cls) ↔
    collection.Occurs aliases desired items name := by
  constructor
  · rintro ⟨cls, h⟩
    cases cls with
    | input => exact Or.inr ⟨.reads, h.2.2.2.2⟩
    | consuming => exact Or.inr ⟨.consumes, h.2⟩
    | filter => exact Or.inr ⟨.filters, h.2.2⟩
    | pipethrough => exact Or.inl h.2.2.2
    | output => exact Or.inl h.2
    | inner => exact Or.inr ⟨.writes, h.1⟩
  · intro h
    by_cases hwritten : collection.Touched aliases items .writes name
    · by_cases hdesired : Desired aliases desired name
      · exact ⟨.output, hwritten, hdesired⟩
      · exact ⟨.inner, hwritten, hdesired⟩
    by_cases hconsumed : collection.Touched aliases items .consumes name
    · exact ⟨.consuming, hwritten, hconsumed⟩
    by_cases hfiltered : collection.Touched aliases items .filters name
    · exact ⟨.filter, hwritten, hconsumed, hfiltered⟩
    by_cases hdesired : Desired aliases desired name
    · exact ⟨.pipethrough, hwritten, hconsumed, hfiltered, hdesired⟩
    · refine ⟨.input, hwritten, hconsumed, hfiltered, hdesired, ?_⟩
      rcases h with h | ⟨access, h⟩
      · exact absurd h hdesired
      · cases access with
        | reads => exact h
        | consumes => exact absurd h hconsumed
        | filters => exact absurd h hfiltered
        | writes => exact absurd h hwritten

end TaskCollection

/-! ## Before delivery -/

namespace Search.Sound

variable {collection : TaskCollection} {stage : Stage} {aliases : Aliases}
  {wanted : List Property} {search : Search} {name : String}

/-- When nothing waits, the produced names are those the scheduled tasks output. -/
lemma produces_iff_written (h : search.Sound collection stage aliases wanted []) :
    search.produces name = true ↔
      collection.Touched aliases search.pipeline.items .writes name :=
  ⟨h.written name, h.met .writes name⟩

lemma mem_consuming_iff (h : search.Sound collection stage aliases wanted []) :
    name ∈ search.pipeline.consuming.names ↔
      ¬ collection.Touched aliases search.pipeline.items .writes name ∧
        collection.Touched aliases search.pipeline.items .consumes name := by
  constructor
  · intro hname
    refine ⟨?_, by simpa using h.consumed name hname⟩
    intro hwritten
    exact h.not_external (h.met .writes name hwritten) (external_iff.2 (Or.inr (Or.inr hname)))
  · rintro ⟨hnot, hconsumed⟩
    rcases h.met .consumes name hconsumed with hproduced | hname
    · exact absurd (h.written name hproduced) hnot
    · exact hname

lemma mem_filter_iff (h : search.Sound collection stage aliases wanted []) :
    name ∈ search.pipeline.filter.names ↔
      ¬ collection.Touched aliases search.pipeline.items .writes name ∧
        ¬ collection.Touched aliases search.pipeline.items .consumes name ∧
        collection.Touched aliases search.pipeline.items .filters name := by
  constructor
  · intro hname
    have hwritten : ¬ collection.Touched aliases search.pipeline.items .writes name := by
      intro hwritten
      exact h.not_external (h.met .writes name hwritten) (external_iff.2 (Or.inr (Or.inl hname)))
    refine ⟨hwritten, ?_, by simpa using h.filtered name hname⟩
    exact fun hconsumed =>
      h.filter_consuming name hname (h.mem_consuming_iff.2 ⟨hwritten, hconsumed⟩)
  · rintro ⟨hnot, hnotc, hfiltered⟩
    rcases h.met .filters name hfiltered with hproduced | hname | hname
    · exact absurd (h.written name hproduced) hnot
    · exact hname
    · exact absurd (h.mem_consuming_iff.1 hname).2 hnotc

/-- Before delivery the inputs are whatever is there, is not output, and is neither consumed nor
changed. -/
lemma mem_input_iff (h : search.Sound collection stage aliases wanted [])
    (hmet : ∀ p ∈ wanted, search.Meets .reads p.name) :
    name ∈ search.pipeline.input.names ↔
      ¬ collection.Touched aliases search.pipeline.items .writes name ∧
        ¬ collection.Touched aliases search.pipeline.items .consumes name ∧
        ¬ collection.Touched aliases search.pipeline.items .filters name ∧
        ((∃ p ∈ wanted, p.name = name) ∨
          collection.Touched aliases search.pipeline.items .reads name) := by
  constructor
  · intro hname
    have hwritten : ¬ collection.Touched aliases search.pipeline.items .writes name := by
      intro hwritten
      exact h.not_external (h.met .writes name hwritten) (external_iff.2 (Or.inl hname))
    have hconsumed : ¬ collection.Touched aliases search.pipeline.items .consumes name :=
      fun hconsumed => h.input_consuming name hname (h.mem_consuming_iff.2 ⟨hwritten, hconsumed⟩)
    have hfiltered : ¬ collection.Touched aliases search.pipeline.items .filters name :=
      fun hfiltered =>
        h.input_filter name hname (h.mem_filter_iff.2 ⟨hwritten, hconsumed, hfiltered⟩)
    refine ⟨hwritten, hconsumed, hfiltered, ?_⟩
    obtain ⟨p, hp, rfl⟩ := PropertyList.mem_names.1 hname
    rcases h.asked p (Or.inl hp) with hp | ⟨key, hkey, task, htask, access, q, hq, rfl⟩
    · exact Or.inl ⟨p, hp, rfl⟩
    · have htouched : collection.Touched aliases search.pipeline.items access
          (aliases.choice q.name) := ⟨key, by simpa using hkey, task, htask, q, hq, rfl⟩
      cases access with
      | reads => exact Or.inr htouched
      | consumes => exact absurd htouched hconsumed
      | filters => exact absurd htouched hfiltered
      | writes => exact absurd htouched hwritten
  · rintro ⟨hnot, hnotc, hnotf, hthere⟩
    have hreads : search.Meets .reads name := by
      rcases hthere with ⟨p, hp, rfl⟩ | htouched
      · exact hmet p hp
      · exact h.met .reads name htouched
    rcases hreads with hproduced | hexternal
    · exact absurd (h.written name hproduced) hnot
    · rcases external_iff.1 hexternal with hname | hname | hname
      · exact hname
      · exact absurd (h.mem_filter_iff.1 hname).2.2 hnotf
      · exact absurd (h.mem_consuming_iff.1 hname).2 hnotc

end Search.Sound

/-! ## After delivery -/

namespace TaskCollection

variable {collection : TaskCollection} {stage : Stage} {aliases : Aliases}
  {desired : PropertyList} {pipeline : Pipeline} {name : String}

lemma desired_iff :
    (∃ p ∈ desired.entries.map aliases.chosen, p.name = name) ↔ Desired aliases desired name := by
  simp only [List.mem_map, exists_exists_and_eq_and, Desired]
  rfl

/-- **A class of a resolved stage holds exactly the names that belong in it.** -/
lemma mem_class_iff (h : collection.resolve stage desired aliases = .ok pipeline)
    (cls : PropertyClass) (name : String) :
    name ∈ (pipeline.list cls).names ↔
      collection.Belongs aliases desired pipeline.items name cls := by
  obtain ⟨search, hsound, hmet, rfl⟩ := sound_of_resolve h
  have hdelivered := Search.delivered_foldl (desired.entries.map aliases.chosen) search
  generalize (desired.entries.map aliases.chosen).foldl Search.deliver search = final at *
  have hitems : final.complete.items = search.pipeline.items := hdelivered.items
  rw [hitems]
  have hwritten : search.produces name = true ↔ _ := hsound.produces_iff_written
  have hin : name ∈ search.pipeline.input.names ↔ _ := hsound.mem_input_iff hmet
  rw [desired_iff] at hin
  have hout : name ∈ final.pipeline.output.names ↔
      collection.Touched aliases search.pipeline.items .writes name ∧
        Desired aliases desired name := by
    rw [hdelivered.output, hsound.output, hwritten, desired_iff]
    simp
  cases cls with
  | input =>
      show name ∈ final.pipeline.input.names ↔ _
      rw [hdelivered.input, hin, hwritten]
      have hnot : (∀ p ∈ desired.entries.map aliases.chosen, p.name ≠ name) ↔
          ¬ Desired aliases desired name := by
        rw [← desired_iff]
        simp only [not_exists, not_and, ne_eq]
      rw [hnot, Belongs]
      grind
  | consuming =>
      show name ∈ final.pipeline.consuming.names ↔ _
      rw [hdelivered.consuming, hsound.mem_consuming_iff, Belongs]
  | filter =>
      show name ∈ final.pipeline.filter.names ↔ _
      rw [hdelivered.filter, hsound.mem_filter_iff, Belongs]
  | pipethrough =>
      show name ∈ final.pipeline.pipethrough.names ↔ _
      rw [hdelivered.pipethrough, hsound.pipethrough, hin, hwritten, desired_iff, Belongs]
      simp only [PropertyList.names_empty, List.not_mem_nil, false_or]
      grind
  | output => exact hout
  | inner =>
      show name ∈ (final.pipeline.inner.extend _).names ↔ _
      rw [PropertyList.mem_names_extend, hdelivered.inner, hsound.inner, hdelivered.produced]
      simp only [PropertyList.names_empty, List.not_mem_nil, false_or, List.mem_filter]
      rw [Belongs, ← hwritten, Search.produces_iff]
      constructor
      · rintro ⟨p, ⟨hp, hnot⟩, rfl⟩
        refine ⟨⟨p, hp, rfl⟩, fun hdesired => ?_⟩
        have hmem := hout.2 ⟨hwritten.1 (Search.produces_iff.2 ⟨p, hp, rfl⟩), hdesired⟩
        simp [PropertyList.contains_iff.2 hmem] at hnot
      · rintro ⟨⟨p, hp, rfl⟩, hnot⟩
        refine ⟨p, ⟨hp, ?_⟩, rfl⟩
        have hmem : p.name ∉ final.pipeline.output.names := fun hmem => hnot (hout.1 hmem).2
        simpa [PropertyList.contains] using hmem

/-- A property in a class of a resolved stage is a desired one, or one that a scheduled task lists,
under the name chosen for it. -/
lemma asked_of_mem_class (h : collection.resolve stage desired aliases = .ok pipeline)
    {cls : PropertyClass} {p : Property} (hp : p ∈ (pipeline.list cls).entries) :
    collection.Asked aliases (desired.entries.map aliases.chosen) pipeline.items p := by
  obtain ⟨search, hsound, -, rfl⟩ := sound_of_resolve h
  have hdelivered := Search.delivered_foldl (desired.entries.map aliases.chosen) search
  generalize (desired.entries.map aliases.chosen).foldl Search.deliver search = final at *
  have hitems : final.complete.items = search.pipeline.items := hdelivered.items
  have hasked : ∀ q, search.Holds q → collection.Asked aliases (desired.entries.map aliases.chosen)
      final.complete.items q := by
    intro q hq
    rw [hitems]
    simpa using hsound.asked q hq
  cases cls with
  | input => exact hasked p (Or.inl (hdelivered.input_entries p hp))
  | consuming => exact hasked p (Or.inr (Or.inr (Or.inl (hdelivered.consuming ▸ hp))))
  | filter => exact hasked p (Or.inr (Or.inl (hdelivered.filter ▸ hp)))
  | pipethrough =>
      rcases hdelivered.pipethrough_entries p hp with hp | hp
      · rw [hsound.pipethrough] at hp
        exact absurd hp List.not_mem_nil
      · exact hasked p (Or.inl hp)
  | output =>
      rcases hdelivered.output_entries p hp with hp | hp
      · rw [hsound.output] at hp
        exact absurd hp List.not_mem_nil
      · exact Or.inl hp
  | inner =>
      rcases PropertyList.mem_entries_of_extend hp with hp | hp
      · rw [hdelivered.inner, hsound.inner] at hp
        exact absurd hp List.not_mem_nil
      · have hproduced := List.mem_of_mem_filter hp
        exact hasked p (Or.inr (Or.inr (Or.inr (hdelivered.produced ▸ hproduced))))

/-- **Exact classes.**  After a successful resolution every name that occurs is in exactly one class,
no other name is in any, and the class is the one the name belongs in. -/
theorem classes_of_resolve (collection : TaskCollection) (stage : Stage) (desired : PropertyList)
    (aliases : Aliases) {pipeline : Pipeline}
    (h : collection.resolve stage desired aliases = .ok pipeline) :
    (∀ name, collection.Occurs aliases desired pipeline.items name →
      ∃! cls, name ∈ (pipeline.list cls).names) ∧
    (∀ name cls, name ∈ (pipeline.list cls).names →
      collection.Occurs aliases desired pipeline.items name) ∧
    (∀ name cls, name ∈ (pipeline.list cls).names ↔
      collection.Belongs aliases desired pipeline.items name cls) := by
  refine ⟨?_, ?_, fun name cls => mem_class_iff h cls name⟩
  · intro name hname
    obtain ⟨cls, hcls⟩ := exists_belongs_iff.2 hname
    refine ⟨cls, (mem_class_iff h cls name).2 hcls, ?_⟩
    intro cls' hcls'
    exact ((mem_class_iff h cls' name).1 hcls').unique hcls
  · intro name cls hcls
    exact exists_belongs_iff.1 ⟨cls, (mem_class_iff h cls name).1 hcls⟩

/-- Two desired names become one after alias choice; the name is consumed by one task and changed by
another, and it is consumed in the end. -/
def rinsing : TaskCollection :=
  (empty.register
    (.call "tone" { filters := .ofList [⟨"light", .vec4⟩, ⟨"haze", .vec4⟩]
                    outputs := .ofList [⟨"toned", .vec4⟩] }) [.compute]).register
    (.call "rinse" { consuming := .ofList [⟨"glow", .vec4⟩]
                     inputs := .ofList [⟨"toned", .vec4⟩, ⟨"scale", .vec4⟩]
                     outputs := .ofList [⟨"clear", .vec4⟩] }) [.compute]

theorem classes_of_resolve_rinsing :
    ∃ pipeline,
      rinsing.resolve .compute
        (.ofList [⟨"light", .vec4⟩, ⟨"glow", .vec4⟩, ⟨"sky", .vec4⟩, ⟨"clear", .vec4⟩])
        (.ofList [("light", "glow")]) = .ok pipeline ∧
      PropertyClass.all.map (fun cls => (pipeline.list cls).names)
        = [["scale"], ["glow"], ["haze"], ["sky"], ["clear"], ["toned"]] ∧
      ∃! cls, "glow" ∈ (pipeline.list cls).names :=
  ⟨_, rfl, rfl, (classes_of_resolve rinsing .compute
    (.ofList [⟨"light", .vec4⟩, ⟨"glow", .vec4⟩, ⟨"sky", .vec4⟩, ⟨"clear", .vec4⟩])
    (.ofList [("light", "glow")]) rfl).1 _ (Or.inl ⟨⟨"glow", .vec4⟩, by decide, rfl⟩)⟩

end TaskCollection

end ShaderWeave
