import ShaderWeave.Proofs.Outcome
import ShaderWeave.Proofs.Search
import ShaderWeave.Task.Kinds

/-!
# Schedules

`Search.Sound` is the invariant of a search, and every operation of a search keeps it
(`Sound.enter`, `Sound.consume`, `Sound.modify`, `Sound.finish`).  `TaskCollection.run` keeps it by
induction on the depth, `TaskCollection.need` with it, and so does the whole search
(`TaskCollection.sound_of_resolve`).

What a successful resolution schedules is then **a schedule in the strong sense of
`TaskCollection.Schedule`**: `TaskCollection.schedule_of_resolve`.
-/

namespace ShaderWeave

variable {collection : TaskCollection} {stage : Stage} {aliases : Aliases}
  {wanted : List Property} {waiting : List TaskKey} {search search' : Search} {entry : TaskEntry}
  {name : String} {property : Property}

/-- **What a search keeps.**  `wanted` is what the stage is asked for, and `waiting` are the tasks
whose needs are being met. -/
structure Search.Sound (collection : TaskCollection) (stage : Stage) (aliases : Aliases)
    (wanted : List Property) (waiting : List TaskKey) (search : Search) : Prop where
  schedule : collection.Schedule stage aliases search.pipeline.items
  /-- A waiting task has not run. -/
  fresh : ∀ key ∈ waiting, key ∉ search.pipeline.items
  /-- Whatever a task that has run touches has been dealt with. -/
  met : ∀ access name, collection.Touched aliases search.pipeline.items access name →
    search.Meets access name
  /-- No task of the stage outputs what comes from outside. -/
  outside : ∀ name, search.external name = true → ¬ collection.Offers stage aliases name
  written : ∀ name, search.produces name = true →
    collection.Touched aliases search.pipeline.items .writes name
  consumed : ∀ name ∈ search.pipeline.consuming.names,
    collection.Touched aliases (search.pipeline.items ++ waiting) .consumes name
  filtered : ∀ name ∈ search.pipeline.filter.names,
    collection.Touched aliases (search.pipeline.items ++ waiting) .filters name
  asked : ∀ p, search.Holds p → collection.Asked aliases wanted (search.pipeline.items ++ waiting) p
  input_filter : ∀ name ∈ search.pipeline.input.names, name ∉ search.pipeline.filter.names
  input_consuming : ∀ name ∈ search.pipeline.input.names, name ∉ search.pipeline.consuming.names
  filter_consuming : ∀ name ∈ search.pipeline.filter.names, name ∉ search.pipeline.consuming.names
  pipethrough : search.pipeline.pipethrough = .empty
  output : search.pipeline.output = .empty
  inner : search.pipeline.inner = .empty

namespace TaskCollection.Schedule

lemma nil : collection.Schedule stage aliases [] :=
  ⟨List.nodup_nil, by simp, by simp⟩

/-- A task joins a schedule once all it needs is output before it or comes from outside. -/
lemma snoc {items : List TaskKey} (h : collection.Schedule stage aliases items)
    (hentry : entry ∈ collection.entries) (hstage : stage ∈ entry.stages)
    (hnew : entry.key ∉ items)
    (hneeds : ∀ access name, access ≠ .writes → entry.task.Touches aliases access name →
      collection.Touched aliases items .writes name ∨ ¬ collection.Offers stage aliases name) :
    collection.Schedule stage aliases (items ++ [entry.key]) := by
  refine ⟨?_, ?_, ?_⟩
  · refine List.nodup_append.2 ⟨h.nodup, List.nodup_singleton _, ?_⟩
    intro a ha b hb
    rw [List.mem_singleton] at hb
    subst hb
    exact fun heq => hnew (heq ▸ ha)
  · intro key hkey
    rcases List.mem_append.1 hkey with hkey | hkey
    · exact h.registered key hkey
    · rw [List.mem_singleton] at hkey
      exact ⟨entry, hentry, hkey.symm, hstage⟩
  · intro i key task access name hi htask haccess htouch
    rcases Nat.lt_or_ge i items.length with hlt | hge
    · rw [List.getElem?_append_left hlt] at hi
      rcases h.ready i key task access name hi htask haccess htouch with ⟨j, key', task', hj, rest⟩ | h'
      · refine Or.inl ⟨j, key', task', hj, ?_⟩
        rwa [List.getElem?_append_left (Nat.lt_trans hj hlt)]
      · exact Or.inr h'
    · -- the new task stands behind all others
      rw [List.getElem?_append_right hge, List.getElem?_singleton] at hi
      split_ifs at hi with hzero
      obtain rfl := Option.some.inj hi
      rw [task?_key hentry, Option.some.injEq] at htask
      subst htask
      rcases hneeds access name haccess htouch with ⟨key', hkey', task', htask', hout⟩ | h'
      · obtain ⟨j, hj⟩ := List.mem_iff_getElem?.1 hkey'
        obtain ⟨hlt, -⟩ := List.getElem?_eq_some_iff.1 hj
        refine Or.inl ⟨j, key', task', by omega, ?_, htask', hout⟩
        rwa [List.getElem?_append_left hlt]
      · exact Or.inr h'

end TaskCollection.Schedule

namespace Search.Sound

/-- At the start there is nothing to keep. -/
lemma start : Sound collection stage aliases wanted [] Search.start where
  schedule := TaskCollection.Schedule.nil
  fresh := by simp
  met := by
    rintro access name ⟨key, hkey, -⟩
    exact absurd hkey (by simp [Search.start])
  outside := by simp [Search.start, external]
  written := by simp [Search.start, produces]
  consumed := by simp [Search.start]
  filtered := by simp [Search.start]
  asked := by simp [Search.start, Holds]
  input_filter := by simp [Search.start]
  input_consuming := by simp [Search.start]
  filter_consuming := by simp [Search.start]
  pipethrough := rfl
  output := rfl
  inner := rfl

/-- What is produced does not come from outside. -/
lemma not_external (h : Sound collection stage aliases wanted waiting search)
    (hname : search.produces name = true) : ¬ search.external name = true :=
  fun hext => h.outside name hext (h.schedule.offers (h.written name hname))

/-- What is there is output by a task that has run, or by no task of the stage. -/
lemma written_or_outside (h : Sound collection stage aliases wanted waiting search)
    (hname : search.Meets .reads name) :
    collection.Touched aliases search.pipeline.items .writes name ∨
      ¬ collection.Offers stage aliases name := by
  rcases hname with hname | hname
  · exact Or.inl (h.written name hname)
  · exact Or.inr (h.outside name hname)

/-- A property that no task of the stage outputs is taken from outside. -/
lemma enter (h : Sound collection stage aliases wanted waiting search)
    (hnew : ¬ search.external property.name = true)
    (hnone : ¬ collection.Offers stage aliases property.name)
    (hasked : collection.Asked aliases wanted (search.pipeline.items ++ waiting) property) :
    Sound collection stage aliases wanted waiting { search with pipeline := { search.pipeline with
      input := search.pipeline.input.insert property } } := by
  have hnew' := hnew
  rw [external_iff, not_or, not_or] at hnew'
  refine { h with met := ?_, outside := ?_, asked := ?_, input_filter := ?_, input_consuming := ?_ }
  · exact fun access other hother => grows_enter.meets access other (h.met access other hother)
  · intro other hother
    rw [external_iff] at hother
    rcases hother with hother | hother
    · rcases PropertyList.mem_names_insert.1 hother with hother | rfl
      · exact h.outside other (external_iff.2 (Or.inl hother))
      · exact hnone
    · exact h.outside other (external_iff.2 (Or.inr hother))
  · rintro p (hp | hp)
    · rcases PropertyList.mem_entries_of_insert hp with hp | rfl
      · exact h.asked p (Or.inl hp)
      · exact hasked
    · exact h.asked p (Or.inr hp)
  · intro other hother
    rcases PropertyList.mem_names_insert.1 hother with hother | rfl
    · exact h.input_filter other hother
    · exact hnew'.2.1
  · intro other hother
    rcases PropertyList.mem_names_insert.1 hother with hother | rfl
    · exact h.input_consuming other hother
    · exact hnew'.2.2

/-- A waiting task, or one that has run, consumes a name. -/
lemma consume (h : Sound collection stage aliases wanted waiting search)
    (hname : collection.Touched aliases (search.pipeline.items ++ waiting) .consumes name) :
    Sound collection stage aliases wanted waiting (search.consume name) := by
  have hframe := reclassified_consume search name
  have hgrows := grows_consume name h.input_filter
  refine ⟨hframe.items ▸ h.schedule, hframe.items ▸ h.fresh, ?_, ?_, ?_, ?_, ?_, ?_, ?_, ?_, ?_,
    hframe.pipethrough.trans h.pipethrough, hframe.output.trans h.output,
    hframe.inner.trans h.inner⟩
  · intro access other hother
    exact hgrows.meets access other (h.met access other (hframe.items ▸ hother))
  · intro other hother
    exact h.outside other ((external_consume h.input_filter).1 hother)
  · intro other hother
    rw [produces_congr hframe.produced] at hother
    rw [hframe.items]
    exact h.written other hother
  · intro other hother
    rw [hframe.items]
    rcases mem_consume_consuming.1 hother with hother | ⟨rfl, -⟩
    · exact h.consumed other hother
    · exact hname
  · intro other hother
    rw [hframe.items]
    exact h.filtered other ((mem_consume_filter h.input_filter).1 hother).1
  · intro p hp
    rw [hframe.items]
    exact h.asked p (hframe.holds p hp)
  · intro other hother hfilter
    exact h.input_filter other (mem_consume_input.1 hother).1
      ((mem_consume_filter h.input_filter).1 hfilter).1
  · intro other hother hconsuming
    obtain ⟨hin, hne⟩ := mem_consume_input.1 hother
    rcases mem_consume_consuming.1 hconsuming with hc | ⟨heq, -⟩
    · exact h.input_consuming other hin hc
    · exact hne heq
  · intro other hother hconsuming
    obtain ⟨hfilter, hne⟩ := (mem_consume_filter h.input_filter).1 hother
    rcases mem_consume_consuming.1 hconsuming with hc | ⟨heq, -⟩
    · exact h.filter_consuming other hfilter hc
    · exact hne heq

/-- A waiting task, or one that has run, changes a name. -/
lemma modify (h : Sound collection stage aliases wanted waiting search)
    (hname : collection.Touched aliases (search.pipeline.items ++ waiting) .filters name) :
    Sound collection stage aliases wanted waiting (search.modify name) := by
  have hframe := reclassified_modify search name
  refine ⟨hframe.items ▸ h.schedule, hframe.items ▸ h.fresh, ?_, ?_, ?_, ?_, ?_, ?_, ?_, ?_, ?_,
    hframe.pipethrough.trans h.pipethrough, hframe.output.trans h.output,
    hframe.inner.trans h.inner⟩
  · intro access other hother
    exact grows_modify.meets access other (h.met access other (hframe.items ▸ hother))
  · intro other hother
    exact h.outside other (external_modify.1 hother)
  · intro other hother
    rw [produces_congr hframe.produced] at hother
    rw [hframe.items]
    exact h.written other hother
  · intro other hother
    rw [hframe.items]
    rw [modify_consuming] at hother
    exact h.consumed other hother
  · intro other hother
    rw [hframe.items]
    rcases mem_modify_filter.1 hother with hother | ⟨rfl, -⟩
    · exact h.filtered other hother
    · exact hname
  · intro p hp
    rw [hframe.items]
    exact h.asked p (hframe.holds p hp)
  · intro other hother hfilter
    obtain ⟨hin, hne⟩ := mem_modify_input.1 hother
    rcases mem_modify_filter.1 hfilter with hf | ⟨heq, -⟩
    · exact h.input_filter other hin hf
    · exact hne heq
  · intro other hother hconsuming
    rw [modify_consuming] at hconsuming
    exact h.input_consuming other (mem_modify_input.1 hother).1 hconsuming
  · intro other hother hconsuming
    rw [modify_consuming] at hconsuming
    rcases mem_modify_filter.1 hother with hf | ⟨rfl, hin⟩
    · exact h.filter_consuming other hf hconsuming
    · exact h.input_consuming other hin hconsuming

/-- A task whose needs are all met stops waiting and joins the schedule. -/
lemma finish (h : Sound collection stage aliases wanted (entry.key :: waiting) search)
    (hentry : entry ∈ collection.entries) (hstage : stage ∈ entry.stages)
    (hwaiting : entry.key ∉ waiting)
    (hneeds : ∀ access name, access ≠ .writes → entry.task.Touches aliases access name →
      search.Meets access name) :
    Sound collection stage aliases wanted waiting (search.finish aliases entry.key entry.task) := by
  have hitems : (search.finish aliases entry.key entry.task).pipeline.items = search.pipeline.items ++ [entry.key] := by
    rw [finish_pipeline]
  have hkeys : search.pipeline.items ++ entry.key :: waiting
      ⊆ (search.finish aliases entry.key entry.task).pipeline.items ++ waiting := by
    rw [hitems, List.append_assoc, List.singleton_append]
    exact List.Subset.refl _
  have hnew : entry.key ∉ search.pipeline.items := h.fresh _ List.mem_cons_self
  refine ⟨?_, ?_, ?_, ?_, ?_, ?_, ?_, ?_, ?_, ?_, ?_, ?_, ?_, ?_⟩
  · rw [hitems]
    exact h.schedule.snoc hentry hstage hnew fun access name haccess htouch =>
      h.written_or_outside (hneeds access name haccess htouch).reads
  · intro key hkey hmem
    rw [hitems, List.mem_append, List.mem_singleton] at hmem
    rcases hmem with hmem | rfl
    · exact h.fresh key (List.mem_cons_of_mem _ hkey) hmem
    · exact hwaiting hkey
  · intro access name htouch
    rw [hitems, TaskCollection.touched_append, TaskCollection.touched_singleton hentry] at htouch
    rcases htouch with htouch | htouch
    · exact grows_finish.meets access name (h.met access name htouch)
    · by_cases haccess : access = .writes
      · subst haccess
        exact produces_finish.2 (Or.inr htouch)
      · exact grows_finish.meets access name (hneeds access name haccess htouch)
  · intro name hname
    rw [external_finish] at hname
    exact h.outside name hname
  · intro name hname
    rw [hitems, TaskCollection.touched_append, TaskCollection.touched_singleton hentry]
    exact (produces_finish.1 hname).imp_left (h.written name)
  · intro name hname
    rw [finish_pipeline] at hname
    exact (h.consumed name hname).mono hkeys
  · intro name hname
    rw [finish_pipeline] at hname
    exact (h.filtered name hname).mono hkeys
  · rintro p hp
    simp only [Holds, finish_pipeline] at hp
    rcases hp with hp | hp | hp | hp
    · exact (h.asked p (Or.inl hp)).mono hkeys
    · exact (h.asked p (Or.inr (Or.inl hp))).mono hkeys
    · exact (h.asked p (Or.inr (Or.inr (Or.inl hp)))).mono hkeys
    · rcases mem_produced_of_finish hp with hp | ⟨q, hq, rfl⟩
      · exact (h.asked p (Or.inr (Or.inr (Or.inr hp)))).mono hkeys
      · refine Or.inr ⟨entry.key, hkeys ?_, entry.task, TaskCollection.task?_key hentry, .writes, q,
          hq, rfl⟩
        exact List.mem_append_right _ List.mem_cons_self
  · rw [finish_pipeline]
    exact h.input_filter
  · rw [finish_pipeline]
    exact h.input_consuming
  · rw [finish_pipeline]
    exact h.filter_consuming
  · rw [finish_pipeline]
    exact h.pipethrough
  · rw [finish_pipeline]
    exact h.output
  · rw [finish_pipeline]
    exact h.inner

/-- A task starts to wait for its needs. -/
lemma wait (h : Sound collection stage aliases wanted waiting search)
    (hnew : entry.key ∉ search.pipeline.items) :
    Sound collection stage aliases wanted (entry.key :: waiting) search := by
  have hkeys : search.pipeline.items ++ waiting ⊆ search.pipeline.items ++ entry.key :: waiting := by
    intro key hkey
    simp only [List.mem_append, List.mem_cons] at hkey ⊢
    tauto
  refine { h with fresh := ?_, consumed := ?_, filtered := ?_, asked := ?_ }
  · intro key hkey
    rcases List.mem_cons.1 hkey with rfl | hkey
    · exact hnew
    · exact h.fresh key hkey
  · exact fun name hname => (h.consumed name hname).mono hkeys
  · exact fun name hname => (h.filtered name hname).mono hkeys
  · exact fun p hp => (h.asked p hp).mono hkeys

end Search.Sound

/-! ## The search -/

namespace TaskCollection

/-- A search grew soundly and has dealt with a name. -/
structure Advance (collection : TaskCollection) (stage : Stage) (aliases : Aliases)
    (wanted : List Property) (waiting : List TaskKey) (search search' : Search) : Prop where
  sound : search'.Sound collection stage aliases wanted waiting
  grows : search.Grows search'

/-- All that a need can come to. -/
lemma need_cases {run : TaskEntry → String → Search → Except ResolveError Search}
    (h : collection.need stage aliases run property search = .ok search') :
    (search.Meets .reads property.name ∧ search' = search) ∨
    (∃ entry, collection.producer? stage aliases property.name = some entry ∧
      run entry property.name search = .ok search') ∨
    (¬ search.external property.name = true ∧ ¬ collection.Offers stage aliases property.name ∧
      search' = { search with pipeline := { search.pipeline with
        input := search.pipeline.input.insert property } }) := by
  unfold need at h
  split_ifs at h with hthere
  · obtain rfl := Except.ok.inj h
    rw [Bool.or_eq_true] at hthere
    exact Or.inl ⟨hthere, rfl⟩
  · rw [Bool.or_eq_true, not_or] at hthere
    split at h
    · next entry hproducer => exact Or.inr (Or.inl ⟨entry, hproducer, h⟩)
    · next hproducer =>
        obtain rfl := Except.ok.inj h
        exact Or.inr (Or.inr ⟨hthere.2, producer?_eq_none.1 hproducer, rfl⟩)

/-- A need is met soundly if the tasks it runs are run soundly. -/
lemma need_sound {run : TaskEntry → String → Search → Except ResolveError Search}
    (hrun : ∀ entry ∈ collection.entries, stage ∈ entry.stages → ∀ name search search',
      search.Sound collection stage aliases wanted waiting → run entry name search = .ok search' →
        Advance collection stage aliases wanted waiting search search' ∧
          entry.key ∈ search'.pipeline.items)
    (search search' : Search)
    (hasked : collection.Asked aliases wanted (search.pipeline.items ++ waiting) property)
    (hsound : search.Sound collection stage aliases wanted waiting)
    (h : collection.need stage aliases run property search = .ok search') :
    Advance collection stage aliases wanted waiting search search' ∧
      search'.Meets .reads property.name := by
  rcases need_cases h with ⟨hmet, rfl⟩ | ⟨entry, hproducer, hok⟩ | ⟨hnew, hnone, rfl⟩
  · exact ⟨⟨hsound, Search.Grows.refl _⟩, hmet⟩
  · obtain ⟨hentry, hstage, htouch⟩ := producer?_eq_some hproducer
    obtain ⟨hadvance, hkey⟩ := hrun entry hentry hstage _ _ _ hsound hok
    refine ⟨hadvance, Or.inl ?_⟩
    exact hadvance.sound.met .writes _ ⟨entry.key, hkey, entry.task, task?_key hentry, htouch⟩
  · refine ⟨⟨hsound.enter hnew hnone hasked, Search.grows_enter⟩, Or.inr ?_⟩
    exact Search.external_iff.2 (Or.inl (PropertyList.mem_names_insert.2 (Or.inr rfl)))

lemma Advance.trans {search'' : Search}
    (h : Advance collection stage aliases wanted waiting search search')
    (h' : Advance collection stage aliases wanted waiting search' search'') :
    Advance collection stage aliases wanted waiting search search'' :=
  ⟨h'.sound, h.grows.trans h'.grows⟩

/-- A loop over properties deals with every one of them if each round deals with its own. -/
lemma loop_sound {step : Search → Property → Except ResolveError Search}
    {properties : List Property} (access : Access)
    (hstep : ∀ p ∈ properties, ∀ search search',
      search.Sound collection stage aliases wanted waiting → step search p = .ok search' →
        Advance collection stage aliases wanted waiting search search' ∧
          search'.Meets access p.name)
    (hsound : search.Sound collection stage aliases wanted waiting)
    (h : properties.foldlM step search = .ok search') :
    Advance collection stage aliases wanted waiting search search' ∧
      ∀ p ∈ properties, search'.Meets access p.name := by
  refine (Outcome.steps_of_foldlM h).invariant
    (P := fun done current => Advance collection stage aliases wanted waiting search current ∧
      ∀ p ∈ done, current.Meets access p.name) ?_ ⟨⟨hsound, Search.Grows.refl _⟩, by simp⟩
  rintro done p s s' hfront ⟨hadvance, hmet⟩ hok
  have hp : p ∈ properties := hfront.subset (List.mem_append_right _ List.mem_cons_self)
  obtain ⟨hadvance', hmet'⟩ := hstep p hp s s' hadvance.sound hok
  refine ⟨hadvance.trans hadvance', ?_⟩
  intro q hq
  rcases List.mem_append.1 hq with hq | hq
  · exact hadvance'.grows.meets access q.name (hmet q hq)
  · rw [List.mem_singleton] at hq
    exact hq ▸ hmet'

/-- What a task lists under an access has been dealt with once the loop over that list is through. -/
lemma meets_of_touches {access : Access}
    (h : ∀ p ∈ (entry.task.lists.under access).entries.map aliases.chosen,
      search.Meets access p.name) (htouch : entry.task.Touches aliases access name) :
    search.Meets access name := by
  obtain ⟨p, hp, rfl⟩ := htouch
  exact h (aliases.chosen p) (List.mem_map_of_mem hp)

/-- What a waiting task lists counts as touched before the task is scheduled. -/
lemma touched_of_waiting (hentry : entry ∈ collection.entries) {access : Access} {p : Property}
    (hp : p ∈ (entry.task.lists.under access).entries.map aliases.chosen) (items : List TaskKey) :
    collection.Touched aliases (items ++ entry.key :: waiting) access p.name := by
  obtain ⟨q, hq, rfl⟩ := List.mem_map.1 hp
  exact ⟨entry.key, List.mem_append_right _ List.mem_cons_self, entry.task, task?_key hentry,
    q, hq, rfl⟩

lemma asked_of_waiting (hentry : entry ∈ collection.entries) {access : Access} {p : Property}
    (hp : p ∈ (entry.task.lists.under access).entries.map aliases.chosen) (items : List TaskKey) :
    collection.Asked aliases wanted (items ++ entry.key :: waiting) p := by
  obtain ⟨q, hq, rfl⟩ := List.mem_map.1 hp
  exact Or.inr ⟨entry.key, List.mem_append_right _ List.mem_cons_self, entry.task,
    task?_key hentry, access, q, hq, rfl⟩

/-- **Running a task keeps the invariant,** grows the search, and schedules the task.  The induction
is on the depth; the waiting tasks change from call to call. -/
theorem run_sound (depth : Nat) (waiting : List TaskKey) (entry : TaskEntry)
    (hentry : entry ∈ collection.entries) (hstage : stage ∈ entry.stages) (name : String)
    (search search' : Search) (hsound : search.Sound collection stage aliases wanted waiting)
    (h : collection.run stage aliases depth waiting entry name search = .ok search') :
    Advance collection stage aliases wanted waiting search search' ∧
      entry.key ∈ search'.pipeline.items := by
  induction depth generalizing waiting entry name search search' with
  | zero =>
      unfold run at h
      split_ifs at h with hdone hwaiting
      obtain rfl := Except.ok.inj h
      exact ⟨⟨hsound, Search.Grows.refl _⟩, hdone⟩
  | succ depth ih =>
      unfold run at h
      split_ifs at h with hdone hwaiting
      · obtain rfl := Except.ok.inj h
        exact ⟨⟨hsound, Search.Grows.refl _⟩, hdone⟩
      · obtain ⟨s₁, h₁, h⟩ := Outcome.of_bind h
        obtain ⟨s₂, h₂, h⟩ := Outcome.of_bind h
        obtain ⟨s₃, h₃, h⟩ := Outcome.of_bind h
        obtain rfl := Except.ok.inj h
        -- While its needs are met the task itself waits, so the invariant is that of a longer list.
        have hneed := fun access p
            (hp : p ∈ (entry.task.lists.under access).entries.map aliases.chosen) s s' => need_sound
          (fun e he hs n s s' => ih (entry.key :: waiting) e he hs n s s') s s'
          (asked_of_waiting hentry hp s.pipeline.items)
        obtain ⟨ha₁, hm₁⟩ := loop_sound .consumes (fun p hp s s' hs hok => by
          obtain ⟨t, hthere, hok⟩ := Outcome.of_bind hok
          obtain rfl := Except.ok.inj hok
          obtain ⟨hadvance, hmet⟩ := hneed .consumes p hp s t hs hthere
          refine ⟨⟨hadvance.sound.consume (touched_of_waiting hentry hp _),
            hadvance.grows.trans (Search.grows_consume _ hadvance.sound.input_filter)⟩,
            Search.meets_consume hmet⟩) (hsound.wait hdone) h₁
        obtain ⟨ha₂, hm₂⟩ := loop_sound .reads (fun p hp s s' hs hok =>
          hneed .reads p hp s s' hs hok) ha₁.sound h₂
        obtain ⟨ha₃, hm₃⟩ := loop_sound .filters (fun p hp s s' hs hok => by
          obtain ⟨t, hthere, hok⟩ := Outcome.of_bind hok
          obtain rfl := Except.ok.inj hok
          obtain ⟨hadvance, hmet⟩ := hneed .filters p hp s t hs hthere
          exact ⟨⟨hadvance.sound.modify (touched_of_waiting hentry hp _),
            hadvance.grows.trans Search.grows_modify⟩, Search.meets_modify hmet⟩) ha₂.sound h₃
        refine ⟨⟨ha₃.sound.finish hentry hstage hwaiting ?_,
          (((ha₁.trans ha₂).trans ha₃).grows).trans Search.grows_finish⟩, ?_⟩
        · intro access name haccess htouch
          cases access with
          | reads => exact ha₃.grows.meets _ _ (meets_of_touches hm₂ htouch)
          | consumes =>
              exact (ha₂.trans ha₃).grows.meets _ _ (meets_of_touches hm₁ htouch)
          | filters => exact meets_of_touches hm₃ htouch
          | writes => exact absurd rfl haccess
        · rw [Search.finish_pipeline]
          exact List.mem_append_right _ List.mem_cons_self

/-- A successful resolution is a sound search in which nothing waits and every desired property is
there, followed by the delivery of the desired properties. -/
theorem sound_of_resolve {desired : PropertyList} {pipeline : Pipeline}
    (h : collection.resolve stage desired aliases = .ok pipeline) :
    ∃ search : Search,
      search.Sound collection stage aliases (desired.entries.map aliases.chosen) [] ∧
      (∀ p ∈ desired.entries.map aliases.chosen, search.Meets .reads p.name) ∧
      pipeline = ((desired.entries.map aliases.chosen).foldl Search.deliver search).complete := by
  unfold resolve at h
  obtain ⟨search, hloop, h⟩ := Outcome.of_bind h
  obtain rfl := Except.ok.inj h
  obtain ⟨hadvance, hmet⟩ := loop_sound .reads (fun p hp s s' hs hok =>
    need_sound (fun entry hentry hstage name s s' => run_sound _ [] entry hentry hstage name s s')
      s s' (Or.inl hp) hs hok) Search.Sound.start hloop
  exact ⟨search, hadvance.sound, hmet, rfl⟩

lemma schedule_items {desired : PropertyList} {pipeline : Pipeline}
    (h : collection.resolve stage desired aliases = .ok pipeline) :
    collection.Schedule stage aliases pipeline.items := by
  obtain ⟨search, hsound, -, rfl⟩ := sound_of_resolve h
  have hitems := (Search.delivered_foldl (desired.entries.map aliases.chosen) search).items
  exact hitems ▸ hsound.schedule

/-- **A successful resolution schedules soundly.**  No task is repeated, every task is registered for
the stage, and whatever the task at a position reads, consumes or filters is output before that
position or by no task of the stage.  The same holds of the desired properties at the end, so a
schedule is never empty where a task of the stage outputs something desired. -/
theorem schedule_of_resolve (collection : TaskCollection) (stage : Stage) (desired : PropertyList)
    (aliases : Aliases) {pipeline : Pipeline}
    (h : collection.resolve stage desired aliases = .ok pipeline) :
    collection.Schedule stage aliases pipeline.items ∧
      ∀ p ∈ desired.entries,
        collection.Touched aliases pipeline.items .writes (aliases.choice p.name) ∨
          ¬ collection.Offers stage aliases (aliases.choice p.name) := by
  refine ⟨schedule_items h, ?_⟩
  intro p hp
  obtain ⟨search, hsound, hmet, rfl⟩ := sound_of_resolve h
  have hitems := (Search.delivered_foldl (desired.entries.map aliases.chosen) search).items
  have hthere := hmet (aliases.chosen p) (List.mem_map_of_mem hp)
  exact hitems ▸ hsound.written_or_outside hthere

/-- Three tasks of a fragment stage: the first needs what the other two output, and the second
outputs more than one property. -/
def shading : TaskCollection :=
  ((empty.register
    (.call "shade" { inputs := .ofList [⟨"normal", .vec4⟩, ⟨"base", .vec4⟩]
                     outputs := .ofList [⟨"color", .vec4⟩] }) [.fragment]).register
    (.call "paint" { filters := .ofList [⟨"tint", .vec4⟩]
                     outputs := .ofList [⟨"albedo", .vec4⟩, ⟨"mask", .vec4⟩] }) [.fragment]).register
    (.call "bump" { consuming := .ofList [⟨"height", .vec4⟩]
                    inputs := .ofList [⟨"mask", .vec4⟩]
                    outputs := .ofList [⟨"normal", .vec4⟩] }) [.fragment]

/-- The task that was registered first runs last. -/
theorem schedule_of_resolve_shading :
    ∃ pipeline,
      shading.resolve .fragment (.ofList [⟨"color", .vec4⟩, ⟨"depth", .vec4⟩])
        (.ofList [("base", "albedo")]) = .ok pipeline ∧
      pipeline.items = [⟨2, 1⟩, ⟨3, 1⟩, ⟨1, 1⟩] ∧
      shading.Schedule .fragment (.ofList [("base", "albedo")]) pipeline.items :=
  ⟨_, rfl, rfl, (schedule_of_resolve shading .fragment
    (.ofList [⟨"color", .vec4⟩, ⟨"depth", .vec4⟩]) (.ofList [("base", "albedo")]) rfl).1⟩

end TaskCollection

end ShaderWeave
