import ShaderWeave.Proofs.Requirements

/-!
# Who supplies a name

A needed name is looked for among the tasks in the order of their registration, but only when no
task that has run outputs it.  A task with several outputs can therefore supply a name in passing,
before anybody looks for it, although another task was registered for it first: a *rival*
(`TaskCollection.Rival`).

* `TaskCollection.called_of_resolve` — every scheduled task was called for a needed name of which it
  is the first producer.
* `TaskCollection.sole_supplier_iff` — **the first producer of a needed name is its one and only
  supplier exactly if no rival is scheduled,** and where the first producer is not scheduled a rival
  is.
* `TaskCollection.not_forall_first_scheduled` — with a rival it is the order of the desired
  properties that decides.
-/

namespace ShaderWeave.TaskCollection

section Supply

variable (collection : TaskCollection) (stage : Stage) (aliases : Aliases) (desired : PropertyList)
  (items : List TaskKey) (name : String)

/-- A name is needed: it is desired, or some task among the keys reads, consumes or filters it. -/
def Needed : Prop :=
  Desired aliases desired name ∨
    ∃ access, access ≠ .writes ∧ collection.Touched aliases items access name

/-- A scheduled task outputs a name. -/
def Supplies (key : TaskKey) : Prop :=
  key ∈ items ∧ ∃ task, collection.task? key = some task ∧ task.Touches aliases .writes name

/-- A task is called for a needed name: it is the first that outputs it. -/
def CalledFor (entry : TaskEntry) : Prop :=
  collection.Needed aliases desired items name ∧
    collection.producer? stage aliases name = some entry

/-- **A rival for a name:** a scheduled task that outputs it and is not the first to do so.  It is
there because it was called for another name. -/
structure Rival (rival : TaskEntry) : Prop where
  supplies : collection.Supplies aliases items name rival.key
  later : collection.producer? stage aliases name ≠ some rival
  called : ∃ other, other ≠ name ∧ collection.CalledFor stage aliases desired items other rival

/-- Each of the tasks was called for a name that is needed among them. -/
def Called (keys : List TaskKey) : Prop :=
  ∀ key ∈ keys, ∃ name entry,
    entry.key = key ∧ collection.CalledFor stage aliases desired keys name entry

end Supply

variable {collection : TaskCollection} {stage : Stage} {aliases : Aliases} {desired : PropertyList}
  {entry first : TaskEntry} {name : String} {items keys keys' waiting : List TaskKey}
  {pipeline : Pipeline}

/-! ## Tasks that were called -/

lemma Needed.mono (hkeys : keys ⊆ keys') (h : collection.Needed aliases desired keys name) :
    collection.Needed aliases desired keys' name := by
  rcases h with h | ⟨access, haccess, h⟩
  · exact Or.inl h
  · exact Or.inr ⟨access, haccess, h.mono hkeys⟩

lemma CalledFor.mono (hkeys : keys ⊆ keys')
    (h : collection.CalledFor stage aliases desired keys name entry) :
    collection.CalledFor stage aliases desired keys' name entry :=
  ⟨h.1.mono hkeys, h.2⟩

/-- A task is added that is called for a name needed by then. -/
lemma Called.add (h : collection.Called stage aliases desired keys) (hkeys : keys ⊆ keys')
    (hnew : ∀ key ∈ keys', key ∈ keys ∨ key = entry.key)
    (hcalled : collection.CalledFor stage aliases desired keys name entry) :
    collection.Called stage aliases desired keys' := by
  intro key hkey
  rcases hnew key hkey with hold | rfl
  · obtain ⟨other, found, hfound, hother⟩ := h key hold
    exact ⟨other, found, hfound, hother.mono hkeys⟩
  · exact ⟨name, entry, rfl, hcalled.mono hkeys⟩

/-- What a waiting task lists is needed. -/
lemma needed_of_waiting (hentry : entry ∈ collection.entries) {access : Access}
    (haccess : access ≠ .writes) {p : Property}
    (hp : p ∈ (entry.task.lists.under access).entries.map aliases.chosen) (items : List TaskKey) :
    collection.Needed aliases desired (items ++ entry.key :: waiting) p.name :=
  Or.inr ⟨access, haccess, touched_of_waiting hentry hp items⟩

/-- A need keeps what the task that it runs keeps. -/
lemma need_called {run : TaskEntry → String → Search → Except ResolveError Search} {p : Property}
    {search search' : Search}
    (hrun : ∀ producer, collection.producer? stage aliases p.name = some producer →
      run producer p.name search = .ok search' →
        collection.Called stage aliases desired (search'.pipeline.items ++ waiting))
    (hcalled : collection.Called stage aliases desired (search.pipeline.items ++ waiting))
    (h : collection.need stage aliases run p search = .ok search') :
    collection.Called stage aliases desired (search'.pipeline.items ++ waiting) := by
  rcases need_cases h with ⟨-, rfl⟩ | ⟨producer, hproducer, hok⟩ | ⟨-, -, rfl⟩
  · exact hcalled
  · exact hrun producer hproducer hok
  · exact hcalled

/-- A loop keeps what its rounds keep. -/
lemma loop_called {step : Search → Property → Except ResolveError Search}
    {properties : List Property} {search search' : Search}
    (hstep : ∀ p ∈ properties, ∀ s s',
      collection.Called stage aliases desired (s.pipeline.items ++ waiting) → step s p = .ok s' →
        collection.Called stage aliases desired (s'.pipeline.items ++ waiting))
    (hcalled : collection.Called stage aliases desired (search.pipeline.items ++ waiting))
    (h : properties.foldlM step search = .ok search') :
    collection.Called stage aliases desired (search'.pipeline.items ++ waiting) := by
  refine (Outcome.steps_of_foldlM h).invariant
    (P := fun _ s => collection.Called stage aliases desired (s.pipeline.items ++ waiting)) ?_ hcalled
  intro done p s s' hfront hs hok
  exact hstep p (hfront.subset (List.mem_append_right _ List.mem_cons_self)) s s' hs hok

/-- **Only tasks that are called for a needed name run.**  The induction is on the depth.  A task that
waits for its needs counts already, because its needs are what the next tasks are called for. -/
lemma run_called (depth : Nat) (waiting : List TaskKey) (entry : TaskEntry) (name : String)
    (search search' : Search)
    (hentry : collection.CalledFor stage aliases desired (search.pipeline.items ++ waiting) name
      entry)
    (hcalled : collection.Called stage aliases desired (search.pipeline.items ++ waiting))
    (h : collection.run stage aliases depth waiting entry name search = .ok search') :
    collection.Called stage aliases desired (search'.pipeline.items ++ waiting) := by
  induction depth generalizing waiting entry name search search' with
  | zero =>
      unfold run at h
      split_ifs at h
      obtain rfl := Except.ok.inj h
      exact hcalled
  | succ depth ih =>
      unfold run at h
      split_ifs at h with hdone hwaits
      · obtain rfl := Except.ok.inj h
        exact hcalled
      · obtain ⟨s₁, h₁, h⟩ := Outcome.of_bind h
        obtain ⟨s₂, h₂, h⟩ := Outcome.of_bind h
        obtain ⟨s₃, h₃, h⟩ := Outcome.of_bind h
        obtain rfl := Except.ok.inj h
        have hmem : entry ∈ collection.entries := (producer?_eq_some hentry.2).1
        have hneed : ∀ access, access ≠ .writes →
            ∀ p ∈ (entry.task.lists.under access).entries.map aliases.chosen, ∀ s s',
              collection.Called stage aliases desired (s.pipeline.items ++ entry.key :: waiting) →
              collection.need stage aliases
                (collection.run stage aliases depth (entry.key :: waiting)) p s = .ok s' →
              collection.Called stage aliases desired
                (s'.pipeline.items ++ entry.key :: waiting) := by
          intro access haccess p hp s s' hs hok
          refine need_called (fun producer hproducer hrun => ?_) hs hok
          exact ih _ producer p.name s s'
            ⟨needed_of_waiting hmem haccess hp s.pipeline.items, hproducer⟩ hs hrun
        have hwait : collection.Called stage aliases desired
            (search.pipeline.items ++ entry.key :: waiting) := by
          refine hcalled.add ?_ ?_ hentry
          · intro key hkey
            simp only [List.mem_append, List.mem_cons] at hkey ⊢
            tauto
          · intro key hkey
            simp only [List.mem_append, List.mem_cons] at hkey ⊢
            tauto
        have hs₁ := loop_called (fun p hp s s' hs hok => by
          obtain ⟨t, hthere, hok⟩ := Outcome.of_bind hok
          obtain rfl := Except.ok.inj hok
          rw [(Search.reclassified_consume t p.name).items]
          exact hneed .consumes (by decide) p hp s t hs hthere) hwait h₁
        have hs₂ := loop_called (hneed .reads (by decide)) hs₁ h₂
        have hs₃ := loop_called (fun p hp s s' hs hok => by
          obtain ⟨t, hthere, hok⟩ := Outcome.of_bind hok
          obtain rfl := Except.ok.inj hok
          rw [(Search.reclassified_modify t p.name).items]
          exact hneed .filters (by decide) p hp s t hs hthere) hs₂ h₃
        rw [Search.finish_pipeline, List.append_assoc, List.singleton_append]
        exact hs₃

/-- **Every scheduled task was called for a needed name.** -/
lemma called_of_resolve (h : collection.resolve stage desired aliases = .ok pipeline) :
    collection.Called stage aliases desired pipeline.items := by
  unfold resolve at h
  obtain ⟨search, hloop, h⟩ := Outcome.of_bind h
  obtain rfl := Except.ok.inj h
  have hcalled : collection.Called stage aliases desired (search.pipeline.items ++ []) := by
    refine loop_called (fun p hp s s' hs hok => ?_) ?_ hloop
    · refine need_called (fun producer hproducer hrun => ?_) hs hok
      obtain ⟨q, hq, rfl⟩ := List.mem_map.1 hp
      exact run_called _ [] producer _ s s' ⟨Or.inl ⟨q, hq, rfl⟩, hproducer⟩ hs hrun
    · intro key hkey
      simp [Search.start] at hkey
  rw [List.append_nil] at hcalled
  have hitems := (Search.delivered_foldl (desired.entries.map aliases.chosen) search).items
  exact hitems ▸ hcalled

/-! ## Suppliers -/

/-- A needed name that some task of the stage outputs has a supplier. -/
lemma exists_supplier (h : collection.resolve stage desired aliases = .ok pipeline)
    (hneeded : collection.Needed aliases desired pipeline.items name)
    (hoffers : collection.Offers stage aliases name) :
    ∃ key, collection.Supplies aliases pipeline.items name key := by
  rcases hneeded with hdesired | ⟨access, haccess, key, hkey, task, htask, htouch⟩
  · rcases output_or_outside_of_desired h hdesired with ⟨key, hkey, rest⟩ | hnone
    · exact ⟨key, hkey, rest⟩
    · exact absurd hoffers hnone
  · obtain ⟨i, hi⟩ := List.mem_iff_getElem?.1 hkey
    rcases (schedule_items h).ready i key task access name hi htask haccess htouch with
      ⟨j, key', task', -, hj, htask', hwrites⟩ | hnone
    · exact ⟨key', List.mem_of_getElem? hj, task', htask', hwrites⟩
    · exact absurd hoffers hnone

/-- A supplier is the first producer or a rival. -/
lemma Supplies.first_or_rival (hcalled : collection.Called stage aliases desired items)
    {key : TaskKey} (h : collection.Supplies aliases items name key)
    (hfirst : collection.producer? stage aliases name = some first) :
    key = first.key ∨
      ∃ rival, rival.key = key ∧ collection.Rival stage aliases desired items name rival := by
  obtain ⟨other, entry, rfl, hother⟩ := hcalled key h.1
  by_cases hsame : collection.producer? stage aliases name = some entry
  · rw [hfirst, Option.some.injEq] at hsame
    exact Or.inl (by rw [hsame])
  · refine Or.inr ⟨entry, rfl, h, hsame, other, ?_, hother⟩
    rintro rfl
    exact hsame hother.2

/-- **When the first producer supplies a name alone.**  The first producer of a name is told by the
collection, whatever is desired.  Take any desired properties for which the stage is resolved so that
the name is desired or a scheduled task needs it.  The first producer is then the one task that
outputs the name exactly if no rival is scheduled.  If the first producer is not scheduled at all, a
rival is: a task that outputs the name too, and was called for another needed name of which it is the
first producer. -/
theorem sole_supplier_iff (collection : TaskCollection) (stage : Stage) (aliases : Aliases)
    (name : String) {first : TaskEntry}
    (hfirst : collection.producer? stage aliases name = some first) (desired : PropertyList)
    {pipeline : Pipeline} (h : collection.resolve stage desired aliases = .ok pipeline)
    (hneeded : collection.Needed aliases desired pipeline.items name) :
    ((∀ key, collection.Supplies aliases pipeline.items name key ↔ key = first.key) ↔
      ∀ rival, ¬ collection.Rival stage aliases desired pipeline.items name rival) ∧
    (first.key ∈ pipeline.items ∨
      ∃ rival, collection.Rival stage aliases desired pipeline.items name rival) := by
  have hcalled := called_of_resolve h
  obtain ⟨hentry, hstage, hwrites⟩ := producer?_eq_some hfirst
  obtain ⟨key, hkey⟩ := exists_supplier h hneeded ⟨first, hentry, hstage, hwrites⟩
  refine ⟨⟨?_, ?_⟩, ?_⟩
  · intro hsole rival hrival
    obtain ⟨other, -, -, hother⟩ := hrival.called
    have heq := (hsole rival.key).1 hrival.supplies
    obtain rfl := eq_of_key_eq (producer?_eq_some hother).1 hentry heq
    exact hrival.later hfirst
  · intro hnone
    have hsame : ∀ key, collection.Supplies aliases pipeline.items name key → key = first.key := by
      intro key hkey
      rcases hkey.first_or_rival hcalled hfirst with heq | ⟨rival, -, hrival⟩
      · exact heq
      · exact absurd hrival (hnone rival)
    refine fun other => ⟨hsame other, ?_⟩
    rintro rfl
    exact hsame key hkey ▸ hkey
  · rcases hkey.first_or_rival hcalled hfirst with rfl | ⟨rival, -, hrival⟩
    · exact Or.inl hkey.1
    · exact Or.inr ⟨rival, hrival⟩

/-- The first task makes a color, the second one too, and a glow beside it. -/
def glowing : TaskCollection :=
  (empty.register (.call "tint" { outputs := .ofList [⟨"color", .vec4⟩] }) [.fragment]).register
    (.call "shine" { outputs := .ofList [⟨"color", .vec4⟩, ⟨"glow", .vec4⟩] }) [.fragment]

/-- Asked for the glow first, the stage has the second task alone, which is a rival for the color. -/
theorem sole_supplier_iff_glowing :
    ∃ first pipeline,
      glowing.producer? .fragment .empty "color" = some first ∧ first.key = ⟨1, 1⟩ ∧
      glowing.resolve .fragment (.ofList [⟨"glow", .vec4⟩, ⟨"color", .vec4⟩]) .empty
        = .ok pipeline ∧
      pipeline.items = [⟨2, 1⟩] ∧
      ((∀ key, glowing.Supplies .empty pipeline.items "color" key ↔ key = first.key) ↔
        ∀ rival, ¬ glowing.Rival .fragment .empty
          (.ofList [⟨"glow", .vec4⟩, ⟨"color", .vec4⟩]) pipeline.items "color" rival) ∧
      ∃ rival, glowing.Rival .fragment .empty
        (.ofList [⟨"glow", .vec4⟩, ⟨"color", .vec4⟩]) pipeline.items "color" rival := by
  obtain ⟨hsole, hrival⟩ := sole_supplier_iff glowing .fragment .empty "color" rfl
    (.ofList [⟨"glow", .vec4⟩, ⟨"color", .vec4⟩]) rfl
    (Or.inl ⟨⟨"color", .vec4⟩, by decide, rfl⟩)
  exact ⟨_, _, rfl, rfl, rfl, rfl, hsole, hrival.resolve_left (by decide)⟩

/-- **The first producer of a needed name need not be scheduled,** and who supplies the name can
depend on the order of the desired properties.  Asked for the color first, the stage has both
tasks. -/
theorem not_forall_first_scheduled :
    (¬ ∀ (collection : TaskCollection) (stage : Stage) (aliases : Aliases) (desired : PropertyList)
      (pipeline : Pipeline) (name : String) (first : TaskEntry),
      collection.resolve stage desired aliases = .ok pipeline →
      collection.Needed aliases desired pipeline.items name →
      collection.producer? stage aliases name = some first → first.key ∈ pipeline.items) ∧
    ∃ pipeline pipeline',
      glowing.resolve .fragment (.ofList [⟨"glow", .vec4⟩, ⟨"color", .vec4⟩]) .empty
        = .ok pipeline ∧
      glowing.resolve .fragment (.ofList [⟨"color", .vec4⟩, ⟨"glow", .vec4⟩]) .empty
        = .ok pipeline' ∧
      pipeline.items = [⟨2, 1⟩] ∧ pipeline'.items = [⟨1, 1⟩, ⟨2, 1⟩] := by
  refine ⟨fun hall => ?_, _, _, rfl, rfl, rfl, rfl⟩
  have hmem := hall glowing .fragment .empty (.ofList [⟨"glow", .vec4⟩, ⟨"color", .vec4⟩]) _ "color" _
    rfl (Or.inl ⟨⟨"color", .vec4⟩, by decide, rfl⟩) rfl
  exact absurd hmem (by decide)

end ShaderWeave.TaskCollection
