import Mathlib.Data.List.Pairwise
import Mathlib.Data.List.Perm.Subperm
import Mathlib.Logic.Relation
import ShaderWeave.Proofs.Classes

/-!
# Requirements of a stage

A task depends on the producers of the names that it reads, consumes or filters
(`TaskCollection.Depends`), and a stage requires the tasks that its desired names lead to
(`TaskCollection.Required`).  Resolution is a depth-first search of this graph.

**Every error is a cycle.**  The waiting tasks of a search lead to the task at hand
(`TaskCollection.Led`), so a task that waits already leads to itself: `cyclic_of_run`.  The bound on
the depth never decides anything, because no more tasks can wait than there are
(`run_eq_of_le`).

**Every success is acyclic.**  Where no two tasks of the stage output one name, each dependency of a
scheduled task stands before it (`depends_before`).

**Order does not matter.**  Which tasks are scheduled, and hence where names belong, is thus told by
the graph alone: `TaskCollection.resolve_iff_acyclic`.
-/

namespace ShaderWeave.TaskCollection

open Relation

/-! ## The graph -/

section Graph

variable (collection : TaskCollection) (stage : Stage) (aliases : Aliases)

/-- A task depends on the producer of each name that it reads, consumes or filters. -/
def Depends (entry entry' : TaskEntry) : Prop :=
  ∃ access name, access ≠ .writes ∧ entry.task.Touches aliases access name ∧
    collection.producer? stage aliases name = some entry'

/-- The desired names lead to a task: it produces one of them, or something that leads to it does. -/
def Required (desired : PropertyList) (entry : TaskEntry) : Prop :=
  ∃ name root, Desired aliases desired name ∧
    collection.producer? stage aliases name = some root ∧
    ReflTransGen (collection.Depends stage aliases) root entry

/-- Some required task depends, through others or directly, on itself. -/
def Cyclic (desired : PropertyList) : Prop :=
  ∃ entry, collection.Required stage aliases desired entry ∧
    TransGen (collection.Depends stage aliases) entry entry

/-- The tasks in the order of their registration, each with its stages.  Keys are left out. -/
def registrations : List (List Stage × Task) :=
  collection.entries.map fun entry => (entry.stages, entry.task)

/-- Two registrations output no name together in the stage. -/
def Apart (first second : List Stage × Task) : Prop :=
  stage ∈ first.1 → stage ∈ second.1 →
    ∀ name, first.2.Touches aliases .writes name → ¬ second.2.Touches aliases .writes name

/-- No two tasks registered for the stage output the same name. -/
def Exclusive : Prop := collection.registrations.Pairwise (Apart stage aliases)

/-- The same tasks for the same stages, registered in another order. -/
def Reordered (collection collection' : TaskCollection) : Prop :=
  collection.registrations.Perm collection'.registrations

/-- The tasks behind some keys. -/
def tasks (items : List TaskKey) : List Task := items.filterMap collection.task?

end Graph

variable {collection collection' : TaskCollection} {stage : Stage} {aliases : Aliases}
  {desired desired' : PropertyList} {entry entry' root : TaskEntry} {name : String}
  {items : List TaskKey} {pipeline pipeline' : Pipeline}

instance : Std.Symm (Apart stage aliases) :=
  ⟨fun _ _ h hsecond hfirst name hwrites' hwrites => h hfirst hsecond name hwrites hwrites'⟩

lemma apart_iff {first second : List Stage × Task} : Apart stage aliases first second ↔
    (stage ∈ first.1 → stage ∈ second.1 → ∀ p ∈ first.2.lists.outputs.entries,
      ∀ q ∈ second.2.lists.outputs.entries, aliases.choice q.name ≠ aliases.choice p.name) := by
  constructor
  · intro h hfirst hsecond p hp q hq heq
    exact h hfirst hsecond _ ⟨p, hp, rfl⟩ ⟨q, hq, heq⟩
  · rintro h hfirst hsecond _ ⟨p, hp, rfl⟩ ⟨q, hq, heq⟩
    exact h hfirst hsecond p hp q hq heq

instance (first second : List Stage × Task) : Decidable (Apart stage aliases first second) :=
  decidable_of_iff _ apart_iff.symm

instance : Decidable (collection.Exclusive stage aliases) :=
  inferInstanceAs (Decidable (collection.registrations.Pairwise (Apart stage aliases)))

lemma Required.tail (h : collection.Required stage aliases desired entry)
    (hdepends : collection.Depends stage aliases entry entry') :
    collection.Required stage aliases desired entry' := by
  obtain ⟨name, root, hdesired, hroot, hpath⟩ := h
  exact ⟨name, root, hdesired, hroot, hpath.tail hdepends⟩

/-- A required task is the producer of some name. -/
lemma Required.produces (h : collection.Required stage aliases desired entry) :
    ∃ name, collection.producer? stage aliases name = some entry := by
  obtain ⟨name, root, -, hroot, hpath⟩ := h
  cases hpath with
  | refl => exact ⟨name, hroot⟩
  | tail _ hlast =>
      obtain ⟨_, name', -, -, hproducer⟩ := hlast
      exact ⟨name', hproducer⟩

lemma Required.mem (h : collection.Required stage aliases desired entry) :
    entry ∈ collection.entries := by
  obtain ⟨name, hproducer⟩ := h.produces
  exact (producer?_eq_some hproducer).1

/-! ## Waiting tasks -/

/-- Tasks can wait together: they are distinct tasks of the collection. -/
structure Waits (collection : TaskCollection) (waiting : List TaskKey) : Prop where
  nodup : waiting.Nodup
  registered : ∀ key ∈ waiting, ∃ before ∈ collection.entries, before.key = key

lemma Waits.nil : Waits collection [] := ⟨List.nodup_nil, by simp⟩

lemma Waits.cons {waiting : List TaskKey} (h : Waits collection waiting)
    (hentry : entry ∈ collection.entries) (hnew : entry.key ∉ waiting) :
    Waits collection (entry.key :: waiting) := by
  refine ⟨List.nodup_cons.2 ⟨hnew, h.nodup⟩, ?_⟩
  intro key hkey
  rcases List.mem_cons.1 hkey with rfl | hkey
  · exact ⟨entry, hentry, rfl⟩
  · exact h.registered key hkey

/-- When as many tasks wait as there are, every task waits. -/
lemma Waits.mem_of_size_le {waiting : List TaskKey} (h : Waits collection waiting)
    (hlong : collection.size ≤ waiting.length) (hentry : entry ∈ collection.entries) :
    entry.key ∈ waiting := by
  by_contra hnot
  have hwaits := h.cons hentry hnot
  have hsub : (entry.key :: waiting) ⊆ collection.entries.map TaskEntry.key := by
    intro key hkey
    obtain ⟨before, hbefore, rfl⟩ := hwaits.registered key hkey
    exact List.mem_map_of_mem hbefore
  have hlen := (List.subperm_of_subset hwaits.nodup hsub).length_le
  have hsize : collection.size = collection.entries.length := rfl
  simp only [List.length_cons, List.length_map] at hlen
  omega

/-! ## The bound on the depth -/

/-- The pipeline that yields the desired properties, with a bound of its own on the depth of the
search. -/
def resolveWithin (collection : TaskCollection) (depth : Nat) (stage : Stage)
    (desired : PropertyList) (aliases : Aliases) : Except ResolveError Pipeline := do
  let wanted := desired.entries.map aliases.chosen
  let need := collection.need stage aliases (collection.run stage aliases depth [])
  let search ← wanted.foldlM (fun search p => need p search) Search.start
  return (wanted.foldl Search.deliver search).complete

/-- Needs agree where the runs of registered tasks do. -/
lemma need_congr {run run' : TaskEntry → String → Search → Except ResolveError Search}
    (h : ∀ entry ∈ collection.entries, ∀ name search, run entry name search = run' entry name search) :
    collection.need stage aliases run = collection.need stage aliases run' := by
  funext p search
  unfold need
  split
  · rfl
  · cases hproducer : collection.producer? stage aliases p.name with
    | none => rfl
    | some producer => exact h producer (producer?_eq_some hproducer).1 p.name search

/-- **A deeper bound changes nothing** once there is room for every task to wait. -/
lemma run_eq_of_le (depth depth' : Nat) (waiting : List TaskKey) (entry : TaskEntry)
    (hentry : entry ∈ collection.entries) (name : String) (search : Search)
    (hwaits : Waits collection waiting) (hdepth : collection.size ≤ depth + waiting.length)
    (hle : depth ≤ depth') :
    collection.run stage aliases depth' waiting entry name search
      = collection.run stage aliases depth waiting entry name search := by
  induction depth generalizing depth' waiting entry name search with
  | zero =>
      have hkey : entry.key ∈ waiting := hwaits.mem_of_size_le (by omega) hentry
      unfold run
      simp only [if_pos hkey]
  | succ depth ih =>
      obtain ⟨depth', rfl⟩ : ∃ d, depth' = d + 1 := ⟨depth' - 1, by omega⟩
      unfold run
      by_cases hkey : entry.key ∈ waiting
      · simp only [if_pos hkey]
      · have hlong : collection.size ≤ depth + (entry.key :: waiting).length := by
          simp only [List.length_cons]
          omega
        have hneed : collection.need stage aliases
              (collection.run stage aliases depth' (entry.key :: waiting))
            = collection.need stage aliases
              (collection.run stage aliases depth (entry.key :: waiting)) :=
          need_congr fun other hother name search => ih depth' _ other hother name search
            (hwaits.cons hentry hkey) hlong (by omega)
        simp only [hneed]

lemma resolveWithin_eq {depth : Nat} (hdepth : collection.size ≤ depth) :
    collection.resolveWithin depth stage desired aliases
      = collection.resolve stage desired aliases := by
  have hneed : collection.need stage aliases (collection.run stage aliases depth [])
      = collection.need stage aliases (collection.run stage aliases collection.size []) :=
    need_congr fun entry hentry name search =>
      run_eq_of_le collection.size depth [] entry hentry name search Waits.nil (by simp) hdepth
  unfold resolveWithin resolve
  simp only [hneed]

/-! ## Errors are cycles -/

/-- The waiting tasks, each of which leads to the task at hand. -/
structure Led (collection : TaskCollection) (stage : Stage) (aliases : Aliases)
    (waiting : List TaskKey) (entry : TaskEntry) : Prop where
  waits : Waits collection waiting
  leads : ∀ before ∈ collection.entries, before.key ∈ waiting →
    TransGen (collection.Depends stage aliases) before entry

lemma Led.nil : Led collection stage aliases [] entry :=
  ⟨Waits.nil, by simp⟩

/-- A task with a need starts to wait, and leads to the task that it depends on. -/
lemma Led.cons {waiting : List TaskKey} (h : Led collection stage aliases waiting entry)
    (hentry : entry ∈ collection.entries) (hnew : entry.key ∉ waiting)
    (hdepends : collection.Depends stage aliases entry entry') :
    Led collection stage aliases (entry.key :: waiting) entry' := by
  refine ⟨h.waits.cons hentry hnew, ?_⟩
  intro before hbefore hkey
  rcases List.mem_cons.1 hkey with hkey | hkey
  · obtain rfl := eq_of_key_eq hbefore hentry hkey
    exact TransGen.single hdepends
  · exact (h.leads before hbefore hkey).tail hdepends

/-- A task that waits already closes a cycle. -/
lemma Led.cyclic {waiting : List TaskKey} (h : Led collection stage aliases waiting entry)
    (hrequired : collection.Required stage aliases desired entry) (hkey : entry.key ∈ waiting) :
    collection.Cyclic stage aliases desired :=
  ⟨entry, hrequired, h.leads entry hrequired.mem hkey⟩

/-- A need fails only where the task that it runs fails. -/
lemma need_error {run : TaskEntry → String → Search → Except ResolveError Search}
    {property : Property} {search : Search} {error : ResolveError}
    (h : collection.need stage aliases run property search = .error error) :
    ∃ producer, collection.producer? stage aliases property.name = some producer ∧
      run producer property.name search = .error error := by
  unfold need at h
  split_ifs at h
  split at h
  · next producer hproducer => exact ⟨producer, hproducer, h⟩
  · cases h

/-- What a task needs, it depends on. -/
lemma depends_of_mem {access : Access} {p : Property} (haccess : access ≠ .writes)
    (hp : p ∈ (entry.task.lists.under access).entries.map aliases.chosen)
    (hproducer : collection.producer? stage aliases p.name = some entry') :
    collection.Depends stage aliases entry entry' := by
  obtain ⟨q, hq, rfl⟩ := List.mem_map.1 hp
  exact ⟨access, _, haccess, ⟨q, hq, rfl⟩, hproducer⟩

/-- **A task that fails to run leads into a cycle.**  The induction is on the depth; the waiting tasks
are the path that led here, so the task that is met again closes it. -/
lemma cyclic_of_run (depth : Nat) (waiting : List TaskKey) (entry : TaskEntry) (name : String)
    (search : Search) {error : ResolveError}
    (hrequired : collection.Required stage aliases desired entry)
    (hled : Led collection stage aliases waiting entry)
    (hdepth : collection.size ≤ depth + waiting.length)
    (h : collection.run stage aliases depth waiting entry name search = .error error) :
    collection.Cyclic stage aliases desired ∧ ∃ task property, error = .cycle task property := by
  induction depth generalizing waiting entry name search with
  | zero =>
      have hwaits : entry.key ∈ waiting := hled.waits.mem_of_size_le (by omega) hrequired.mem
      unfold run at h
      rw [if_pos hwaits] at h
      split_ifs at h
      cases h
      exact ⟨hled.cyclic hrequired hwaits, _, _, rfl⟩
  | succ depth ih =>
      unfold run at h
      split_ifs at h with hdone hwaits
      · cases h
        exact ⟨hled.cyclic hrequired hwaits, _, _, rfl⟩
      · -- Whichever loop fails, it fails at a need of this task, one step further along the path.
        have hneed : ∀ (access : Access) (p : Property) (s : Search), access ≠ .writes →
            p ∈ (entry.task.lists.under access).entries.map aliases.chosen →
            collection.need stage aliases
              (collection.run stage aliases depth (entry.key :: waiting)) p s = .error error →
            collection.Cyclic stage aliases desired ∧
              ∃ task property, error = .cycle task property := by
          intro access p s haccess hp hfail
          obtain ⟨producer, hproducer, hrun⟩ := need_error hfail
          have hdepends := depends_of_mem haccess hp hproducer
          have hlong : collection.size ≤ depth + (entry.key :: waiting).length := by
            simp only [List.length_cons]
            omega
          exact ih _ producer p.name s (hrequired.tail hdepends)
            (hled.cons hrequired.mem hwaits hdepends) hlong hrun
        rcases Outcome.of_bind_error h with h | ⟨s₁, -, h⟩
        · obtain ⟨p, hp, s, hfail⟩ := Outcome.of_foldlM_error h
          rcases Outcome.of_bind_error hfail with hfail | ⟨_, -, hfail⟩
          · exact hneed .consumes p s (by decide) hp hfail
          · cases hfail
        rcases Outcome.of_bind_error h with h | ⟨s₂, -, h⟩
        · obtain ⟨p, hp, s, hfail⟩ := Outcome.of_foldlM_error h
          exact hneed .reads p s (by decide) hp hfail
        rcases Outcome.of_bind_error h with h | ⟨s₃, -, h⟩
        · obtain ⟨p, hp, s, hfail⟩ := Outcome.of_foldlM_error h
          rcases Outcome.of_bind_error hfail with hfail | ⟨_, -, hfail⟩
          · exact hneed .filters p s (by decide) hp hfail
          · cases hfail
        · cases h

/-! ## Only required tasks run -/

/-- Every task that has run is required. -/
def Grounded (collection : TaskCollection) (stage : Stage) (aliases : Aliases)
    (desired : PropertyList) (search : Search) : Prop :=
  ∀ key ∈ search.pipeline.items,
    ∃ entry, collection.Required stage aliases desired entry ∧ entry.key = key

/-- A need runs only required tasks if the task that it runs does. -/
lemma need_grounded {run : TaskEntry → String → Search → Except ResolveError Search}
    {p : Property} {search search' : Search}
    (hrun : ∀ producer, collection.producer? stage aliases p.name = some producer →
      run producer p.name search = .ok search' →
        Grounded collection stage aliases desired search')
    (hgrounded : Grounded collection stage aliases desired search)
    (h : collection.need stage aliases run p search = .ok search') :
    Grounded collection stage aliases desired search' := by
  rcases need_cases h with ⟨-, rfl⟩ | ⟨producer, hproducer, hok⟩ | ⟨-, -, rfl⟩
  · exact hgrounded
  · exact hrun producer hproducer hok
  · exact hgrounded

lemma loop_grounded {step : Search → Property → Except ResolveError Search}
    {properties : List Property} {search search' : Search}
    (hstep : ∀ p ∈ properties, ∀ s s', Grounded collection stage aliases desired s →
      step s p = .ok s' → Grounded collection stage aliases desired s')
    (hgrounded : Grounded collection stage aliases desired search)
    (h : properties.foldlM step search = .ok search') :
    Grounded collection stage aliases desired search' := by
  refine (Outcome.steps_of_foldlM h).invariant
    (P := fun _ current => Grounded collection stage aliases desired current) ?_ hgrounded
  intro done p s s' hfront hs hok
  exact hstep p (hfront.subset (List.mem_append_right _ List.mem_cons_self)) s s' hs hok

lemma run_grounded (depth : Nat) (waiting : List TaskKey) (entry : TaskEntry) (name : String)
    (search search' : Search) (hrequired : collection.Required stage aliases desired entry)
    (hgrounded : Grounded collection stage aliases desired search)
    (h : collection.run stage aliases depth waiting entry name search = .ok search') :
    Grounded collection stage aliases desired search' := by
  induction depth generalizing waiting entry name search search' with
  | zero =>
      unfold run at h
      split_ifs at h
      obtain rfl := Except.ok.inj h
      exact hgrounded
  | succ depth ih =>
      unfold run at h
      split_ifs at h with hdone hwaits
      · obtain rfl := Except.ok.inj h
        exact hgrounded
      · obtain ⟨s₁, h₁, h⟩ := Outcome.of_bind h
        obtain ⟨s₂, h₂, h⟩ := Outcome.of_bind h
        obtain ⟨s₃, h₃, h⟩ := Outcome.of_bind h
        obtain rfl := Except.ok.inj h
        have hneed : ∀ access, access ≠ .writes →
            ∀ p ∈ (entry.task.lists.under access).entries.map aliases.chosen, ∀ s s',
              Grounded collection stage aliases desired s →
              collection.need stage aliases
                (collection.run stage aliases depth (entry.key :: waiting)) p s = .ok s' →
              Grounded collection stage aliases desired s' := by
          intro access haccess p hp s s' hs hok
          refine need_grounded (fun producer hproducer hrun => ?_) hs hok
          exact ih _ producer p.name s s' (hrequired.tail (depends_of_mem haccess hp hproducer))
            hs hrun
        have hs₁ := loop_grounded (fun p hp s s' hs hok => by
          obtain ⟨t, hthere, hok⟩ := Outcome.of_bind hok
          obtain rfl := Except.ok.inj hok
          have ht := hneed .consumes (by decide) p hp s t hs hthere
          unfold Grounded
          rw [(Search.reclassified_consume t p.name).items]
          exact ht) hgrounded h₁
        have hs₂ := loop_grounded (hneed .reads (by decide)) hs₁ h₂
        have hs₃ := loop_grounded (fun p hp s s' hs hok => by
          obtain ⟨t, hthere, hok⟩ := Outcome.of_bind hok
          obtain rfl := Except.ok.inj hok
          have ht := hneed .filters (by decide) p hp s t hs hthere
          unfold Grounded
          rw [(Search.reclassified_modify t p.name).items]
          exact ht) hs₂ h₃
        intro key hkey
        rw [Search.finish_pipeline, List.mem_append, List.mem_singleton] at hkey
        rcases hkey with hkey | rfl
        · exact hs₃ key hkey
        · exact ⟨entry, hrequired, rfl⟩

/-- The producer of a desired name is required. -/
lemma required_of_wanted {p : Property} (hp : p ∈ desired.entries.map aliases.chosen)
    (hproducer : collection.producer? stage aliases p.name = some entry) :
    collection.Required stage aliases desired entry := by
  obtain ⟨q, hq, rfl⟩ := List.mem_map.1 hp
  exact ⟨_, entry, ⟨q, hq, rfl⟩, hproducer, ReflTransGen.refl⟩

lemma required_of_mem_items (h : collection.resolve stage desired aliases = .ok pipeline)
    {key : TaskKey} (hkey : key ∈ pipeline.items) :
    ∃ entry, collection.Required stage aliases desired entry ∧ entry.key = key := by
  unfold resolve at h
  obtain ⟨search, hloop, h⟩ := Outcome.of_bind h
  obtain rfl := Except.ok.inj h
  have hgrounded : Grounded collection stage aliases desired search := by
    refine loop_grounded (fun p hp s s' hs hok => ?_) ?_ hloop
    · refine need_grounded (fun producer hproducer hrun => ?_) hs hok
      exact run_grounded _ _ producer p.name s s' (required_of_wanted hp hproducer) hs hrun
    · exact fun key hkey => absurd hkey (by simp [Search.start])
  have hitems := (Search.delivered_foldl (desired.entries.map aliases.chosen) search).items
  exact hgrounded key (hitems ▸ hkey)

lemma cyclic_of_resolve_error {error : ResolveError}
    (h : collection.resolve stage desired aliases = .error error) :
    collection.Cyclic stage aliases desired ∧ ∃ task property, error = .cycle task property := by
  unfold resolve at h
  rcases Outcome.of_bind_error h with h | ⟨_, -, h⟩
  · obtain ⟨p, hp, s, hfail⟩ := Outcome.of_foldlM_error h
    obtain ⟨producer, hproducer, hrun⟩ := need_error hfail
    exact cyclic_of_run _ _ producer p.name s (required_of_wanted hp hproducer) Led.nil
      (by simp) hrun
  · cases h

/-! ## Successes are acyclic -/

/-- In an exclusive collection the producer of a name is the one task that outputs it. -/
lemma Exclusive.producer?_eq_some_iff (h : collection.Exclusive stage aliases) :
    collection.producer? stage aliases name = some entry ↔ entry ∈ collection.entries ∧
      stage ∈ entry.stages ∧ entry.task.Touches aliases .writes name := by
  refine ⟨producer?_eq_some, ?_⟩
  rintro ⟨hentry, hstage, htouch⟩
  cases hproducer : collection.producer? stage aliases name with
  | none =>
      exact absurd ⟨entry, hentry, hstage, htouch⟩ (producer?_eq_none.1 hproducer)
  | some found =>
      obtain ⟨hfound, hstage', htouch'⟩ := producer?_eq_some hproducer
      by_contra hne
      have hapart : Apart stage aliases (entry.stages, entry.task) (found.stages, found.task) :=
        (List.pairwise_map.1 h).forall hentry hfound fun heq => hne (by rw [heq])
      exact hapart hstage hstage' name htouch htouch'

/-- What some scheduled task outputs, its producer has output: the producer is scheduled. -/
lemma Exclusive.mem_items (h : collection.Exclusive stage aliases) {items : List TaskKey}
    (hschedule : collection.Schedule stage aliases items)
    (hproducer : collection.producer? stage aliases name = some entry) {key : TaskKey} {task : Task}
    (hkey : key ∈ items) (htask : collection.task? key = some task)
    (htouch : task.Touches aliases .writes name) : key = entry.key := by
  obtain ⟨found, hfound, rfl, hstage⟩ := hschedule.registered key hkey
  rw [task?_key hfound, Option.some.injEq] at htask
  have hfirst := h.producer?_eq_some_iff.2 ⟨hfound, hstage, htask ▸ htouch⟩
  rw [hproducer, Option.some.injEq] at hfirst
  rw [hfirst]

/-- Whatever a scheduled task depends on stands before it. -/
lemma Exclusive.depends_before (h : collection.Exclusive stage aliases)
    (hschedule : collection.Schedule stage aliases items) (hentry : entry ∈ collection.entries)
    {i : Nat} (hi : items[i]? = some entry.key)
    (hdepends : collection.Depends stage aliases entry entry') :
    entry' ∈ collection.entries ∧ ∃ j < i, items[j]? = some entry'.key := by
  obtain ⟨access, name, haccess, htouch, hproducer⟩ := hdepends
  obtain ⟨hmem, hstage, hout⟩ := producer?_eq_some hproducer
  have hready :=
    hschedule.ready i entry.key entry.task access name hi (task?_key hentry) haccess htouch
  rcases hready with ⟨j, key, task, hj, hkey, htask, hout'⟩ | hnone
  · refine ⟨hmem, j, hj, ?_⟩
    rw [hkey, h.mem_items hschedule hproducer (List.mem_of_getElem? hkey) htask hout']
  · exact absurd ⟨entry', hmem, hstage, hout⟩ hnone

/-- Hence a path from a scheduled task goes back in the schedule. -/
lemma Exclusive.leads_before (h : collection.Exclusive stage aliases)
    (hschedule : collection.Schedule stage aliases items) (hentry : entry ∈ collection.entries)
    {i : Nat} (hi : items[i]? = some entry.key)
    (hpath : TransGen (collection.Depends stage aliases) entry entry') :
    entry' ∈ collection.entries ∧ ∃ j < i, items[j]? = some entry'.key := by
  induction hpath with
  | single hdepends => exact h.depends_before hschedule hentry hi hdepends
  | tail _ hlast ih =>
      obtain ⟨hmem, j, hj, hkey⟩ := ih
      obtain ⟨hmem', k, hk, hkey'⟩ := h.depends_before hschedule hmem hkey hlast
      exact ⟨hmem', k, by omega, hkey'⟩

/-- A desired name is output by a scheduled task, or by no task of the stage. -/
lemma output_or_outside_of_desired (hok : collection.resolve stage desired aliases = .ok pipeline)
    (hdesired : Desired aliases desired name) :
    collection.Touched aliases pipeline.items .writes name ∨
      ¬ collection.Offers stage aliases name := by
  obtain ⟨p, hp, rfl⟩ := hdesired
  obtain ⟨search, hsound, hmet, rfl⟩ := sound_of_resolve hok
  have hitems := (Search.delivered_foldl (desired.entries.map aliases.chosen) search).items
  have hthere : search.Meets .reads (aliases.choice p.name) :=
    hmet (aliases.chosen p) (List.mem_map_of_mem hp)
  exact hitems ▸ hsound.written_or_outside hthere

/-- Every required task is scheduled. -/
lemma Exclusive.mem_items_of_required (h : collection.Exclusive stage aliases)
    (hok : collection.resolve stage desired aliases = .ok pipeline)
    (hrequired : collection.Required stage aliases desired entry) :
    entry.key ∈ pipeline.items := by
  have hschedule := schedule_items hok
  obtain ⟨name, root, hdesired, hroot, hpath⟩ := hrequired
  induction hpath with
  | refl =>
      obtain ⟨hmem, hstage, hout⟩ := producer?_eq_some hroot
      rcases output_or_outside_of_desired hok hdesired with hwritten | hnone
      · obtain ⟨key, hkey, task, htask, htouch⟩ := hwritten
        rw [← h.mem_items hschedule hroot hkey htask htouch]
        exact hkey
      · exact absurd ⟨root, hmem, hstage, hout⟩ hnone
  | tail hprev hlast ih =>
      obtain ⟨i, hi⟩ := List.mem_iff_getElem?.1 ih
      have hmem := Required.mem ⟨name, root, hdesired, hroot, hprev⟩
      obtain ⟨-, j, -, hj⟩ := h.depends_before hschedule hmem hi hlast
      exact List.mem_of_getElem? hj

/-- **A successful resolution has no required cycle.** -/
lemma Exclusive.not_cyclic (h : collection.Exclusive stage aliases)
    (hok : collection.resolve stage desired aliases = .ok pipeline) :
    ¬ collection.Cyclic stage aliases desired := by
  rintro ⟨entry, hrequired, hpath⟩
  have hschedule := schedule_items hok
  obtain ⟨i, hi⟩ := List.mem_iff_getElem?.1 (h.mem_items_of_required hok hrequired)
  obtain ⟨-, j, hj, hkey⟩ := h.leads_before hschedule hrequired.mem hi hpath
  have hsame : j = i := by
    obtain ⟨hlt, -⟩ := List.getElem?_eq_some_iff.1 hkey
    exact (List.getElem?_inj hlt hschedule.nodup).1 (hkey.trans hi.symm)
  omega

/-- The scheduled tasks are the required ones. -/
lemma Exclusive.mem_items_iff (h : collection.Exclusive stage aliases)
    (hok : collection.resolve stage desired aliases = .ok pipeline) (key : TaskKey) :
    key ∈ pipeline.items ↔
      ∃ entry, collection.Required stage aliases desired entry ∧ entry.key = key := by
  refine ⟨required_of_mem_items hok, ?_⟩
  rintro ⟨entry, hrequired, rfl⟩
  exact h.mem_items_of_required hok hrequired

/-! ## Another order of registration -/

lemma Reordered.symm (h : collection.Reordered collection') : collection'.Reordered collection :=
  List.Perm.symm h

lemma Exclusive.reordered (h : collection.Exclusive stage aliases)
    (horder : collection.Reordered collection') : collection'.Exclusive stage aliases :=
  (List.Perm.pairwise_iff (fun hapart => Std.Symm.symm _ _ hapart) horder).1 h

lemma Reordered.exists_entry (h : collection.Reordered collection')
    (hentry : entry ∈ collection.entries) :
    ∃ entry' ∈ collection'.entries, entry'.stages = entry.stages ∧ entry'.task = entry.task := by
  have hmem : (entry.stages, entry.task) ∈ collection.registrations :=
    List.mem_map.2 ⟨entry, hentry, rfl⟩
  obtain ⟨entry', hentry', heq⟩ := List.mem_map.1 ((List.Perm.mem_iff h).1 hmem)
  exact ⟨entry', hentry', congrArg Prod.fst heq, congrArg Prod.snd heq⟩

/-- The same task produces a name, wherever it stands. -/
lemma Reordered.producer (h : collection.Reordered collection')
    (hexclusive : collection.Exclusive stage aliases)
    (hproducer : collection.producer? stage aliases name = some entry) :
    ∃ entry', collection'.producer? stage aliases name = some entry' ∧ entry'.task = entry.task := by
  obtain ⟨hmem, hstage, htouch⟩ := producer?_eq_some hproducer
  obtain ⟨entry', hentry', hstages, htask⟩ := h.exists_entry hmem
  refine ⟨entry', ?_, htask⟩
  exact (hexclusive.reordered h).producer?_eq_some_iff.2
    ⟨hentry', hstages ▸ hstage, htask ▸ htouch⟩

lemma Reordered.depends (h : collection.Reordered collection')
    (hexclusive : collection.Exclusive stage aliases) {other : TaskEntry}
    (htask : other.task = entry.task) (hdepends : collection.Depends stage aliases entry entry') :
    ∃ other', other'.task = entry'.task ∧ collection'.Depends stage aliases other other' := by
  obtain ⟨access, name, haccess, htouch, hproducer⟩ := hdepends
  obtain ⟨other', hproducer', htask'⟩ := h.producer hexclusive hproducer
  exact ⟨other', htask', access, name, haccess, htask ▸ htouch, hproducer'⟩

lemma Reordered.leads (h : collection.Reordered collection')
    (hexclusive : collection.Exclusive stage aliases) {other : TaskEntry}
    (htask : other.task = entry.task)
    (hpath : TransGen (collection.Depends stage aliases) entry entry') :
    ∃ other', other'.task = entry'.task ∧
      TransGen (collection'.Depends stage aliases) other other' := by
  induction hpath with
  | single hdepends =>
      obtain ⟨other', htask', hdepends'⟩ := h.depends hexclusive htask hdepends
      exact ⟨other', htask', TransGen.single hdepends'⟩
  | tail _ hlast ih =>
      obtain ⟨middle, hmiddle, hpath'⟩ := ih
      obtain ⟨other', htask', hdepends'⟩ := h.depends hexclusive hmiddle hlast
      exact ⟨other', htask', hpath'.tail hdepends'⟩

lemma Reordered.required (h : collection.Reordered collection')
    (hexclusive : collection.Exclusive stage aliases)
    (hdesired : desired.entries.Perm desired'.entries)
    (hrequired : collection.Required stage aliases desired entry) :
    ∃ entry', entry'.task = entry.task ∧ collection'.Required stage aliases desired' entry' := by
  obtain ⟨name, root, ⟨p, hp, hname⟩, hroot, hpath⟩ := hrequired
  have hname' : Desired aliases desired' name := ⟨p, hdesired.mem_iff.1 hp, hname⟩
  induction hpath with
  | refl =>
      obtain ⟨root', hroot', htask⟩ := h.producer hexclusive hroot
      exact ⟨root', htask, name, root', hname', hroot', ReflTransGen.refl⟩
  | tail _ hlast ih =>
      obtain ⟨middle, hmiddle, hrequired'⟩ := ih
      obtain ⟨entry', htask', hdepends'⟩ := h.depends hexclusive hmiddle hlast
      exact ⟨entry', htask', hrequired'.tail hdepends'⟩

/-- Two producers with the same task are one. -/
lemma Exclusive.eq_of_task_eq (h : collection.Exclusive stage aliases) {name name' : String}
    (hproducer : collection.producer? stage aliases name = some entry)
    (hproducer' : collection.producer? stage aliases name' = some entry')
    (htask : entry.task = entry'.task) : entry = entry' := by
  obtain ⟨hmem, hstage, htouch⟩ := producer?_eq_some hproducer
  obtain ⟨hmem', hstage', -⟩ := producer?_eq_some hproducer'
  have hsame := h.producer?_eq_some_iff.2 ⟨hmem', hstage', htask ▸ htouch⟩
  rw [hproducer, Option.some.injEq] at hsame
  exact hsame

lemma Reordered.cyclic (h : collection.Reordered collection')
    (hexclusive : collection.Exclusive stage aliases)
    (hdesired : desired.entries.Perm desired'.entries)
    (hcyclic : collection.Cyclic stage aliases desired) :
    collection'.Cyclic stage aliases desired' := by
  obtain ⟨entry, hrequired, hpath⟩ := hcyclic
  obtain ⟨first, hfirst, hrequired'⟩ := h.required hexclusive hdesired hrequired
  obtain ⟨last, hlast, hpath'⟩ := h.leads hexclusive hfirst hpath
  -- Both ends of the copied path carry the task of `entry`, so they are one producer.
  obtain ⟨name, hproducer⟩ := hrequired'.produces
  obtain ⟨name', hproducer'⟩ : ∃ name', collection'.producer? stage aliases name' = some last := by
    cases hpath' with
    | single hdepends =>
        obtain ⟨_, name', -, -, hproducer'⟩ := hdepends
        exact ⟨name', hproducer'⟩
    | tail _ hdepends =>
        obtain ⟨_, name', -, -, hproducer'⟩ := hdepends
        exact ⟨name', hproducer'⟩
  have hsame := (hexclusive.reordered h).eq_of_task_eq hproducer hproducer' (hfirst.trans hlast.symm)
  exact ⟨first, hrequired', hsame ▸ hpath'⟩

/-! ## Order does not matter -/

lemma touched_iff_tasks {access : Access} : collection.Touched aliases items access name ↔
    ∃ task ∈ collection.tasks items, task.Touches aliases access name := by
  simp only [Touched, tasks, List.mem_filterMap]
  constructor
  · rintro ⟨key, hkey, task, htask, htouch⟩
    exact ⟨task, ⟨key, hkey, htask⟩, htouch⟩
  · rintro ⟨task, ⟨key, hkey, htask⟩, htouch⟩
    exact ⟨key, hkey, task, htask, htouch⟩

lemma Exclusive.mem_tasks_iff (h : collection.Exclusive stage aliases)
    (hok : collection.resolve stage desired aliases = .ok pipeline) (task : Task) :
    task ∈ collection.tasks pipeline.items ↔
      ∃ entry, collection.Required stage aliases desired entry ∧ entry.task = task := by
  simp only [tasks, List.mem_filterMap, h.mem_items_iff hok]
  constructor
  · rintro ⟨_, ⟨entry, hrequired, rfl⟩, htask⟩
    rw [task?_key hrequired.mem, Option.some.injEq] at htask
    exact ⟨entry, hrequired, htask⟩
  · rintro ⟨entry, hrequired, rfl⟩
    exact ⟨entry.key, ⟨entry, hrequired, rfl⟩, task?_key hrequired.mem⟩

/-- Scheduled tasks are distinct as tasks, and not only in their keys. -/
lemma Exclusive.nodup_tasks (h : collection.Exclusive stage aliases)
    (hok : collection.resolve stage desired aliases = .ok pipeline) :
    (collection.tasks pipeline.items).Nodup := by
  have hmem := h.mem_items_iff hok
  refine List.pairwise_filterMap.2 ((schedule_items hok).nodup.imp_of_mem ?_)
  intro key key' hkey hkey' hne task htask task' htask' hsame
  obtain ⟨entry, hrequired, rfl⟩ := (hmem key).1 hkey
  obtain ⟨entry', hrequired', rfl⟩ := (hmem key').1 hkey'
  rw [task?_key hrequired.mem, Option.some.injEq] at htask
  rw [task?_key hrequired'.mem, Option.some.injEq] at htask'
  obtain ⟨name, hproducer⟩ := hrequired.produces
  obtain ⟨name', hproducer'⟩ := hrequired'.produces
  have hentry : entry = entry' :=
    h.eq_of_task_eq hproducer hproducer' (by rw [htask, htask', hsame])
  exact hne (by rw [hentry])

lemma Reordered.tasks_perm (h : collection.Reordered collection')
    (hexclusive : collection.Exclusive stage aliases)
    (hdesired : desired.entries.Perm desired'.entries)
    (hok : collection.resolve stage desired aliases = .ok pipeline)
    (hok' : collection'.resolve stage desired' aliases = .ok pipeline') :
    (collection.tasks pipeline.items).Perm (collection'.tasks pipeline'.items) := by
  have hexclusive' := hexclusive.reordered h
  rw [List.perm_ext_iff_of_nodup (hexclusive.nodup_tasks hok) (hexclusive'.nodup_tasks hok')]
  intro task
  rw [hexclusive.mem_tasks_iff hok, hexclusive'.mem_tasks_iff hok']
  constructor
  · rintro ⟨entry, hrequired, rfl⟩
    obtain ⟨entry', htask, hrequired'⟩ := h.required hexclusive hdesired hrequired
    exact ⟨entry', hrequired', htask⟩
  · rintro ⟨entry', hrequired', rfl⟩
    obtain ⟨entry, htask, hrequired⟩ := h.symm.required hexclusive' hdesired.symm hrequired'
    exact ⟨entry, hrequired, htask⟩

/-- A name belongs in the same class wherever the same tasks are scheduled for the same desired
names. -/
lemma belongs_congr {items' : List TaskKey}
    (htasks : (collection.tasks items).Perm (collection'.tasks items'))
    (hdesired : desired.entries.Perm desired'.entries) (cls : PropertyClass) :
    collection.Belongs aliases desired items name cls ↔
      collection'.Belongs aliases desired' items' name cls := by
  have htouched : ∀ access, collection.Touched aliases items access name ↔
      collection'.Touched aliases items' access name := by
    intro access
    simp only [touched_iff_tasks, htasks.mem_iff]
  have hname : Desired aliases desired name ↔ Desired aliases desired' name := by
    simp only [Desired, hdesired.mem_iff]
  cases cls <;> simp only [Belongs, htouched, hname]

lemma Exclusive.resolve_ok_iff (h : collection.Exclusive stage aliases) :
    (∃ pipeline, collection.resolve stage desired aliases = .ok pipeline) ↔
      ¬ collection.Cyclic stage aliases desired := by
  constructor
  · rintro ⟨pipeline, hok⟩
    exact h.not_cyclic hok
  · intro hacyclic
    cases hresolve : collection.resolve stage desired aliases with
    | ok pipeline => exact ⟨pipeline, rfl⟩
    | error error => exact absurd (cyclic_of_resolve_error hresolve).1 hacyclic

/-- **Resolution succeeds exactly on acyclic requirements, whatever the order.**  Let no two tasks of
the stage output one name.

* The answer is that of a search without a bound: any bound that leaves room for every task to wait
  gives the same one.
* It is a cycle error exactly when some required task leads to itself, and otherwise a schedule of
  exactly the required tasks.
* Desired names in another order and tasks registered in another order succeed together, with the
  same tasks and the same names in every class. -/
theorem resolve_iff_acyclic (collection : TaskCollection) (stage : Stage) (aliases : Aliases)
    (desired : PropertyList) (hexclusive : collection.Exclusive stage aliases) :
    (∀ depth, collection.size ≤ depth →
      collection.resolveWithin depth stage desired aliases
        = collection.resolve stage desired aliases) ∧
    ((∃ task property, collection.resolve stage desired aliases = .error (.cycle task property)) ↔
      collection.Cyclic stage aliases desired) ∧
    (¬ collection.Cyclic stage aliases desired →
      ∃ pipeline, collection.resolve stage desired aliases = .ok pipeline ∧
        pipeline.items.Nodup ∧
        ∀ key, key ∈ pipeline.items ↔
          ∃ entry, collection.Required stage aliases desired entry ∧ entry.key = key) ∧
    ∀ (collection' : TaskCollection) (desired' : PropertyList),
      collection.Reordered collection' → desired.entries.Perm desired'.entries →
      ((∃ pipeline, collection.resolve stage desired aliases = .ok pipeline) ↔
        ∃ pipeline', collection'.resolve stage desired' aliases = .ok pipeline') ∧
      ∀ pipeline pipeline', collection.resolve stage desired aliases = .ok pipeline →
        collection'.resolve stage desired' aliases = .ok pipeline' →
        (collection.tasks pipeline.items).Perm (collection'.tasks pipeline'.items) ∧
        ∀ cls name, name ∈ (pipeline.list cls).names ↔ name ∈ (pipeline'.list cls).names := by
  refine ⟨fun depth hdepth => resolveWithin_eq hdepth, ⟨?_, ?_⟩, ?_, ?_⟩
  · rintro ⟨task, property, herror⟩
    exact (cyclic_of_resolve_error herror).1
  · intro hcyclic
    cases hresolve : collection.resolve stage desired aliases with
    | ok pipeline => exact absurd hcyclic (hexclusive.not_cyclic hresolve)
    | error error =>
        obtain ⟨-, task, property, rfl⟩ := cyclic_of_resolve_error hresolve
        exact ⟨task, property, rfl⟩
  · intro hacyclic
    obtain ⟨pipeline, hok⟩ := hexclusive.resolve_ok_iff.2 hacyclic
    exact ⟨pipeline, hok, (schedule_items hok).nodup, hexclusive.mem_items_iff hok⟩
  · intro collection' desired' horder hdesired
    have hexclusive' := hexclusive.reordered horder
    refine ⟨?_, ?_⟩
    · rw [hexclusive.resolve_ok_iff, hexclusive'.resolve_ok_iff]
      exact not_congr ⟨horder.cyclic hexclusive hdesired,
        horder.symm.cyclic hexclusive' hdesired.symm⟩
    · intro pipeline pipeline' hok hok'
      have htasks := horder.tasks_perm hexclusive hdesired hok hok'
      refine ⟨htasks, fun cls name => ?_⟩
      rw [mem_class_iff hok, mem_class_iff hok', belongs_congr htasks hdesired]

/-- Lights a surface by its normals, and tints the light. -/
def lighting : Task :=
  .call "light" { inputs := .ofList [⟨"normal", .vec4⟩]
                  filters := .ofList [⟨"tint", .vec4⟩]
                  outputs := .ofList [⟨"color", .vec4⟩] }

/-- Makes normals from a property of the given name, which it uses up. -/
def baking (source : String) : Task :=
  .call "bake" { consuming := .ofList [⟨source, .vec4⟩]
                 outputs := .ofList [⟨"normal", .vec4⟩] }

/-- Registered in either order, lighting runs after baking; and where normals are baked from the color,
lighting leads to itself. -/
theorem resolve_iff_acyclic_lighting :
    let here := (empty.register lighting [.fragment]).register (baking "height") [.fragment]
    let there := (empty.register (baking "height") [.fragment]).register lighting [.fragment]
    let looping := (empty.register lighting [.fragment]).register (baking "color") [.fragment]
    here.Exclusive .fragment .empty ∧ here.Reordered there ∧
    (∃ pipeline pipeline',
      here.resolve .fragment (.ofList [⟨"color", .vec4⟩, ⟨"depth", .vec4⟩]) .empty
        = .ok pipeline ∧
      there.resolve .fragment (.ofList [⟨"depth", .vec4⟩, ⟨"color", .vec4⟩]) .empty
        = .ok pipeline' ∧
      pipeline.items = [⟨2, 1⟩, ⟨1, 1⟩] ∧ pipeline'.items = [⟨1, 1⟩, ⟨2, 1⟩] ∧
      (here.tasks pipeline.items).Perm (there.tasks pipeline'.items)) ∧
    looping.Exclusive .fragment .empty ∧
    looping.Cyclic .fragment .empty (.ofList [⟨"color", .vec4⟩]) := by
  intro here there looping
  have hexclusive : here.Exclusive .fragment .empty := by decide
  have horder : here.Reordered there := List.Perm.swap _ _ _
  have hdesired : (PropertyList.ofList [⟨"color", .vec4⟩, ⟨"depth", .vec4⟩]).entries.Perm
      (PropertyList.ofList [⟨"depth", .vec4⟩, ⟨"color", .vec4⟩]).entries := List.Perm.swap _ _ _
  obtain ⟨-, -, -, hsame⟩ := resolve_iff_acyclic here .fragment .empty
    (.ofList [⟨"color", .vec4⟩, ⟨"depth", .vec4⟩]) hexclusive
  have hlooping : looping.Exclusive .fragment .empty := by decide
  obtain ⟨-, hcyclic, -⟩ := resolve_iff_acyclic looping .fragment .empty
    (.ofList [⟨"color", .vec4⟩]) hlooping
  refine ⟨hexclusive, horder, ⟨_, _, rfl, rfl, rfl, rfl, ?_⟩, hlooping, hcyclic.1 ⟨_, _, rfl⟩⟩
  exact ((hsame there _ horder hdesired).2 _ _ rfl rfl).1

end ShaderWeave.TaskCollection
