import Mathlib.Data.List.Induction
import Mathlib.Logic.Function.Basic
import ShaderWeave.Proofs.Marks

/-!
# What `main` computes

A stage is run in two ways.  Over a store of properties its tasks run in order, and each reads and
writes the properties chosen for its names.  Over a store of variables the copies run first, and the
tasks read and write through the aliases of the storage.  **Both end with the same values in what the
stage hands on.**

* `Task.perform`, `performAll`, `Copy.runAll` — running tasks and copies over a store.  What a task
  computes is any function of the values it takes.
* `Orderly` — what is asked of a stage.
* `Orderly.Agree` — the simulation: the variable of every property that is there so far holds its
  value.  The copies establish it (`Orderly.agree_copies`), a task keeps it (`Orderly.agree_perform`),
  and so do all tasks in order (`Orderly.agree_performAll`).
* `main_computes_pipeline` — the result.
-/

namespace ShaderWeave

variable {V : Type}

/-! ## Running tasks and copies -/

/-- What a task computes from the values it takes: one value for each place among what it gives. -/
abbrev Meaning (V : Type) := List V → Nat → V

namespace Task

variable {place : String → String} {values : Nat → V} {targets : List Property}

/-- The properties a task takes values from: those it consumes, reads and changes. -/
def taken (task : Task) : List Property :=
  task.lists.consuming.solid ++ task.lists.inputs.solid ++ task.lists.filters.solid

/-- The properties a task gives new values to: those it changes and outputs. -/
def given (task : Task) : List Property := task.lists.filters.solid ++ task.lists.outputs.solid

/-- Stores values one after the other, from place `i` on; `place` says where in the store. -/
def write (place : String → String) (values : Nat → V) :
    Nat → List Property → (String → V) → String → V
  | _, [], store => store
  | i, property :: rest, store =>
    write place values (i + 1) rest (Function.update store (place property.name) (values i))

/-- Runs a task over a store. -/
def perform (task : Task) (place : String → String) (meaning : Meaning V) (store : String → V) :
    String → V :=
  write place (meaning (task.taken.map fun property => store (place property.name))) 0 task.given
    store

lemma write_of_ne {key : String} (h : ∀ property ∈ targets, place property.name ≠ key) (i : Nat)
    (store : String → V) : write place values i targets store key = store key := by
  induction targets generalizing i store with
  | nil => rfl
  | cons property rest ih =>
      rw [write, ih (fun p hp => h p (List.mem_cons_of_mem _ hp))]
      exact Function.update_of_ne (Ne.symm (h property List.mem_cons_self)) _ _

/-- Two stores are written alike: where `slot` tells apart what is stored, a value that was the same
in both, or is written, is the same in both afterwards. -/
lemma write_agree {held slot : String → String} {apart : String → Prop}
    (hslot : ∀ a b, apart a → apart b → slot a = slot b → a = b)
    (htargets : ∀ property ∈ targets, apart (held property.name) ∧
      place property.name = slot (held property.name)) {name : String} (hname : apart name)
    (i : Nat) (properties cells : String → V)
    (h : cells (slot name) = properties name ∨
      ∃ property ∈ targets, held property.name = name) :
    write place values i targets cells (slot name)
      = write held values i targets properties name := by
  induction targets generalizing i properties cells with
  | nil =>
      rcases h with h | ⟨property, hproperty, -⟩
      · exact h
      · exact absurd hproperty List.not_mem_nil
  | cons first rest ih =>
      obtain ⟨hfirst, hplace⟩ := htargets first List.mem_cons_self
      rw [write, write, hplace]
      refine ih (fun p hp => htargets p (List.mem_cons_of_mem _ hp)) _ _ _ ?_
      by_cases heq : held first.name = name
      · -- The name is written just now; what comes later does not matter for its being the same.
        left
        rw [heq, Function.update_self, Function.update_self]
      · have hne : slot name ≠ slot (held first.name) :=
          fun hsame => heq (hslot _ _ hfirst hname hsame.symm)
        rw [Function.update_of_ne hne, Function.update_of_ne (Ne.symm heq)]
        rcases h with h | ⟨property, hproperty, hwritten⟩
        · exact Or.inl h
        · rcases List.mem_cons.1 hproperty with rfl | hproperty
          · exact absurd hwritten heq
          · exact Or.inr ⟨property, hproperty, hwritten⟩

end Task

/-- Runs tasks in order; `meaning` tells what the task at a position computes. -/
def performAll (place : String → String) (meaning : Nat → Meaning V) (tasks : List Task)
    (store : String → V) : String → V :=
  tasks.zipIdx.foldl (fun store step => step.1.perform place (meaning step.2) store) store

lemma performAll_concat (place : String → String) (meaning : Nat → Meaning V) (done : List Task)
    (task : Task) (store : String → V) :
    performAll place meaning (done ++ [task]) store
      = task.perform place (meaning done.length) (performAll place meaning done store) := by
  simp [performAll, List.zipIdx_append]

/-- What no task gives a value to stays as it is. -/
lemma performAll_of_ne {place : String → String} {meaning : Nat → Meaning V} {tasks : List Task}
    {key : String} (h : ∀ task ∈ tasks, ∀ property ∈ task.given, place property.name ≠ key)
    (store : String → V) : performAll place meaning tasks store key = store key := by
  induction tasks using List.reverseRecOn with
  | nil => rfl
  | append_singleton done task ih =>
      rw [performAll_concat, Task.perform, Task.write_of_ne]
      · exact ih fun t ht => h t (List.mem_append_left _ ht)
      · exact h task (List.mem_append_right _ (List.mem_singleton_self _))

namespace Copy

/-- Runs copies in order. -/
def runAll (copies : List Copy) (store : String → V) : String → V :=
  copies.foldl (fun store copy => Function.update store copy.target (store copy.source)) store

lemma runAll_of_ne {copies : List Copy} {key : String} (h : ∀ copy ∈ copies, copy.target ≠ key)
    (store : String → V) : runAll copies store key = store key := by
  induction copies generalizing store with
  | nil => rfl
  | cons copy rest ih =>
      show runAll rest (Function.update store copy.target (store copy.source)) key = _
      rw [ih fun c hc => h c (List.mem_cons_of_mem _ hc)]
      exact Function.update_of_ne (Ne.symm (h copy List.mem_cons_self)) _ _

/-- **Copies whose sources are no targets run as if all at once.** -/
lemma runAll_target {copies : List Copy} (hapart : ∀ c ∈ copies, ∀ d ∈ copies, c.source ≠ d.target)
    (hsame : ∀ c ∈ copies, ∀ d ∈ copies, c.target = d.target → c.source = d.source)
    {copy : Copy} (hcopy : copy ∈ copies) (store : String → V) :
    runAll copies store copy.target = store copy.source := by
  induction copies generalizing store copy with
  | nil => exact absurd hcopy List.not_mem_nil
  | cons first rest ih =>
      show runAll rest (Function.update store first.target (store first.source)) copy.target = _
      -- The last copy to the target counts; what it reads has not been written since.
      by_cases hagain : ∃ later ∈ rest, later.target = copy.target
      · obtain ⟨later, hlater, htarget⟩ := hagain
        have hsource := hsame later (List.mem_cons_of_mem _ hlater) copy hcopy htarget
        have hkept : later.source ≠ first.target :=
          hapart later (List.mem_cons_of_mem _ hlater) first List.mem_cons_self
        rw [← htarget, ih (fun c hc d hd => hapart c (List.mem_cons_of_mem _ hc) d
            (List.mem_cons_of_mem _ hd)) (fun c hc d hd => hsame c (List.mem_cons_of_mem _ hc) d
            (List.mem_cons_of_mem _ hd)) hlater, Function.update_of_ne hkept, hsource]
      · have hfirst : copy = first := by
          rcases List.mem_cons.1 hcopy with heq | hrest
          · exact heq
          · exact absurd ⟨copy, hrest, rfl⟩ hagain
        subst hfirst
        rw [runAll_of_ne fun c hc htarget => hagain ⟨c, hc, htarget⟩, Function.update_self]

end Copy

/-! ## Orderly stages -/

/-- **What is asked of a stage:** it was planned from a collection and its storage fits, its marks and
those of the stage before are the usual ones, aliases run in no circle, nothing is spelled like a
variable, and no property is a token in one place and carries data in another. -/
structure Orderly (collection : TaskCollection) (found : Pipeline) (previous : Option Handover)
    (plan : StagePlan) (storage : StageStorage) : Prop where
  resolved : plan.Resolved collection found
  fits : storage.Fits previous plan
  standard : plan.request.Standard
  follows : plan.request.Follows previous
  acyclic : plan.request.aliases.Acyclic
  names : ∀ cls, ∀ name ∈ (plan.pipeline.list cls).names, ¬ Mark.Marked name
  keys : ∀ key ∈ plan.request.aliases.keys, ¬ Mark.Marked key
  tokens : ∀ p ∈ plan.specs, ∀ q ∈ plan.specs,
    plan.request.aliases.choice p.name = plan.request.aliases.choice q.name → p.isVoid = q.isVoid

namespace Orderly

variable {collection : TaskCollection} {found : Pipeline} {previous : Option Handover}
  {plan : StagePlan} {storage : StageStorage} {task : Task} {done rest : List Task}
  {property : Property} {name : String} {properties cells : String → V}

/-- A property is there after some tasks: it comes from outside, or one of the tasks outputs it. -/
def Ready (plan : StagePlan) (done : List Task) (name : String) : Prop :=
  plan.pipeline.Supplied name ∨ ∃ task ∈ done, ∃ property ∈ task.lists.outputs.solid,
    plan.request.aliases.choice property.name = name

/-- **The simulation:** the variable of every property that is there holds the value of the
property. -/
def Agree (plan : StagePlan) (storage : StageStorage) (done : List Task)
    (properties cells : String → V) : Prop :=
  ∀ name, Ready plan done name → cells (storage.slot plan name) = properties name

/-! ### Names and their variables -/

/-- A name carries data in its class exactly if it does where a task lists it. -/
lemma carries_iff (h : Orderly collection found previous plan storage)
    (hspec : property ∈ plan.specs) :
    plan.pipeline.Carries (plan.request.aliases.choice property.name) ↔
      property.isVoid = false :=
  h.resolved.carries_iff hspec fun spec hmem heq => h.tokens spec hmem property hspec heq

lemma choice_eq_slot (h : Orderly collection found previous plan storage)
    (hspec : property ∈ plan.specs) (hsolid : property.isVoid = false) :
    storage.aliases.choice property.name
      = storage.slot plan (plan.request.aliases.choice property.name) :=
  h.fits.choice_eq_slot h.resolved h.standard h.follows h.acyclic h.names h.keys
    ((h.carries_iff hspec).2 hsolid)

/-- What a task takes, it lists, and it is no token. -/
lemma spec_of_taken (htask : task ∈ plan.tasks) (hproperty : property ∈ task.taken) :
    property.isVoid = false ∧ property ∈ plan.specs ∧
      ∃ access, access ≠ .writes ∧ property ∈ (task.lists.under access).entries := by
  simp only [Task.taken, List.mem_append, PropertyList.mem_solid] at hproperty
  rcases hproperty with (⟨hmem, hsolid⟩ | ⟨hmem, hsolid⟩) | ⟨hmem, hsolid⟩
  · exact ⟨hsolid, StagePlan.mem_specs_of_task .consumes htask hmem, .consumes,
      by decide, hmem⟩
  · exact ⟨hsolid, StagePlan.mem_specs_of_task .reads htask hmem, .reads,
      by decide, hmem⟩
  · exact ⟨hsolid, StagePlan.mem_specs_of_task .filters htask hmem, .filters,
      by decide, hmem⟩

lemma spec_of_given (htask : task ∈ plan.tasks) (hproperty : property ∈ task.given) :
    property.isVoid = false ∧ property ∈ plan.specs ∧
      (property ∈ task.lists.filters.entries ∨ property ∈ task.lists.outputs.entries) := by
  simp only [Task.given, List.mem_append, PropertyList.mem_solid] at hproperty
  rcases hproperty with ⟨hmem, hsolid⟩ | ⟨hmem, hsolid⟩
  · exact ⟨hsolid, StagePlan.mem_specs_of_task .filters htask hmem, Or.inl hmem⟩
  · exact ⟨hsolid, StagePlan.mem_specs_of_task .writes htask hmem, Or.inr hmem⟩

/-- **What a task takes is there when it runs.** -/
lemma ready_of_taken (h : Orderly collection found previous plan storage)
    (hsplit : plan.tasks = done ++ task :: rest) (hproperty : property ∈ task.taken) :
    Ready plan done (plan.request.aliases.choice property.name) := by
  have htask : task ∈ plan.tasks := hsplit ▸ List.mem_append_right _ List.mem_cons_self
  obtain ⟨hsolid, hspec, access, haccess, hmem⟩ := spec_of_taken htask hproperty
  rcases h.resolved.ready hsplit haccess ⟨property, hmem, rfl⟩ with
    ⟨earlier, hearlier, written, hwritten, hsame⟩ | hnone
  · have hplanned : earlier ∈ plan.tasks := hsplit ▸ List.mem_append_left _ hearlier
    have hvoid := h.tokens written (StagePlan.mem_specs_of_task .writes hplanned hwritten)
      property hspec hsame
    exact Or.inr ⟨earlier, hearlier, written,
      PropertyList.mem_solid.2 ⟨hwritten, hvoid.trans hsolid⟩, hsame⟩
  · obtain ⟨cls, hcls⟩ := (h.carries_iff hspec).2 hsolid
    have hname := PropertyList.solidNames_subset _ hcls
    refine Or.inl ⟨cls, ?_, ?_, hcls⟩
    · rintro rfl
      exact hnone (h.resolved.written_of_output hname)
    · rintro rfl
      exact hnone (h.resolved.written_of_inner hname)

lemma carries_of_ready (h : Orderly collection found previous plan storage)
    (hdone : done ⊆ plan.tasks) (hready : Ready plan done name) : plan.pipeline.Carries name := by
  rcases hready with hsupplied | ⟨task, htask, property, hproperty, rfl⟩
  · exact hsupplied.carries
  · obtain ⟨hmem, hsolid⟩ := PropertyList.mem_solid.1 hproperty
    exact (h.carries_iff (StagePlan.mem_specs_of_task .writes (hdone htask) hmem)).2 hsolid

/-! ### The simulation -/

/-- The copy of a property holds what came in. -/
lemma runAll_copied (h : Orderly collection found previous plan storage) {mark : String}
    (hcopy : ⟨plan.request.outMark ++ name, mark ++ name⟩ ∈ storage.copies) :
    Copy.runAll storage.copies cells (plan.request.outMark ++ name) = cells (mark ++ name) := by
  refine Copy.runAll_target ?_ ?_ hcopy cells
  · intro copy hcopy copy' hcopy' heq
    obtain ⟨name, mark, hmark, rfl⟩ := h.fits.laid.copies copy hcopy
    obtain ⟨name', mark', -, rfl⟩ := h.fits.laid.copies copy' hcopy'
    obtain ⟨hmem, hne⟩ := h.fits.entryMark_mem h.standard h.follows hmark
    exact hne (Mark.append_inj hmem h.standard.outMark_mem.1 heq).1
  · intro copy hcopy copy' hcopy' heq
    obtain ⟨name, mark, hmark, rfl⟩ := h.fits.laid.copies copy hcopy
    obtain ⟨name', mark', hmark', rfl⟩ := h.fits.laid.copies copy' hcopy'
    obtain rfl := (Mark.append_inj h.standard.outMark_mem.1 h.standard.outMark_mem.1 heq).2
    rw [hmark] at hmark'
    rw [Option.some.inj hmark']

/-- **The copies establish the simulation.**  A property from outside is held where it came in, or by
its copy; no copy overwrites what another one reads. -/
lemma agree_copies (h : Orderly collection found previous plan storage)
    (hentry : ∀ name mark, plan.pipeline.Supplied name → storage.entryMark? name = some mark →
      cells (mark ++ name) = properties name) :
    Agree plan storage [] properties (Copy.runAll storage.copies cells) := by
  rintro name (hsupplied | ⟨task, htask, -⟩)
  · obtain ⟨mark, hmark⟩ := h.fits.exists_mark h.resolved.disjoint hsupplied.carries
    rw [StageStorage.slot_eq hmark]
    rcases h.fits.place_of_supplied h.resolved.disjoint hsupplied hmark with hcame | ⟨rfl, hcopied⟩
    · have hmarks := h.fits.entryMark_mem h.standard h.follows hcame
      rw [Copy.runAll_of_ne, hentry name mark hsupplied hcame]
      intro copy hcopy heq
      obtain ⟨other, otherMark, -, rfl⟩ := h.fits.laid.copies copy hcopy
      exact hmarks.2 (Mark.append_inj h.standard.outMark_mem.1 hmarks.1 heq).1.symm
    · obtain ⟨mark, hcame, hcopy⟩ := hcopied
      rw [h.runAll_copied hcopy, hentry name mark hsupplied hcame]
  · exact absurd htask List.not_mem_nil

/-- **A task keeps the simulation.** -/
lemma agree_perform (h : Orderly collection found previous plan storage)
    (hsplit : plan.tasks = done ++ task :: rest) (meaning : Meaning V)
    (hagree : Agree plan storage done properties cells) :
    Agree plan storage (done ++ [task]) (task.perform plan.request.aliases.choice meaning properties)
      (task.perform storage.aliases.choice meaning cells) := by
  have htask : task ∈ plan.tasks := hsplit ▸ List.mem_append_right _ List.mem_cons_self
  have hvalues : (task.taken.map fun property => cells (storage.aliases.choice property.name))
      = task.taken.map fun property =>
        properties (plan.request.aliases.choice property.name) := by
    refine List.map_congr_left ?_
    intro property hproperty
    obtain ⟨hsolid, hspec, -⟩ := spec_of_taken htask hproperty
    rw [h.choice_eq_slot hspec hsolid]
    exact hagree _ (h.ready_of_taken hsplit hproperty)
  intro name hready
  have hdone : done ++ [task] ⊆ plan.tasks := by
    rw [hsplit]
    exact List.append_subset.2 ⟨List.subset_append_left _ _, by simp⟩
  rw [Task.perform, Task.perform, hvalues]
  -- Both runs write the same values; a value written to another property goes to another variable.
  refine Task.write_agree (fun a b => h.fits.slot_inj h.resolved.disjoint h.standard h.follows)
    ?_ (h.carries_of_ready hdone hready) 0 properties cells ?_
  · intro property hproperty
    obtain ⟨hsolid, hspec, -⟩ := spec_of_given htask hproperty
    exact ⟨(h.carries_iff hspec).2 hsolid, h.choice_eq_slot hspec hsolid⟩
  · rcases hready with hsupplied | ⟨writer, hwriter, property, hproperty, rfl⟩
    · exact Or.inl (hagree name (Or.inl hsupplied))
    · rcases List.mem_append.1 hwriter with hwriter | hwriter
      · exact Or.inl (hagree _ (Or.inr ⟨writer, hwriter, property, hproperty, rfl⟩))
      · obtain rfl := List.mem_singleton.1 hwriter
        exact Or.inr ⟨property, List.mem_append_right _ hproperty, rfl⟩

lemma agree_performAll (h : Orderly collection found previous plan storage)
    (hsplit : plan.tasks = done ++ rest) (meaning : Nat → Meaning V)
    (hagree : Agree plan storage [] properties cells) :
    Agree plan storage done (performAll plan.request.aliases.choice meaning done properties)
      (performAll storage.aliases.choice meaning done cells) := by
  induction done using List.reverseRecOn generalizing rest with
  | nil => exact hagree
  | append_singleton done task ih =>
      rw [List.append_assoc, List.singleton_append] at hsplit
      rw [performAll_concat, performAll_concat]
      exact h.agree_perform hsplit (meaning done.length) (ih hsplit)

/-- No task touches what is only handed through, nor the copy of it. -/
lemma through_untouched (h : Orderly collection found previous plan storage)
    (hname : name ∈ plan.pipeline.pipethrough.names) (htask : task ∈ plan.tasks)
    (hproperty : property ∈ task.given) :
    plan.request.aliases.choice property.name ≠ name ∧
      storage.aliases.choice property.name ≠ plan.request.outMark ++ name := by
  obtain ⟨hsolid, hspec, hlisted⟩ := spec_of_given htask hproperty
  have hne : plan.request.aliases.choice property.name ≠ name := by
    rintro rfl
    rcases hlisted with hmem | hmem
    · exact h.resolved.not_filtered hname ⟨task, htask, property, hmem, rfl⟩
    · exact h.resolved.not_written .pipethrough hname (by decide) (by decide)
        ⟨task, htask, property, hmem, rfl⟩
  refine ⟨hne, ?_⟩
  obtain ⟨mark, hmark⟩ :=
    h.fits.exists_mark h.resolved.disjoint ((h.carries_iff hspec).2 hsolid)
  rw [h.choice_eq_slot hspec hsolid, StageStorage.slot_eq hmark]
  intro heq
  exact hne (Mark.append_inj (h.fits.placeMark_mem h.standard h.follows hmark)
    h.standard.outMark_mem.1 heq).2

/-- **What is handed on ends with the value of its property.**  A property that some task writes or
changes is held by the variable that is handed on; one that is only handed through was copied there
and is left alone. -/
lemma outputs_computed (h : Orderly collection found previous plan storage)
    (meaning : Nat → Meaning V)
    (hentry : ∀ name mark, plan.pipeline.Supplied name → storage.entryMark? name = some mark →
      cells (mark ++ name) = properties name) (hname : name ∈ storage.outputs.names) :
    performAll storage.aliases.choice meaning plan.tasks (Copy.runAll storage.copies cells)
        (plan.request.outMark ++ name)
      = performAll plan.request.aliases.choice meaning plan.tasks properties name := by
  have hagree := h.agree_performAll (List.append_nil _).symm meaning (h.agree_copies hentry)
  by_cases hthrough : name ∈ plan.pipeline.pipethrough.names
  · rw [performAll_of_ne fun task htask property hproperty =>
        (h.through_untouched hthrough htask hproperty).2,
      performAll_of_ne fun task htask property hproperty =>
        (h.through_untouched hthrough htask hproperty).1]
    have hnot : name ∉ plan.pipeline.output.solidNames := fun hmem =>
      h.resolved.disjoint.not_mem .pipethrough .output (by decide) hthrough
        (PropertyList.solidNames_subset _ hmem)
    obtain ⟨mark, hcame, hcopy⟩ := (h.fits.laid.handed name (Or.inl hname)).resolve_left hnot
    have hsupplied := h.fits.entry_iff.1 (Option.ne_none_iff_exists'.2 ⟨mark, hcame⟩)
    rw [h.runAll_copied hcopy, hentry name mark hsupplied hcame]
  · rw [← StageStorage.slot_eq (h.fits.place_of_output h.resolved.disjoint hname hthrough)]
    refine hagree name ?_
    rcases h.fits.laid.outputs name hname with hmem | hmem | hmem
    · exact Or.inl ⟨.filter, by decide, by decide, hmem⟩
    · exact absurd (PropertyList.solidNames_subset _ hmem) hthrough
    · obtain ⟨task, htask, property, hlisted, rfl⟩ :=
        h.resolved.written_of_output (PropertyList.solidNames_subset _ hmem)
      have hsolid := (h.carries_iff (StagePlan.mem_specs_of_task .writes htask hlisted)).1
        ⟨.output, hmem⟩
      exact Or.inr ⟨task, htask, property, PropertyList.mem_solid.2 ⟨hlisted, hsolid⟩, rfl⟩

end Orderly

/-- **`main` computes the resolved pipeline.**  For every stage of the usual kinds that was planned
from a collection and got its storage, with aliases that run in no circle, nothing spelled like a
variable and no property that is a token in one place only: every property from outside comes in
through a variable, and if these hold the values of their properties, running the copies and then the
tasks over variables ends with the value of each property that is handed on, as the same tasks
compute it over properties. -/
theorem main_computes_pipeline (collection : TaskCollection) (request : StageRequest)
    (hrequest : request.Standard) (wanted : PropertyList) {draft draft' : Draft} {plan : StagePlan}
    (hplan : Drafting.planStage collection.resolver request wanted draft = .ok plan draft')
    (setting : Setting) (previous : Option Handover) (hprevious : request.Follows previous)
    (last : Bool) {draft₁ draft₂ : Draft} {storage : StageStorage}
    (hstorage : Drafting.assignStage setting plan previous last draft₁ = .ok storage draft₂)
    (hacyclic : request.aliases.Acyclic)
    (hnames : ∀ cls, ∀ name ∈ (plan.pipeline.list cls).names, ¬ Mark.Marked name)
    (hkeys : ∀ key ∈ request.aliases.keys, ¬ Mark.Marked key)
    (htokens : ∀ p ∈ plan.specs, ∀ q ∈ plan.specs,
      request.aliases.choice p.name = request.aliases.choice q.name → p.isVoid = q.isVoid)
    (meaning : Nat → Meaning V) (properties cells : String → V)
    (hentry : ∀ name mark, plan.pipeline.Supplied name → storage.entryMark? name = some mark →
      cells (mark ++ name) = properties name) :
    (∀ name, plan.pipeline.Supplied name → storage.entryMark? name ≠ none) ∧
    ∀ property ∈ storage.outputs.entries,
      performAll storage.aliases.choice meaning plan.tasks (Copy.runAll storage.copies cells)
          (request.outMark ++ property.name)
        = performAll request.aliases.choice meaning plan.tasks properties property.name := by
  obtain ⟨rfl, found, hfound⟩ := StagePlan.resolved_of_planStage hplan
  have hfits := StageStorage.fits_of_assignStage hfound.disjoint hstorage
  have horderly : Orderly collection found previous plan storage :=
    ⟨hfound, hfits, hrequest, hprevious, hacyclic, hnames, hkeys, htokens⟩
  refine ⟨?_, ?_⟩
  · intro name hsupplied
    exact hfits.entry_iff.2 hsupplied
  · intro property hproperty
    exact horderly.outputs_computed meaning hentry (PropertyList.name_mem_names hproperty)

/-- Two tasks of a compute stage: the first changes a uniform and outputs what the second reads. -/
def toning : TaskCollection :=
  (TaskCollection.empty.register
    (.call "shade" { consuming := .ofList [⟨"height", .vec4⟩]
                     inputs := .ofList [⟨"base", .vec4⟩]
                     filters := .ofList [⟨"tint", .vec4⟩]
                     outputs := .ofList [⟨"color", .vec4⟩] }) [.compute]).register
    (.call "tone" { inputs := .ofList [⟨"color", .vec4⟩, ⟨"tint", .vec4⟩]
                    outputs := .ofList [⟨"bright", .vec4⟩] }) [.compute]

def toningSetting : Setting where
  catalogue := .empty
  vertexLayout := {}
  resolver := toning.resolver
  options := {}

/-- The request for `toning`; the property behind `base` is `albedo`. -/
def toningRequest : StageRequest := .compute (.ofList [("base", "albedo")]) {}

/-- The three kinds of properties that are handed on: a changed one, one that is handed through and
one that is output.  Every property holds its own name at first, and a task appends whatever it
takes. -/
theorem main_computes_pipeline_toning : ∃ plan draft' storage draft₂,
    Drafting.planStage toning.resolver toningRequest
        (.ofList [⟨"bright", .vec4⟩, ⟨"tint", .vec4⟩, ⟨"sky", .vec4⟩]) { registry := .ofBasics }
      = .ok plan draft' ∧
    Drafting.assignStage toningSetting plan none true draft' = .ok storage draft₂ ∧
    storage.outputs.names = ["tint", "sky", "bright"] ∧
    ∀ property ∈ storage.outputs.entries,
      performAll storage.aliases.choice (fun _ taken _ => String.join taken) plan.tasks
          (Copy.runAll storage.copies fun cell => String.ofList (cell.toList.drop 8))
          (toningRequest.outMark ++ property.name)
        = performAll toningRequest.aliases.choice (fun _ taken _ => String.join taken) plan.tasks id
          property.name := by
  have htest : (match Drafting.planStage toning.resolver toningRequest
        (.ofList [⟨"bright", .vec4⟩, ⟨"tint", .vec4⟩, ⟨"sky", .vec4⟩]) { registry := .ofBasics } with
      | .error _ _ => false
      | .ok plan draft' => match Drafting.assignStage toningSetting plan none true draft' with
        | .error _ _ => false
        | .ok storage _ => decide (storage.outputs.names = ["tint", "sky", "bright"] ∧
            (∀ cls ∈ PropertyClass.all, ∀ name ∈ (plan.pipeline.list cls).names,
              ¬ Mark.Marked name) ∧
            (∀ p ∈ plan.specs, ∀ q ∈ plan.specs, toningRequest.aliases.choice p.name
              = toningRequest.aliases.choice q.name → p.isVoid = q.isVoid) ∧
            ∀ name ∈ plan.pipeline.sourceNames, storage.entryMark? name = some Mark.uniform))
      = true := by decide +kernel
  split at htest
  · exact absurd htest (by simp)
  · next plan draft' hplan =>
    split at htest
    · exact absurd htest (by simp)
    · next storage draft₂ hstorage =>
      obtain ⟨houtputs, hnames, htokens, hentries⟩ := of_decide_eq_true htest
      refine ⟨plan, draft', storage, draft₂, hplan, hstorage, houtputs, ?_⟩
      refine (main_computes_pipeline toning toningRequest (.compute _ _) _ hplan toningSetting none
        (fun _ hnone => absurd hnone (by simp)) true hstorage (by decide) ?_ (by decide) htokens
        _ _ _ ?_).2
      · intro cls
        exact hnames cls (by cases cls <;> decide)
      · intro name mark hsupplied hmark
        have huniform := hentries name (Pipeline.mem_sourceNames.2 hsupplied)
        rw [hmark] at huniform
        obtain rfl := Option.some.inj huniform
        rw [String.toList_append]
        exact String.ofList_toList

end ShaderWeave
