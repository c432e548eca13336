import Mathlib.Data.List.Nodup
import ShaderWeave.Program.Blueprint
import ShaderWeave.Proofs.Collections
import ShaderWeave.Proofs.Outcome

/-!
# What work on a draft leaves alone

Storage classes and binding points are shared by all stages of a program, and most of the work on a
draft has nothing to do with them.  `Drafting.Keeps` says so of an action: **if it succeeds, what the
stages share is as before.**  Actions that are put together from such actions are such actions again
(`Drafting.Keeps.bind` and the lemmas after it), so for each function of planning and assignment one
look at its steps is enough.

Writing sources gives out binding points and touches nothing else that is shared.
`ProgramStorage.bindAll` asks for the binding points of some names in order; a number that was given
out stays (`ProgramStorage.binding?_bindAll`).
-/

namespace ShaderWeave

/-! ## Storage classes and binding points -/

namespace ProgramStorage

variable {program : ProgramStorage} {name other : String} {names : List String}

lemma list_insert (program : ProgramStorage) (cls cls' : StorageClass) (property : Property) :
    (program.insert cls property).list cls'
      = if cls' = cls then (program.list cls').insert property else program.list cls' := by
  cases cls <;> cases cls' <;> rfl

lemma mem_list_insert {cls cls' : StorageClass} {property p : Property}
    (h : p ∈ ((program.insert cls property).list cls').entries) :
    p ∈ (program.list cls').entries ∨ cls' = cls ∧ p = property := by
  rw [list_insert] at h
  split_ifs at h with hcls
  · exact (PropertyList.mem_entries_of_insert h).imp_right fun heq => ⟨hcls, heq⟩
  · exact Or.inl h

lemma bindings_bind (program : ProgramStorage) (name : String) :
    (program.bind name).2.bindings
      = if name ∈ program.bindings then program.bindings else program.bindings ++ [name] := by
  rw [bind]
  cases hbinding : program.binding? name with
  | none =>
      rw [binding?, List.findIdx?_eq_none_iff] at hbinding
      rw [if_neg fun hmem => by simpa using hbinding name hmem]
  | some binding =>
      obtain ⟨hlt, hname, -⟩ := List.findIdx?_eq_some_iff_getElem.1 hbinding
      rw [if_pos (beq_iff_eq.1 hname ▸ List.getElem_mem hlt)]

lemma binding?_ne_none : program.binding? name ≠ none ↔ name ∈ program.bindings := by
  rw [binding?, ne_eq, List.findIdx?_eq_none_iff]
  simp

lemma list_bind (program : ProgramStorage) (name : String) (cls : StorageClass) :
    (program.bind name).2.list cls = program.list cls := by
  rw [ProgramStorage.bind]
  cases program.binding? name with
  | none => cases cls <;> rfl
  | some binding => rfl

/-- The number that `bind` gives is the one that the name has from then on. -/
lemma binding?_bind_self (program : ProgramStorage) (name : String) :
    (program.bind name).2.binding? name = some (program.bind name).1 := by
  rw [bind]
  cases hbinding : program.binding? name with
  | none =>
      rw [binding?] at hbinding
      rw [binding?, List.findIdx?_append, hbinding]
      simp
  | some binding => exact hbinding

/-- Asks for the binding points of names, one after the other. -/
def bindAll (program : ProgramStorage) (names : List String) : ProgramStorage :=
  names.foldl (fun program name => (program.bind name).2) program

lemma bindAll_append (program : ProgramStorage) (names more : List String) :
    program.bindAll (names ++ more) = (program.bindAll names).bindAll more :=
  List.foldl_append

lemma list_bindAll (program : ProgramStorage) (names : List String) (cls : StorageClass) :
    (program.bindAll names).list cls = program.list cls := by
  induction names generalizing program with
  | nil => rfl
  | cons name names ih => exact (ih _).trans (list_bind program name cls)

lemma mem_bindings_bindAll :
    name ∈ (program.bindAll names).bindings ↔ name ∈ program.bindings ∨ name ∈ names := by
  induction names generalizing program with
  | nil => simp [bindAll]
  | cons first names ih =>
      have hfirst : name ∈ (program.bind first).2.bindings ↔ name ∈ program.bindings ∨ name = first := by
        rw [bindings_bind]
        split_ifs with hmem
        · constructor
          · exact Or.inl
          · rintro (hname | rfl)
            · exact hname
            · exact hmem
        · rw [List.mem_append, List.mem_singleton]
      rw [bindAll, List.foldl_cons, ← bindAll, ih, hfirst, List.mem_cons, or_assoc]

lemma nodup_bindAll (h : program.bindings.Nodup) : (program.bindAll names).bindings.Nodup := by
  induction names generalizing program with
  | nil => exact h
  | cons first names ih =>
      refine ih ?_
      rw [bindings_bind]
      split_ifs with hmem
      · exact h
      · rw [← List.concat_eq_append]
        exact h.concat hmem

/-- A number that was given out stays. -/
lemma binding?_bindAll {number : Nat} (h : program.binding? name = some number) :
    (program.bindAll names).binding? name = some number := by
  induction names generalizing program with
  | nil => exact h
  | cons first names ih =>
      refine ih ?_
      rw [binding?, bindings_bind]
      split_ifs
      · exact h
      · rw [List.findIdx?_append, ← binding?, h]
        rfl

end ProgramStorage

end ShaderWeave

namespace ShaderWeave.Drafting

variable {α β : Type}

/-- The work leaves what the stages share alone. -/
def Keeps (x : Drafting α) : Prop :=
  ∀ draft a draft', x draft = .ok a draft' → draft'.program = draft.program

namespace Keeps

lemma pure (a : α) : Keeps (pure a) := by
  intro draft b draft' h
  obtain ⟨-, rfl⟩ := Outcome.pure_ok h
  rfl

lemma throw (error : SpecificationError) : Keeps (throw error : Drafting α) := by
  rintro draft a draft' ⟨⟩

lemma get : Keeps get := by
  rintro draft a draft' ⟨⟩
  rfl

lemma bind {x : Drafting α} {f : α → Drafting β} (hx : Keeps x) (hf : ∀ a, Keeps (f a)) :
    Keeps (x >>= f) := by
  intro draft b draft' h
  obtain ⟨a, draft₁, hx', hf'⟩ := Outcome.bind_ok h
  rw [hf a draft₁ b draft' hf', hx draft a draft₁ hx']

lemma foldlM {f : β → α → Drafting β} (hf : ∀ b x, Keeps (f b x)) (xs : List α) (b : β) :
    Keeps (xs.foldlM f b) := by
  induction xs generalizing b with
  | nil => exact pure b
  | cons x xs ih =>
      rw [List.foldlM_cons]
      exact (hf b x).bind ih

lemma forM {f : α → Drafting Unit} (hf : ∀ x, Keeps (f x)) (xs : List α) : Keeps (xs.forM f) := by
  induction xs with
  | nil => exact pure ()
  | cons x xs ih => exact (hf x).bind fun _ => ih

end Keeps

/-! ## Planning -/

lemma keeps_report (events : List Event) : Keeps (report events) := by
  rintro draft a draft' ⟨⟩
  rfl

lemma keeps_ofExcept (x : Except SpecificationError α) : Keeps (ofExcept x) := by
  cases x with
  | ok a => exact Keeps.pure a
  | error error => exact Keeps.throw error

lemma keeps_planStage (resolver : Resolver) (request : StageRequest) (wanted : PropertyList) :
    Keeps (planStage resolver request wanted) := by
  unfold planStage
  dsimp only
  split
  · exact Keeps.throw _
  · refine (keeps_report _).bind fun _ => ?_
    refine (keeps_ofExcept _).bind fun _ => ?_
    exact (keeps_ofExcept _).bind fun _ => Keeps.pure _

lemma keeps_planBackwards (resolver : Resolver) (wanted : PropertyList)
    (requests : List StageRequest) : Keeps (planBackwards resolver wanted requests) := by
  induction requests generalizing wanted with
  | nil => exact Keeps.pure []
  | cons request earlier ih =>
      rw [planBackwards]
      exact (keeps_planStage resolver request wanted).bind fun plan =>
        (ih plan.wanted).bind fun _ => Keeps.pure _

/-! ## Assignment -/

variable (setting : Setting)

lemma keeps_convert (type : HostType) : Keeps (convert setting type) := by
  have honRegistry : Keeps (onRegistry (Registry.convert setting.catalogue type)) := by
    intro draft key draft' h
    unfold onRegistry at h
    split at h
    · cases h
      rfl
    · cases h
  exact honRegistry.bind fun _ => Keeps.get.bind fun _ => Keeps.pure _

lemma keeps_gpuType (type : HostType) : Keeps (gpuType setting type) :=
  (keeps_convert setting type).bind fun _ => Keeps.get.bind fun _ => Keeps.pure _

lemma keeps_hasValueName (property : Property) : Keeps (hasValueName setting property) :=
  (keeps_gpuType setting property.type).bind fun _ => Keeps.pure _

lemma keeps_sourceConversion (property : Property) : Keeps (sourceConversion setting property) := by
  intro draft conversion draft' h
  unfold sourceConversion at h
  split at h
  · cases h
  · exact keeps_convert setting property.type draft conversion draft' h

variable (plan : StagePlan) (storage : StageStorage) (property : Property)

lemma keeps_assignFilter : Keeps (assignFilter setting plan storage property) := by
  unfold assignFilter
  dsimp only
  split_ifs
  · exact Keeps.pure _
  all_goals
    refine (keeps_hasValueName setting property).bind fun _ => ?_
    split_ifs
    · exact (Keeps.throw _).bind fun _ => Keeps.pure _
    · exact Keeps.pure _

lemma keeps_assignThrough (last : Bool) :
    Keeps (assignThrough setting plan last storage property) := by
  unfold assignThrough
  dsimp only
  split_ifs
  · exact Keeps.pure _
  · refine (keeps_hasValueName setting property).bind fun _ => ?_
    split_ifs
    · exact (Keeps.throw _).bind fun _ => Keeps.pure _
    · exact Keeps.pure _

lemma keeps_assignOutput : Keeps (assignOutput setting plan storage property) := by
  refine (keeps_gpuType setting property.type).bind fun _ => ?_
  dsimp only
  split_ifs
  · exact (Keeps.throw _).bind fun _ => Keeps.pure _
  · exact Keeps.pure _

lemma keeps_assignInner : Keeps (assignInner setting storage property) := by
  refine (keeps_gpuType setting property.type).bind fun _ => ?_
  dsimp only
  split_ifs
  · exact (Keeps.throw _).bind fun _ => Keeps.pure _
  · exact Keeps.pure _

lemma keeps_checkVarying : Keeps (checkVarying property) := by
  refine Keeps.get.bind fun _ => ?_
  dsimp only
  split_ifs
  · exact Keeps.throw _
  · exact Keeps.pure _

lemma keeps_declarationOrder : Keeps (declarationOrder setting plan storage) :=
  Keeps.foldlM (fun _ type => (keeps_convert setting type).bind fun _ =>
    Keeps.get.bind fun _ => Keeps.pure _) _ _

end ShaderWeave.Drafting
