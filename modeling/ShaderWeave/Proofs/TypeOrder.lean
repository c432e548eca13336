import ShaderWeave.Proofs.Drafts
import ShaderWeave.Proofs.DraftSteps

/-!
# The order of type declarations

A stage declares its types in an order that grows at the end, type by type (`Registry.Puts`): a type
that is not there yet goes behind its dependencies.

* `Registry.declares_declare` — declaring a type is a run of such steps that ends with the type in
  the order.  Nothing is lost on the way, because dependencies have smaller keys.
* `Registry.InOrder` — **an order made by such steps, of types that the registry knows.**  It has no
  type twice (`InOrder.nodup`), and stays one when the registry grows (`InOrder.mono`).
* `Drafting.inOrder_of_course` — the types of every stage of a blueprint are in order.
-/

namespace ShaderWeave

open Registry (Grown Grows Linked)

namespace Registry

variable {base registry registry' : Registry} {catalogue : Catalogue}
  {order order' : List TypeKey} {key : TypeKey} {depth : Nat}

/-! ## One type -/

/-- A type that is not in the order goes behind its dependencies. -/
inductive Puts (registry : Registry) (order : List TypeKey) : List TypeKey → Prop where
  | intro {key : TypeKey} (new : key ∉ order)
      (behind : ∀ dependency ∈ (registry.type key).dependencies, dependency ∈ order) :
      Puts registry order (order ++ [key])

lemma subset_of_puts (h : Relation.ReflTransGen registry.Puts order order') : order ⊆ order' := by
  induction h with
  | refl => exact List.Subset.refl _
  | tail _ hstep ih =>
      obtain ⟨-, -⟩ := hstep
      exact List.subset_append_of_subset_left _ ih

/-- The order goes on, type by type, until a type is in it.  Of the types that come in none has a
larger key. -/
structure Declares (registry : Registry) (key : TypeKey) (order order' : List TypeKey) : Prop where
  run : Relation.ReflTransGen registry.Puts order order'
  mem : key ∈ order'
  index_le : ∀ other ∈ order', other ∈ order ∨ other.index ≤ key.index

lemma declares_foldl {declare : List TypeKey → TypeKey → List TypeKey} {keys : List TypeKey}
    (h : ∀ order, ∀ key ∈ keys, registry.Declares key order (declare order key))
    (order : List TypeKey) :
    Relation.ReflTransGen registry.Puts order (keys.foldl declare order) ∧
      (∀ key ∈ keys, key ∈ keys.foldl declare order) ∧
      ∀ other ∈ keys.foldl declare order, other ∈ order ∨ ∃ key ∈ keys, other.index ≤ key.index := by
  induction keys generalizing order with
  | nil => exact ⟨.refl, List.forall_mem_nil _, fun other hother => Or.inl hother⟩
  | cons key keys ih =>
      have hfirst := h order key List.mem_cons_self
      obtain ⟨hrun, hmem, hle⟩ :=
        ih (fun order key hkey => h order key (List.mem_cons_of_mem _ hkey)) (declare order key)
      refine ⟨hfirst.run.trans hrun,
        List.forall_mem_cons.2 ⟨subset_of_puts hrun hfirst.mem, hmem⟩, fun other hother => ?_⟩
      rcases hle other hother with hbefore | ⟨later, hlater, hindex⟩
      · exact (hfirst.index_le other hbefore).imp_right fun hindex =>
          ⟨key, List.mem_cons_self, hindex⟩
      · exact Or.inr ⟨later, List.mem_cons_of_mem _ hlater, hindex⟩

/-- **Declaring a type puts it behind its dependencies,** if the depth is enough for its key. -/
lemma declares_declare (hclosed : registry.Closed) (hdepth : key.index < depth) :
    registry.Declares key order (registry.declare depth order key) := by
  induction depth generalizing order key with
  | zero => exact absurd hdepth (Nat.not_lt_zero _)
  | succ depth ih =>
      rw [declare]
      split_ifs with hmem
      · exact ⟨.refl, hmem, fun other hother => Or.inl hother⟩
      · have hbelow : ∀ order, ∀ dependency ∈ (registry.type key).dependencies,
            registry.Declares dependency order (registry.declare depth order dependency) := by
          intro order dependency hdependency
          exact ih (by have := hclosed.index_lt hdependency; omega)
        obtain ⟨hrun, hbehind, hle⟩ := declares_foldl hbelow order
        have hsmaller : ∀ other ∈ (registry.type key).dependencies.foldl (declare registry depth) order,
            other ∈ order ∨ other.index < key.index := by
          intro other hother
          refine (hle other hother).imp_right ?_
          rintro ⟨dependency, hdependency, hindex⟩
          exact Nat.lt_of_le_of_lt hindex (hclosed.index_lt hdependency)
        have hnew : key ∉ (registry.type key).dependencies.foldl (declare registry depth) order :=
          fun hin => (hsmaller key hin).elim hmem (Nat.lt_irrefl _)
        refine ⟨hrun.tail (.intro hnew hbehind), List.mem_append_right _ List.mem_cons_self, ?_⟩
        intro other hother
        rcases List.mem_append.1 hother with hother | hother
        · exact (hsmaller other hother).imp_right Nat.le_of_lt
        · exact Or.inr (Nat.le_of_eq (by rw [List.mem_singleton.1 hother]))

/-! ## Types that the registry knows -/

lemma Linked.lt (hgrown : Grown base catalogue registry) (h : Linked base registry registry key key) :
    key.index < registry.types.size := by
  cases h with
  | given h => exact Nat.lt_of_lt_of_le h hgrown.extends_base.size_types_le
  | derived _ h _ => exact typeKey?_lt hgrown.closed h

/-- **Types in order:** each behind its dependencies, and all of them in the base or registered for a
host type. -/
structure InOrder (base registry : Registry) (order : List TypeKey) : Prop where
  run : Relation.ReflTransGen registry.Puts [] order
  issued : ∀ key ∈ order, Linked base registry registry key key

namespace InOrder

lemma nil : InOrder base registry [] := ⟨.refl, List.forall_mem_nil _⟩

lemma nodup (h : InOrder base registry order) : order.Nodup := by
  obtain ⟨hrun, -⟩ := h
  induction hrun with
  | refl => exact List.nodup_nil
  | tail _ hstep ih =>
      obtain ⟨hnew, -⟩ := hstep
      rw [← List.concat_eq_append]
      exact ih.concat hnew

/-- Types stay in order, because records stay as they are. -/
lemma mono (h : InOrder base registry order) (hgrown : Grown base catalogue registry)
    (hextends : registry.Extends registry') : InOrder base registry' order := by
  obtain ⟨hrun, hissued⟩ := h
  refine ⟨?_, fun key hkey => (hissued key hkey).mono hgrown.closed hgrown.closed hextends hextends⟩
  induction hrun with
  | refl => exact .refl
  | tail _ hstep ih =>
      obtain ⟨hnew, hbehind⟩ := hstep
      have hlt := (hissued _ (List.mem_append_right _ List.mem_cons_self)).lt hgrown
      refine (ih fun key hkey => hissued key (List.mem_append_left _ hkey)).tail (.intro hnew ?_)
      rw [hextends.type hlt]
      exact hbehind

lemma declare (h : InOrder base registry order) (hgrown : Grown base catalogue registry)
    (hkey : Linked base registry registry key key) :
    InOrder base registry (registry.declare registry.types.size order key) := by
  have hlt := hkey.lt hgrown
  refine ⟨h.run.trans (declares_declare hgrown.closed hlt).run, List.forall₂_same.1 ?_⟩
  exact forall₂_declare hgrown hgrown (List.forall₂_same.2 h.issued) hkey hlt hlt

end InOrder

end Registry

/-! ## The types of a stage -/

namespace Drafting

open Registry (InOrder)

variable {base : Registry} {setting : Setting} {plan : StagePlan} {storage : StageStorage}
  {draft draft' : Draft}

/-- The loop over the host types that a stage mentions. -/
lemma inOrder_of_declarationOrder {types : List TypeKey}
    (hgrown : Grown base setting.catalogue draft.registry)
    (h : declarationOrder setting plan storage draft = .ok types draft') :
    InOrder base draft'.registry types := by
  suffices hloop : Grown base setting.catalogue draft'.registry ∧ InOrder base draft'.registry types
    from hloop.2
  refine (Outcome.steps_of_foldlM_states h).invariant
    (P := fun _ now => Grown base setting.catalogue now.2.registry ∧
      InOrder base now.2.registry now.1) ?_ ⟨hgrown, .nil⟩
  rintro done type ⟨order, now⟩ ⟨order', next⟩ - ⟨hgrown, horder⟩ hstep
  obtain ⟨conversion, next', hconvert, hstep⟩ := Outcome.bind_ok hstep
  obtain ⟨_, _, ⟨⟩, hstep⟩ := Outcome.bind_ok hstep
  obtain ⟨rfl, rfl⟩ := Outcome.pure_ok hstep
  obtain ⟨hregistry, -, hlookup⟩ := convert_ok hconvert
  have hgrows : Grows base setting.catalogue now.registry next'.registry := by
    rw [hregistry]
    exact Registry.grows_afterConvert hgrown
  have hkey := Registry.typeKey?_of_lookup? hlookup
  exact ⟨hgrows.grown, (horder.mono hgrown hgrows.extends_start).declare hgrows.grown
    (Registry.linked_of_typeKey? hgrows.grown hgrows.grown hkey hkey)⟩

/-- The last thing that the assignment of a stage does is to put its types in order.  By then all
variables have their places. -/
lemma order_of_assignStage {previous : Option Handover} {last : Bool}
    (h : assignStage setting plan previous last draft = .ok storage draft') :
    ∃ sorted before, draft.Reaches setting before ∧
      declarationOrder setting plan sorted before = .ok storage.types draft' ∧
      storage = { sorted with
        aliases := .layered [plan.request.aliases] sorted.renames, types := storage.types } := by
  unfold assignStage at h
  obtain ⟨s₁, d₁, hsources, h⟩ := Outcome.bind_ok h
  obtain ⟨s₂, d₂, hfilters, h⟩ := Outcome.bind_ok h
  obtain ⟨s₃, d₃, hthrough, h⟩ := Outcome.bind_ok h
  obtain ⟨s₄, d₄, houtputs, h⟩ := Outcome.bind_ok h
  obtain ⟨s₅, d₅, hinners, h⟩ := Outcome.bind_ok h
  have hreaches : draft.Reaches setting d₅ := by
    refine .trans ?_ (Advances.foldlM (advances_assignInner setting) _ _ _ _ _ hinners)
    refine .trans ?_ (Advances.foldlM (advances_assignOutput setting plan) _ _ _ _ _ houtputs)
    refine .trans ?_ (Advances.foldlM (fun s p => advances_assignThrough setting plan s p last)
      _ _ _ _ _ hthrough)
    refine .trans ?_ (Advances.foldlM (advances_assignFilter setting plan) _ _ _ _ _ hfilters)
    exact Advances.foldlM (fun s p => advances_assignSource setting plan s p previous)
      _ _ _ _ _ hsources
  split_ifs at h with hcompute
  · obtain ⟨_, d₆, hvarying, h⟩ := Outcome.bind_ok h
    obtain ⟨types, d₇, htypes, h⟩ := Outcome.bind_ok h
    obtain ⟨rfl, rfl⟩ := Outcome.pure_ok h
    exact ⟨s₅, d₆, hreaches.trans (Advances.forM (advances_checkVarying setting) _ _ _ _ hvarying),
      htypes, rfl⟩
  · obtain ⟨types, d₆, htypes, h⟩ := Outcome.bind_ok h
    obtain ⟨rfl, rfl⟩ := Outcome.pure_ok h
    exact ⟨s₅, d₅, hreaches, htypes, rfl⟩

lemma inOrder_of_assignStages {previous : Option Handover} {plans : List StagePlan}
    {storages : List StageStorage} (hgrown : Grown base setting.catalogue draft.registry)
    (h : assignStages setting previous plans draft = .ok storages draft') :
    ∀ storage ∈ storages, InOrder base draft'.registry storage.types := by
  induction plans generalizing previous storages draft with
  | nil =>
      obtain ⟨rfl, -⟩ := Outcome.pure_ok h
      exact List.forall_mem_nil _
  | cons plan rest ih =>
      obtain ⟨storage, assigned, hstage, h⟩ := Outcome.bind_ok h
      obtain ⟨others, final, hothers, h⟩ := Outcome.bind_ok h
      obtain ⟨rfl, rfl⟩ := Outcome.pure_ok h
      obtain ⟨sorted, before, hreaches, horder, -⟩ := order_of_assignStage hstage
      have hassigned :=
        (advances_assignStage setting plan previous rest.isEmpty _ _ _ hstage).grows hgrown
      have hfinal := (advances_assignStages setting _ rest _ _ _ hothers).grows hassigned.grown
      have hfirst := inOrder_of_declarationOrder (hreaches.grows hgrown).grown horder
      exact List.forall_mem_cons.2 ⟨hfirst.mono hassigned.grown hfinal.extends_start,
        ih hassigned.grown hothers⟩

variable {made : Blueprint} {start planned assigned final : Draft}

/-- **The types of every stage of a blueprint are in order.** -/
lemma inOrder_of_course (hgrown : Grown base setting.catalogue draft.registry)
    (h : Course setting made draft start planned assigned final) :
    ∀ storage ∈ made.storages, InOrder base final.registry storage.types := by
  have hplanned := h.plans.grows (h.registry ▸ hgrown)
  have hassigned := (advances_assignStages setting none made.plans _ _ _ h.assign).grows
    hplanned.grown
  intro storage hstorage
  exact (inOrder_of_assignStages hplanned.grown h.assign storage hstorage).mono hassigned.grown
    (h.sources.grows hassigned.grown).extends_start

end Drafting

end ShaderWeave
