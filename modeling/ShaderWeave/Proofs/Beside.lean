import Mathlib.Data.List.Forall2
import Mathlib.Tactic.Common

/-!
# Two runs side by side

The same work done from two different states.  A `Bond` says which states belong together and how a
pair of states may go on.  `Bond.Beside` says that two actions, run from a pair of states, both
succeed with corresponding values or both fail with the same error, and leave a pair of states that
belong together again.

Actions that are put together from parts that run side by side run side by side: `Bond.Beside.bind`
for sequences, `Bond.beside_foldlM`, `Bond.beside_mapM` and `Bond.beside_forM` for loops, and
`Bond.beside_onPart` for work on a part of the state.  **What has been found out about values may
depend on the states,** as long as it stays true when they go on.
-/

namespace ShaderWeave

/-- Which states of two runs belong together, and how a pair of states may go on. -/
structure Bond (σ : Type) where
  Rel : σ → σ → Prop
  Goes : σ → σ → σ → σ → Prop
  refl (s s' : σ) : Goes s s' s s'
  trans {s s' t t' u u' : σ} : Goes s s' t t' → Goes t t' u u' → Goes s s' u u'

namespace Bond

variable {ε σ α α' β β' γ γ' : Type} (bond : Bond σ)

/-- Two results with corresponding values, or with the same error. -/
def Twin (A : σ → σ → α → α' → Prop) (s s' : σ) :
    EStateM.Result ε σ α → EStateM.Result ε σ α' → Prop
  | .ok a t, .ok a' t' => bond.Rel t t' ∧ bond.Goes s s' t t' ∧ A t t' a a'
  | .error e t, .error e' t' => e = e' ∧ bond.Rel t t' ∧ bond.Goes s s' t t'
  | _, _ => False

/-- Two actions run side by side from a pair of states. -/
def Beside (A : σ → σ → α → α' → Prop) (x : EStateM ε σ α) (x' : EStateM ε σ α') (s s' : σ) :
    Prop :=
  bond.Twin A s s' (x s) (x' s')

/-- Values that are equal, whatever the states are. -/
abbrev Equal : σ → σ → α → α → Prop := fun _ _ a a' => a = a'

variable {bond} {A : σ → σ → α → α' → Prop} {C : σ → σ → β → β' → Prop} {s s' t t' : σ}

lemma Twin.goes {r : EStateM.Result ε σ α} {r' : EStateM.Result ε σ α'}
    (hgoes : bond.Goes s s' t t') (h : bond.Twin A t t' r r') : bond.Twin A s s' r r' := by
  cases r with
  | ok a u =>
      cases r' with
      | ok a' u' => exact ⟨h.1, bond.trans hgoes h.2.1, h.2.2⟩
      | error e' u' => exact h
  | error e u =>
      cases r' with
      | ok a' u' => exact h
      | error e' u' => exact ⟨h.1, h.2.1, bond.trans hgoes h.2.2⟩

lemma beside_pure {a : α} {a' : α'} (hrel : bond.Rel s s') (h : A s s' a a') :
    bond.Beside A (pure a : EStateM ε σ α) (pure a') s s' :=
  ⟨hrel, bond.refl s s', h⟩

lemma beside_throw (e : ε) (hrel : bond.Rel s s') :
    bond.Beside A (throw e : EStateM ε σ α) (throw e) s s' :=
  ⟨rfl, hrel, bond.refl s s'⟩

lemma beside_ite {c : Prop} [Decidable c] {x y : EStateM ε σ α} {x' y' : EStateM ε σ α'}
    (h : c → bond.Beside A x x' s s') (hnot : ¬c → bond.Beside A y y' s s') :
    bond.Beside A (if c then x else y) (if c then x' else y') s s' := by
  split
  · next hc => exact h hc
  · next hc => exact hnot hc

lemma Beside.bind {x : EStateM ε σ α} {x' : EStateM ε σ α'} {f : α → EStateM ε σ β}
    {f' : α' → EStateM ε σ β'} (h : bond.Beside A x x' s s')
    (hnext : ∀ a a' t t', bond.Rel t t' → bond.Goes s s' t t' → A t t' a a' →
      bond.Beside C (f a) (f' a') t t') : bond.Beside C (x >>= f) (x' >>= f') s s' := by
  change bond.Twin C s s' (match x s with | .ok a t => f a t | .error e t => .error e t)
    (match x' s' with | .ok a t => f' a t | .error e t => .error e t)
  rw [Beside] at h
  generalize x s = r at h ⊢
  generalize x' s' = r' at h ⊢
  cases r with
  | ok a t =>
      cases r' with
      | ok a' t' => exact (hnext a a' t t' h.1 h.2.1 h.2.2).goes h.2.1
      | error e' t' => exact h.elim
  | error e t =>
      cases r' with
      | ok a' t' => exact h.elim
      | error e' t' => exact h

lemma beside_get_bind {f : σ → EStateM ε σ β} {f' : σ → EStateM ε σ β'}
    (h : bond.Beside C (f s) (f' s') s s') : bond.Beside C (get >>= f) (get >>= f') s s' := h

lemma Beside.imp {C : σ → σ → α → α' → Prop} {x : EStateM ε σ α} {x' : EStateM ε σ α'}
    (h : bond.Beside A x x' s s')
    (himp : ∀ a a' t t', bond.Goes s s' t t' → A t t' a a' → C t t' a a') :
    bond.Beside C x x' s s' := by
  rw [Beside] at h ⊢
  generalize x s = r at h ⊢
  generalize x' s' = r' at h ⊢
  cases r with
  | ok a t =>
      cases r' with
      | ok a' t' => exact ⟨h.1, h.2.1, himp a a' t t' h.2.1 h.2.2⟩
      | error e' t' => exact h
  | error e t =>
      cases r' with
      | ok a' t' => exact h
      | error e' t' => exact h

/-! ## Loops -/

/-- A loop runs side by side if its steps do.  The invariant speaks of the elements that are
done. -/
lemma beside_foldlM {A : List γ → σ → σ → α → α' → Prop} {f : α → γ → EStateM ε σ α}
    {f' : α' → γ → EStateM ε σ α'} {xs : List γ} {a : α} {a' : α'} (hrel : bond.Rel s s')
    (hstart : A [] s s' a a')
    (hstep : ∀ done x a a' t t', x ∈ xs → bond.Rel t t' → bond.Goes s s' t t' → A done t t' a a' →
      bond.Beside (A (done ++ [x])) (f a x) (f' a' x) t t') :
    bond.Beside (A xs) (xs.foldlM f a) (xs.foldlM f' a') s s' := by
  suffices hrest : ∀ rest done a a' t t', (∀ x ∈ rest, x ∈ xs) → bond.Rel t t' →
      bond.Goes s s' t t' → A done t t' a a' →
      bond.Beside (A (done ++ rest)) (rest.foldlM f a) (rest.foldlM f' a') t t' from
    hrest xs [] a a' s s' (fun _ => id) hrel (bond.refl s s') hstart
  intro rest
  induction rest with
  | nil =>
      intro done a a' t t' _ hrel _ hA
      rw [List.foldlM_nil, List.foldlM_nil, List.append_nil]
      exact beside_pure hrel hA
  | cons x rest ih =>
      intro done a a' t t' hmem hrel hgoes hA
      rw [List.foldlM_cons, List.foldlM_cons]
      have hx := hstep done x a a' t t' (hmem x List.mem_cons_self) hrel hgoes hA
      refine hx.bind fun b b' u u' hrel' hgoes' hA' => ?_
      have := ih (done ++ [x]) b b' u u' (fun y hy => hmem y (List.mem_cons_of_mem _ hy)) hrel'
        (bond.trans hgoes hgoes') hA'
      rwa [List.append_assoc, List.singleton_append] at this

lemma beside_mapM {f : γ → EStateM ε σ α} {f' : γ' → EStateM ε σ α} {xs : List γ} {xs' : List γ'}
    (hrel : bond.Rel s s')
    (h : List.Forall₂ (fun x x' => ∀ t t', bond.Rel t t' → bond.Goes s s' t t' →
      bond.Beside Equal (f x) (f' x') t t') xs xs') :
    bond.Beside Equal (xs.mapM f) (xs'.mapM f') s s' := by
  suffices hrest : ∀ t t', bond.Rel t t' → bond.Goes s s' t t' →
      bond.Beside Equal (xs.mapM f) (xs'.mapM f') t t' from
    hrest s s' hrel (bond.refl s s')
  induction h with
  | nil => exact fun t t' hrel _ => beside_pure hrel rfl
  | cons head _ ih =>
      intro t t' hrel hgoes
      rw [List.mapM_cons, List.mapM_cons]
      refine (head t t' hrel hgoes).bind fun a a' u u' hrel' hgoes' ha => ?_
      refine (ih u u' hrel' (bond.trans hgoes hgoes')).bind fun b b' v v' hrel'' _ hb => ?_
      exact beside_pure hrel'' (by rw [ha, hb])

lemma beside_mapM_of_mem {f f' : γ → EStateM ε σ α} {xs : List γ} (hrel : bond.Rel s s')
    (h : ∀ x ∈ xs, ∀ t t', bond.Rel t t' → bond.Goes s s' t t' →
      bond.Beside Equal (f x) (f' x) t t') :
    bond.Beside Equal (xs.mapM f) (xs.mapM f') s s' :=
  beside_mapM hrel (List.forall₂_same.2 h)

lemma beside_forM {f f' : γ → EStateM ε σ PUnit} {xs : List γ} (hrel : bond.Rel s s')
    (h : ∀ x ∈ xs, ∀ t t', bond.Rel t t' → bond.Goes s s' t t' →
      bond.Beside Equal (f x) (f' x) t t') :
    bond.Beside Equal (xs.forM f) (xs.forM f') s s' := by
  suffices hrest : ∀ t t', bond.Rel t t' → bond.Goes s s' t t' →
      bond.Beside Equal (xs.forM f) (xs.forM f') t t' from
    hrest s s' hrel (bond.refl s s')
  induction xs with
  | nil => exact fun t t' hrel _ => beside_pure hrel rfl
  | cons x xs ih =>
      intro t t' hrel hgoes
      change bond.Beside Equal (f x >>= fun _ => xs.forM f) (f' x >>= fun _ => xs.forM f') t t'
      refine (h x List.mem_cons_self t t' hrel hgoes).bind fun _ _ u u' hrel' hgoes' _ => ?_
      exact ih (fun y hy => h y (List.mem_cons_of_mem _ hy)) u u' hrel' (bond.trans hgoes hgoes')

/-! ## Parts of the state -/

/-- Work on a part of the state, with its errors reworded. -/
def onPart {τ δ : Type} (view : τ → σ) (settle : τ → σ → τ) (reword : ε → δ) (x : EStateM ε σ α) :
    EStateM δ τ α := fun t =>
  match x (view t) with
  | .ok a s => .ok a (settle t s)
  | .error e s => .error (reword e) (settle t s)

/-- Work on parts runs side by side if what it leaves fits into the wholes. -/
lemma beside_onPart {τ δ : Type} {whole : Bond τ} {view : τ → σ} {settle : τ → σ → τ}
    {reword : ε → δ} {A : α → α' → Prop} {x : EStateM ε σ α} {x' : EStateM ε σ α'} {t t' : τ}
    (h : bond.Beside (fun _ _ => A) x x' (view t) (view t'))
    (hfits : ∀ u u', bond.Rel u u' → bond.Goes (view t) (view t') u u' →
      whole.Rel (settle t u) (settle t' u') ∧ whole.Goes t t' (settle t u) (settle t' u')) :
    whole.Beside (fun _ _ => A) (onPart view settle reword x) (onPart view settle reword x')
      t t' := by
  rw [Beside] at h
  rw [Beside, onPart, onPart]
  generalize x (view t) = r at h ⊢
  generalize x' (view t') = r' at h ⊢
  cases r with
  | ok a u =>
      cases r' with
      | ok a' u' => exact ⟨(hfits u u' h.1 h.2.1).1, (hfits u u' h.1 h.2.1).2, h.2.2⟩
      | error e' u' => exact h.elim
  | error e u =>
      cases r' with
      | ok a' u' => exact h.elim
      | error e' u' =>
          obtain ⟨rfl, hrel, hgoes⟩ := h
          exact ⟨rfl, hfits u u' hrel hgoes⟩

end Bond

end ShaderWeave
