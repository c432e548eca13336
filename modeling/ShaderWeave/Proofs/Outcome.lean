import Mathlib.Tactic.Common

/-!
# Successful outcomes

Resolving fails with an `Except`, drafting with an `EStateM`.  The lemmas here go one way: **from the
success of a whole to the success of its parts,** and from a failure to the part that failed.

* `Outcome.of_bind`, `Outcome.bind_ok` — a sequence succeeds only if both of its steps do.
* `Outcome.of_bind_error`, `Outcome.bind_error`, `Outcome.of_foldlM_error` — a sequence or a loop
  fails at one of its steps.
* `Outcome.Steps` — a loop that succeeded, as the chain of its steps.  Both kinds of loop give one
  (`Outcome.steps_of_foldlM`, `Outcome.steps_of_foldlM_state`; `Outcome.steps_of_foldlM_states` has
  the states in it too), and `Outcome.Steps.invariant` says that what a step keeps, the chain keeps.
* `Outcome.mapM_ok_at`, `Outcome.flatMap_of_mapM` — a loop that makes a list, told place by place and
  as a whole.
* `Outcome.succeeds`, `Outcome.passes`, `Outcome.ends` — tests of a result that can be evaluated.
-/

namespace ShaderWeave.Outcome

variable {ε σ α β : Type}

lemma of_bind {x : Except ε α} {f : α → Except ε β} {b : β} (h : x >>= f = .ok b) :
    ∃ a, x = .ok a ∧ f a = .ok b := by
  cases x with
  | error e => exact absurd h (by rintro ⟨⟩)
  | ok a => exact ⟨a, rfl, h⟩

lemma of_bind_error {x : Except ε α} {f : α → Except ε β} {e : ε} (h : x >>= f = .error e) :
    x = .error e ∨ ∃ a, x = .ok a ∧ f a = .error e := by
  cases x with
  | error e' => exact Or.inl (congrArg _ (Except.error.inj h))
  | ok a => exact Or.inr ⟨a, rfl, h⟩

lemma of_map {x : Except ε α} {f : α → β} {b : β} (h : x.map f = .ok b) :
    ∃ a, x = .ok a ∧ f a = b := by
  cases x with
  | error e => exact absurd h (by rintro ⟨⟩)
  | ok a => exact ⟨a, rfl, Except.ok.inj h⟩

lemma of_map_error {x : Except ε α} {f : α → β} {e : ε} (h : x.map f = .error e) :
    x = .error e := by
  cases x with
  | error e' => exact congrArg _ (Except.error.inj h)
  | ok a => exact absurd h (by rintro ⟨⟩)

lemma exists_of_any {x : Except ε α} {test : α → Bool} (h : x.toOption.any test = true) :
    ∃ a, x = .ok a ∧ test a = true := by
  cases x with
  | error e => cases h
  | ok a => exact ⟨a, rfl, h⟩

lemma bind_of_ok {x : EStateM ε σ α} {a : α} {s s' : σ} (h : x s = .ok a s')
    (f : α → EStateM ε σ β) : (x >>= f) s = f a s' := by
  simp only [bind, EStateM.bind, h]

lemma bind_of_error {x : EStateM ε σ α} {e : ε} {s s' : σ} (h : x s = .error e s')
    (f : α → EStateM ε σ β) : (x >>= f) s = .error e s' := by
  simp only [bind, EStateM.bind, h]

lemma get_bind (f : σ → EStateM ε σ β) (s : σ) : (get >>= f) s = f s s := rfl

lemma bind_ok {x : EStateM ε σ α} {f : α → EStateM ε σ β} {b : β} {s s' : σ}
    (h : (x >>= f) s = .ok b s') : ∃ a s₁, x s = .ok a s₁ ∧ f a s₁ = .ok b s' := by
  cases hx : x s with
  | error e s₁ => rw [bind_of_error hx] at h; exact absurd h (by rintro ⟨⟩)
  | ok a s₁ => rw [bind_of_ok hx] at h; exact ⟨a, s₁, rfl, h⟩

lemma bind_error {x : EStateM ε σ α} {f : α → EStateM ε σ β} {e : ε} {s s' : σ}
    (h : (x >>= f) s = .error e s') :
    x s = .error e s' ∨ ∃ a s₁, x s = .ok a s₁ ∧ f a s₁ = .error e s' := by
  cases hx : x s with
  | error e₁ s₁ => rw [bind_of_error hx] at h; cases h; exact Or.inl rfl
  | ok a s₁ => rw [bind_of_ok hx] at h; exact Or.inr ⟨a, s₁, rfl, h⟩

lemma pure_ok {a b : α} {s s' : σ} (h : (pure a : EStateM ε σ α) s = .ok b s') :
    a = b ∧ s = s' := by
  change EStateM.Result.ok a s = _ at h
  cases h
  exact ⟨rfl, rfl⟩

/-- The state that an outcome leaves. -/
def state : EStateM.Result ε σ α → σ
  | .ok _ s => s
  | .error _ s => s

/-- The result is a success. -/
def succeeds : EStateM.Result ε σ α → Bool
  | .ok .. => true
  | .error .. => false

lemma exists_of_succeeds {r : EStateM.Result ε σ α} (h : succeeds r = true) :
    ∃ a s, r = .ok a s := by
  cases r with
  | ok a s => exact ⟨a, s, rfl⟩
  | error e s => cases h

/-- The result is a success, and its value passes a test. -/
def passes (test : α → Bool) : EStateM.Result ε σ α → Bool
  | .ok a _ => test a
  | .error .. => false

lemma exists_of_passes {test : α → Bool} {r : EStateM.Result ε σ α} (h : passes test r = true) :
    ∃ a s, r = .ok a s ∧ test a = true := by
  cases r with
  | ok a s => exact ⟨a, s, rfl, h⟩
  | error e s => cases h

/-- The result is a success, and its value and the state it leaves pass a test. -/
def ends (test : α → σ → Bool) : EStateM.Result ε σ α → Bool
  | .ok a s => test a s
  | .error .. => false

lemma exists_of_ends {test : α → σ → Bool} {r : EStateM.Result ε σ α} (h : ends test r = true) :
    ∃ a s, r = .ok a s ∧ test a s = true := by
  cases r with
  | ok a s => exact ⟨a, s, rfl, h⟩
  | error e s => cases h

/-- Both results are successes, or both are failures with the same error. -/
def Same {σ' α' : Type} : EStateM.Result ε σ α → EStateM.Result ε σ' α' → Prop
  | .ok .., .ok .. => True
  | .error e _, .error e' _ => e = e'
  | _, _ => False

/-! ## Loops -/

/-- A loop over a list, as the chain of its steps. -/
inductive Steps (R : β → α → β → Prop) : β → List α → β → Prop where
  | nil (b : β) : Steps R b [] b
  | cons {b b₁ b' : β} {x : α} {xs : List α} (head : R b x b₁) (tail : Steps R b₁ xs b') :
      Steps R b (x :: xs) b'

lemma steps_of_foldlM {f : β → α → Except ε β} {xs : List α} {b b' : β}
    (h : xs.foldlM f b = .ok b') : Steps (fun b x b' => f b x = .ok b') b xs b' := by
  induction xs generalizing b with
  | nil =>
      obtain rfl := Except.ok.inj h
      exact Steps.nil b
  | cons x xs ih =>
      rw [List.foldlM_cons] at h
      obtain ⟨b₁, hx, h⟩ := of_bind h
      exact Steps.cons hx (ih h)

lemma of_foldlM_error {f : β → α → Except ε β} {xs : List α} {b : β} {e : ε}
    (h : xs.foldlM f b = .error e) : ∃ x ∈ xs, ∃ b', f b' x = .error e := by
  induction xs generalizing b with
  | nil => cases h
  | cons x xs ih =>
      rw [List.foldlM_cons] at h
      rcases of_bind_error h with h | ⟨b₁, -, h⟩
      · exact ⟨x, List.mem_cons_self, b, h⟩
      · obtain ⟨y, hy, rest⟩ := ih h
        exact ⟨y, List.mem_cons_of_mem _ hy, rest⟩

lemma steps_of_foldlM_state {f : β → α → EStateM ε σ β} {xs : List α} {b b' : β} {s s' : σ}
    (h : xs.foldlM f b s = .ok b' s') :
    Steps (fun b x b' => ∃ s s', f b x s = .ok b' s') b xs b' := by
  induction xs generalizing b s with
  | nil =>
      obtain ⟨rfl, -⟩ := pure_ok h
      exact Steps.nil b
  | cons x xs ih =>
      rw [List.foldlM_cons] at h
      obtain ⟨b₁, s₁, hx, h⟩ := bind_ok h
      exact Steps.cons ⟨s, s₁, hx⟩ (ih h)

/-- The chain of steps with the states between them. -/
lemma steps_of_foldlM_states {f : β → α → EStateM ε σ β} {xs : List α} {b b' : β} {s s' : σ}
    (h : xs.foldlM f b s = .ok b' s') :
    Steps (fun now x next => f now.1 x now.2 = .ok next.1 next.2) (b, s) xs (b', s') := by
  induction xs generalizing b s with
  | nil =>
      obtain ⟨rfl, rfl⟩ := pure_ok h
      exact Steps.nil (b, s)
  | cons x xs ih =>
      rw [List.foldlM_cons] at h
      obtain ⟨b₁, s₁, hx, h⟩ := bind_ok h
      refine Steps.cons ?_ (ih h)
      exact hx

/-- What a step keeps, a loop keeps.  The invariant speaks of the elements that are done. -/
lemma Steps.invariant {R : β → α → β → Prop} {P : List α → β → Prop} {xs : List α} {b b' : β}
    (hstep : ∀ done x b b', done ++ [x] <+: xs → P done b → R b x b' → P (done ++ [x]) b')
    (hstart : P [] b) (h : Steps R b xs b') : P xs b' := by
  suffices hrest : ∀ done rest b, done ++ rest = xs → P done b → Steps R b rest b' → P xs b' from
    hrest [] xs b rfl hstart h
  intro done rest
  induction rest generalizing done with
  | nil =>
      rintro b heq hP ⟨⟩
      rw [← heq, List.append_nil]
      exact hP
  | cons x rest ih =>
      rintro b heq hP ⟨⟩
      next b₁ head tail =>
        have hfront : done ++ [x] <+: xs := ⟨rest, by rw [← heq]; simp⟩
        exact ih (done ++ [x]) b₁ (by rw [← heq]; simp) (hstep done x b b₁ hfront hP head) tail

lemma forM_ok {f : α → EStateM ε σ PUnit} {xs : List α} {u : PUnit} {s s' : σ}
    (h : xs.forM f s = .ok u s') : ∀ x ∈ xs, ∃ s₁ u₁ s₂, f x s₁ = .ok u₁ s₂ := by
  induction xs generalizing s with
  | nil => exact fun x hx => absurd hx List.not_mem_nil
  | cons x xs ih =>
      obtain ⟨u₁, s₁, hx, h⟩ := bind_ok h
      rintro y (_ | ⟨_, hy⟩)
      · exact ⟨s, u₁, s₁, hx⟩
      · exact ih h y hy

/-- The step of a loop at a place. -/
lemma mapM_ok_at {f : α → EStateM ε σ β} {xs : List α} {ys : List β} {s s' : σ} {i : Nat} {x : α}
    {y : β} (h : xs.mapM f s = .ok ys s') (hx : xs[i]? = some x) (hy : ys[i]? = some y) :
    ∃ before after, f x before = .ok y after := by
  induction xs generalizing ys s s' i with
  | nil => exact absurd hx (by simp)
  | cons first rest ih =>
      rw [List.mapM_cons] at h
      obtain ⟨y₁, s₁, hfirst, h⟩ := bind_ok h
      obtain ⟨ys₁, s₂, hrest, h⟩ := bind_ok h
      obtain ⟨rfl, -⟩ := pure_ok h
      cases i with
      | zero =>
          obtain rfl : first = x := by simpa using hx
          obtain rfl : y₁ = y := by simpa using hy
          exact ⟨s, s₁, hfirst⟩
      | succ i => exact ih hrest hx hy

/-- Whatever a loop makes, one of its steps made. -/
lemma mem_of_mapM {f : α → EStateM ε σ β} {xs : List α} {ys : List β} {s s' : σ} {y : β}
    (h : xs.mapM f s = .ok ys s') (hy : y ∈ ys) :
    ∃ x ∈ xs, ∃ before after, f x before = .ok y after := by
  induction xs generalizing ys s s' with
  | nil =>
      obtain ⟨rfl, -⟩ := pure_ok h
      exact absurd hy List.not_mem_nil
  | cons first rest ih =>
      rw [List.mapM_cons] at h
      obtain ⟨y₁, s₁, hfirst, h⟩ := bind_ok h
      obtain ⟨ys₁, s₂, hrest, h⟩ := bind_ok h
      obtain ⟨rfl, -⟩ := pure_ok h
      rcases List.mem_cons.1 hy with rfl | hy
      · exact ⟨first, List.mem_cons_self, s, s₁, hfirst⟩
      · obtain ⟨x, hx, hstep⟩ := ih hrest hy
        exact ⟨x, List.mem_cons_of_mem _ hx, hstep⟩

lemma of_forM_error {f : α → Except ε Unit} {xs : List α} {e : ε}
    (h : xs.forM f = .error e) : ∃ x ∈ xs, f x = .error e := by
  induction xs with
  | nil => cases h
  | cons x xs ih =>
      rcases of_bind_error h with h | ⟨-, -, h⟩
      · exact ⟨x, List.mem_cons_self, h⟩
      · obtain ⟨y, hy, herror⟩ := ih h
        exact ⟨y, List.mem_cons_of_mem x hy, herror⟩

/-- What a loop makes, told from what it runs over. -/
lemma flatMap_of_mapM {γ : Type} {f : α → EStateM ε σ β} {g : β → List γ}
    {value : α → List γ} {xs : List α} {ys : List β} {s s' : σ}
    (hf : ∀ {x s y s'}, f x s = .ok y s' → g y = value x) (h : xs.mapM f s = .ok ys s') :
    ys.flatMap g = xs.flatMap value := by
  induction xs generalizing ys s s' with
  | nil =>
      obtain ⟨rfl, -⟩ := pure_ok h
      rfl
  | cons x xs ih =>
      rw [List.mapM_cons] at h
      obtain ⟨y, s₁, hx, h⟩ := bind_ok h
      obtain ⟨ys₁, s₂, hxs, h⟩ := bind_ok h
      obtain ⟨rfl, -⟩ := pure_ok h
      rw [List.flatMap_cons, List.flatMap_cons, hf hx, ih hxs]

/-! ## Loops with equal steps -/

section Congruence

variable {m : Type → Type} [Monad m]

lemma forM_congr {f f' : α → m PUnit} {xs : List α} (h : ∀ x ∈ xs, f x = f' x) :
    xs.forM f = xs.forM f' := by
  induction xs with
  | nil => rfl
  | cons x xs ih =>
      change (f x >>= fun _ => xs.forM f) = f' x >>= fun _ => xs.forM f'
      rw [h x List.mem_cons_self, ih fun y hy => h y (List.mem_cons_of_mem x hy)]

lemma mapM_congr [LawfulMonad m] {f f' : α → m β} {xs : List α} (h : ∀ x ∈ xs, f x = f' x) :
    xs.mapM f = xs.mapM f' := by
  induction xs with
  | nil => rfl
  | cons x xs ih =>
      rw [List.mapM_cons, List.mapM_cons, h x List.mem_cons_self,
        ih fun y hy => h y (List.mem_cons_of_mem x hy)]

end Congruence

end ShaderWeave.Outcome
