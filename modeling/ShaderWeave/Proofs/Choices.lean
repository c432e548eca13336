import Mathlib.Data.List.Induction
import ShaderWeave.Proofs.Chain

/-!
# Where a choice comes to rest

From a name the mappings lead to a second one, to a third, and so on, perhaps for ever.  This sequence
(`Aliases.leads?`) knows nothing of fuel or of names met before, so the choice is measured against it.

* `Aliases.Longest` — **the longest beginning of the sequence in which no name is repeated.**  It is the
  longest chain read from its start (`Aliases.longest_iff`), so there is exactly one.
* `Aliases.Rests` — the walk without a bound: a derivation is a walk that ends.  It ends, and only at
  the choice (`Aliases.rests_iff`).
* `Aliases.choice_eq_self_iff` — when a walk stays where it starts, so when choosing again changes
  nothing.
* `Aliases.choice_ends_longest` puts these together, and `Aliases.choice_layered_renames` says what a
  layer of renames on top does to a choice.
-/

namespace ShaderWeave.Aliases

variable {aliases : Aliases} {name current next result : String} {past trail seen : List String}

/-! ## The sequence of a name -/

/-- The name that so many mappings lead to, if there are so many. -/
def leads? (aliases : Aliases) (name : String) : Nat → Option String
  | 0 => some name
  | steps + 1 => (leads? aliases name steps).bind fun current => aliases.direct? current

/-- The sequence of a name begins with these names. -/
def Begins (aliases : Aliases) (name : String) (trail : List String) : Prop :=
  ∀ i < trail.length, trail[i]? = aliases.leads? name i

/-- A beginning without repetition, and there is no longer one. -/
structure Longest (aliases : Aliases) (name : String) (trail : List String) : Prop where
  begins : aliases.Begins name trail
  nodup : trail.Nodup
  longest : ∀ other, aliases.Begins name other → other.Nodup → other.length ≤ trail.length

lemma begins_concat_iff :
    aliases.Begins name (trail ++ [current]) ↔
      aliases.Begins name trail ∧ aliases.leads? name trail.length = some current := by
  constructor
  · intro h
    refine ⟨?_, ?_⟩
    · intro i hi
      rw [← h i (by rw [List.length_append]; omega), List.getElem?_append_left hi]
    · rw [← h trail.length (by simp), List.getElem?_concat_length]
  · rintro ⟨hbegins, hlast⟩ i hi
    rw [List.length_append, List.length_singleton] at hi
    rcases Nat.lt_succ_iff_lt_or_eq.1 hi with hi | rfl
    · rw [List.getElem?_append_left hi, hbegins i hi]
    · rw [List.getElem?_concat_length, hlast]

/-- **Chains are the beginnings without repetition,** read from their end. -/
lemma chain_iff_begins (hne : trail ≠ []) :
    Chain aliases name trail ↔ aliases.Begins name trail.reverse ∧ trail.Nodup := by
  induction trail with
  | nil => exact absurd rfl hne
  | cons current past ih =>
      rw [List.reverse_cons, begins_concat_iff, List.length_reverse, List.nodup_cons]
      cases past with
      | nil =>
          constructor
          · rintro ⟨⟩
            exact ⟨⟨fun i hi => absurd hi (by simp), rfl⟩, List.not_mem_nil, List.nodup_nil⟩
          · rintro ⟨⟨-, hstart⟩, -⟩
            obtain rfl : name = current := Option.some.inj hstart
            exact Chain.start
      | cons before earlier =>
          have hlast : aliases.Begins name (before :: earlier).reverse →
              aliases.leads? name earlier.length = some before := by
            intro hbegins
            rw [List.reverse_cons, begins_concat_iff, List.length_reverse] at hbegins
            exact hbegins.2
          constructor
          · intro h
            cases h with
            | step hbefore hmapped hnew =>
                obtain ⟨hbegins, hnodup⟩ := (ih (List.cons_ne_nil _ _)).1 hbefore
                refine ⟨⟨hbegins, ?_⟩, hnew, hnodup⟩
                rw [List.length_cons, leads?, hlast hbegins, Option.bind_some, hmapped]
          · rintro ⟨⟨hbegins, hmapped⟩, hnew, hnodup⟩
            rw [List.length_cons, leads?, hlast hbegins, Option.bind_some] at hmapped
            exact Chain.step ((ih (List.cons_ne_nil _ _)).2 ⟨hbegins, hnodup⟩) hmapped hnew

/-- There is one longest beginning without repetition, and it is the longest chain. -/
lemma longest_iff : aliases.Longest name trail ↔ trail = (aliases.met name).reverse := by
  obtain ⟨past, hmet⟩ := met_eq aliases name
  have hne : aliases.met name ≠ [] := hmet ▸ List.cons_ne_nil _ _
  obtain ⟨hbegins, hnodup⟩ := (chain_iff_begins hne).1 (chain_met aliases name)
  -- Turned round, a beginning without repetition is a chain, and so an end of the longest one.
  have hsuffix : ∀ other, aliases.Begins name other → other.Nodup →
      other.reverse <:+ aliases.met name := by
    intro other hother hfree
    by_cases hnil : other.reverse = []
    · exact hnil ▸ List.nil_suffix
    · refine ((chain_iff_begins hnil).2 ⟨?_, List.nodup_reverse.2 hfree⟩).suffix_met
      rw [List.reverse_reverse]
      exact hother
  constructor
  · intro h
    have hlength := h.longest _ hbegins (List.nodup_reverse.2 hnodup)
    rw [List.length_reverse] at hlength
    refine List.reverse_eq_iff.1 ((hsuffix trail h.begins h.nodup).eq_of_length_le ?_)
    rw [List.length_reverse]
    exact hlength
  · rintro rfl
    refine ⟨hbegins, List.nodup_reverse.2 hnodup, ?_⟩
    intro other hother hfree
    have hlength := (hsuffix other hother hfree).length_le
    rw [List.length_reverse] at hlength ⊢
    exact hlength

/-! ## The walk without a bound -/

/-- **The walk comes to rest.**  It is at `current`, has met the names `seen`, and stops at a name
without a mapping or whose mapping was met before. -/
inductive Rests (aliases : Aliases) : List String → String → String → Prop where
  | unmapped {seen : List String} {current : String} (mapped : aliases.direct? current = none) :
      Rests aliases seen current current
  | repeated {seen : List String} {current next : String}
      (mapped : aliases.direct? current = some next) (met : next ∈ seen) :
      Rests aliases seen current current
  | step {seen : List String} {current next result : String}
      (mapped : aliases.direct? current = some next) (new : next ∉ seen)
      (rest : Rests aliases (next :: seen) next result) : Rests aliases seen current result

lemma Rests.unique {other : String} (h : aliases.Rests seen current result)
    (h' : aliases.Rests seen current other) : result = other := by
  induction h with
  | unmapped hnone =>
      cases h' with
      | unmapped _ => rfl
      | repeated _ _ => rfl
      | step hmapped _ _ => exact absurd (hnone.symm.trans hmapped) (by simp)
  | repeated hsome hmet =>
      cases h' with
      | unmapped _ => rfl
      | repeated _ _ => rfl
      | step hmapped hnew _ =>
          exact absurd (Option.some.inj (hsome.symm.trans hmapped) ▸ hmet) hnew
  | step hsome hnew _ ih =>
      cases h' with
      | unmapped hnone => exact absurd (hnone.symm.trans hsome) (by simp)
      | repeated hmapped hmet =>
          exact absurd (Option.some.inj (hmapped.symm.trans hsome) ▸ hmet) hnew
      | step hmapped _ hrest =>
          obtain rfl := Option.some.inj (hsome.symm.trans hmapped)
          exact ih hrest

/-- From any name on the longest chain the walk comes to rest at the choice.  The induction is on what
is still ahead. -/
lemma rests_of_met {ahead : List String} (h : aliases.met name = ahead ++ current :: past) :
    aliases.Rests (current :: past) current (aliases.choice name) := by
  induction ahead using List.reverseRecOn generalizing current past with
  | nil =>
      have hclosed := closed_met aliases name
      obtain ⟨rest, hmet⟩ := met_eq aliases name
      rw [h, List.nil_append] at hmet hclosed
      obtain ⟨rfl, rfl⟩ := List.cons.inj hmet
      cases hmapped : aliases.direct? (aliases.choice name) with
      | none => exact Rests.unmapped hmapped
      | some next => exact Rests.repeated hmapped (hclosed next hmapped)
  | append_singleton ahead next ih =>
      rw [List.append_assoc, List.singleton_append] at h
      have hchain := chain_met aliases name
      rw [h] at hchain
      have hnodup := (List.nodup_append.1 hchain.nodup).2.1
      exact Rests.step hchain.mapped_to (List.nodup_cons.1 hnodup).1 (ih h)

/-- The walk from a name comes to rest, and it does so at the choice. -/
lemma rests_iff : aliases.Rests [name] name result ↔ result = aliases.choice name := by
  have hstart : Chain aliases name [name] := Chain.start
  obtain ⟨ahead, hsplit⟩ := hstart.suffix_met
  have hrests : aliases.Rests [name] name (aliases.choice name) := rests_of_met hsplit.symm
  constructor
  · exact fun h => h.unique hrests
  · rintro rfl
    exact hrests

/-! ## Choosing again -/

/-- What a choice is mapped to was met on the way to it. -/
lemma mem_met_of_choice (h : aliases.direct? (aliases.choice name) = some next) :
    next ∈ aliases.met name := by
  obtain ⟨past, hmet⟩ := met_eq aliases name
  have hclosed := closed_met aliases name
  rw [hmet] at hclosed ⊢
  exact hclosed next h

/-- **A walk stays where it starts** exactly if nothing leads on, or the name leads to itself.  On any
longer cycle it goes on to the name before its start. -/
lemma choice_eq_self_iff :
    aliases.choice current = current ↔
      aliases.direct? current = none ∨ aliases.direct? current = some current := by
  constructor
  · intro h
    cases hmapped : aliases.direct? current with
    | none => exact Or.inl rfl
    | some next =>
        refine Or.inr (congrArg some ?_)
        by_contra hne
        have hlong := Chain.start.step hmapped (by simpa using hne)
        exact hlong.choice_ne List.mem_cons_self h
  · intro h
    refine Chain.start.choice_eq ?_
    intro next hnext
    rcases h with hnone | hself
    · exact absurd (hnone.symm.trans hnext) (by simp)
    · exact List.mem_singleton.2 (Option.some.inj (hnext.symm.trans hself))

/-- **A choice is the end of the chain without repetition.**  The walk from a name ends, and only at the
choice.  There is one longest beginning without repetition of the sequence `name`, its mapping, the
mapping of that and so on; the choice is its last name, and has no mapping or one that is on it.
Choosing again changes nothing exactly if the last name has no mapping or is mapped to itself. -/
theorem choice_ends_longest (aliases : Aliases) (name : String) :
    (∀ result, aliases.Rests [name] name result ↔ result = aliases.choice name) ∧
    ∃ trail, (∀ other, aliases.Longest name other ↔ other = trail) ∧
      trail.getLast? = some (aliases.choice name) ∧
      (aliases.direct? (aliases.choice name) = none ∨
        ∃ next ∈ trail, aliases.direct? (aliases.choice name) = some next) ∧
      (aliases.choice (aliases.choice name) = aliases.choice name ↔
        ∃ last, trail.getLast? = some last ∧
          (aliases.direct? last = none ∨ aliases.direct? last = some last)) := by
  refine ⟨fun _ => rests_iff, (aliases.met name).reverse, fun _ => longest_iff, ?_⟩
  obtain ⟨past, hmet⟩ := met_eq aliases name
  have hlast : (aliases.met name).reverse.getLast? = some (aliases.choice name) := by
    rw [List.getLast?_reverse, hmet, List.head?_cons]
  refine ⟨hlast, ?_, ?_⟩
  · cases hmapped : aliases.direct? (aliases.choice name) with
    | none => exact Or.inl rfl
    | some next =>
        exact Or.inr ⟨next, List.mem_reverse.2 (mem_met_of_choice hmapped), rfl⟩
  · rw [choice_eq_self_iff, hlast]
    simp only [Option.some.injEq, exists_eq_left']

/-- A cycle of three behind a tail: the walk stops before it would meet `b` again, and a second walk
goes on from there. -/
example :
    let table := ofList [("a", "b"), ("b", "c"), ("c", "d"), ("d", "b")]
    table.choice "a" = "d" ∧ table.choice (table.choice "a") = "c" := by
  decide +kernel

/-! ## Renames on top -/

/-- **Renames come last.**  A layer on top that renames no name with a mapping below, and renames to
names that lead nowhere, sends the choice of the table below on once, and does nothing else; it does
not matter whether the chain below ended in a cycle. -/
theorem choice_layered_renames (table : Aliases) (renames : NameMap)
    (hkeys : ∀ key value, renames.get? key = some value → table.direct? key = none)
    (hvalues : ∀ key value, renames.get? key = some value →
      renames.get? value = none ∧ table.direct? value = none) (name : String) :
    (layered [table] renames).choice name
      = (renames.get? (table.choice name)).getD (table.choice name) := by
  obtain ⟨past, hmet⟩ := met_eq table name
  have hchain : Chain table name (table.choice name :: past) := hmet ▸ chain_met table name
  -- All names before the choice have a mapping below, so none of them is renamed.
  have halone : ∀ met ∈ past, renames.get? met = none := by
    intro met hpast
    obtain ⟨after, hafter⟩ := hchain.mapped_of_mem_past met hpast
    by_contra hsome
    obtain ⟨value, hvalue⟩ := Option.ne_none_iff_exists'.1 hsome
    exact absurd ((hkeys met value hvalue).symm.trans hafter) (by simp)
  cases hrenamed : renames.get? (table.choice name) with
  | none =>
      refine (hchain.layered halone).choice_eq ?_
      intro next hnext
      rw [direct?_layered_singleton, hrenamed, Option.none_or] at hnext
      exact hmet ▸ mem_met_of_choice hnext
  | some target =>
      obtain ⟨hunnamed, hunmapped⟩ := hvalues _ _ hrenamed
      refine (choice_layered_iff hmet halone hrenamed).2 (Or.inr ⟨?_, ?_⟩)
      · -- The target has no mapping below and is not renamed, so the chain has not met it.
        rw [List.mem_cons, not_or]
        refine ⟨?_, ?_⟩
        · rintro rfl
          exact absurd (hunnamed.symm.trans hrenamed) (by simp)
        · intro hpast
          obtain ⟨after, hafter⟩ := hchain.mapped_of_mem_past target hpast
          exact absurd (hunmapped.symm.trans hafter) (by simp)
      · intro next hnext
        rw [direct?_layered_singleton, hunnamed, Option.none_or, hunmapped] at hnext
        exact absurd hnext (by simp)

/-- A chain that ends, and one that runs into a cycle. -/
def tinted : Aliases :=
  ofList [("tint", "base"), ("base", "albedo"), ("fog", "a"), ("a", "b"), ("b", "a")]

/-- Renames of a name on which a chain of `tinted` ends, and of one that `tinted` does not know. -/
def tintedRenames : NameMap := .ofList [("albedo", "uniform_albedo"), ("depth", "tmp_depth")]

/-- The choice `albedo` is sent on, the choice in the cycle stays. -/
theorem choice_layered_renames_tinted :
    (layered [tinted] tintedRenames).choice "tint" = "uniform_albedo" ∧
      (layered [tinted] tintedRenames).choice "fog" = "b" := by
  have hpairs : ∀ pair ∈ tintedRenames.pairs, tinted.direct? pair.1 = none ∧
      tintedRenames.get? pair.2 = none ∧ tinted.direct? pair.2 = none := by
    decide +kernel
  have h := choice_layered_renames tinted tintedRenames
    (fun key value hpair => (hpairs _ (NameMap.get?_eq_some_iff.1 hpair)).1)
    (fun key value hpair => (hpairs _ (NameMap.get?_eq_some_iff.1 hpair)).2)
  exact ⟨(h "tint").trans (by decide +kernel), (h "fog").trans (by decide +kernel)⟩

end ShaderWeave.Aliases
