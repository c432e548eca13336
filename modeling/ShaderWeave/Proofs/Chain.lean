import Mathlib.Data.List.Chain
import Mathlib.Data.List.Perm.Subperm
import Mathlib.Logic.Relation
import ShaderWeave.Proofs.Collections

/-!
# Chains of aliases

The choice for a name is found by following mappings until one leads nowhere new.  Here the walk is
looked at as a whole: the list of the names it meets.

* `Aliases.Chain` — the lists of names that can be met from a name on, the last one first.
* `Aliases.met` — **the longest of them.**  It starts with the choice (`Aliases.met_eq`), every other
  chain is an end of it (`Aliases.Chain.suffix_met`), and no mapping leads out of it
  (`Aliases.closed_met`).  That the walk has fuel enough is part of this.
* `Onward` — the names by which mappings lead on from a name that is met, until one leads nowhere new.
  They decide the choice (`Aliases.Chain.choice_eq_iff_onward`).
* `Aliases.Acyclic` — a table in which no name leads back to itself; there a choice has no mapping
  (`Aliases.Acyclic.direct?_choice`).
* `Aliases.choice_layered_iff`, `Aliases.choice_layered_through_iff` — one more layer on top of a
  table: when it sends a choice on, and what happens where it leads away from the chain before.
-/

namespace ShaderWeave

/-- **Mappings lead on from `first` to `last`,** where the names in `past` have been met.  Of the
names on this way, the last one first, each is mapped to the one in front of it, none has been met
before, and `last` is mapped to nothing new. -/
structure Onward (next? : String → Option String) (past : List String) (first last : String)
    (names : List String) : Prop where
  starts : names.getLast? = some first
  ends : names.head? = some last
  mapped : names.IsChain fun next current => next? current = some next
  new : (names ++ past).Nodup
  stops : ∀ next, next? last = some next → next ∈ names ++ past

namespace Aliases

variable {aliases : Aliases} {name current next : String} {past : List String}

/-- **Names met from `name` on, the last one first.**  Each is mapped to the one that is met after it,
and none is met twice. -/
inductive Chain (aliases : Aliases) (name : String) : List String → Prop where
  | start : Chain aliases name [name]
  | step {current next : String} {past : List String} (before : Chain aliases name (current :: past))
      (mapped : aliases.direct? current = some next) (new : next ∉ current :: past) :
      Chain aliases name (next :: current :: past)

/-- No mapping leads from the first name of a list out of the list. -/
def Closed (aliases : Aliases) : List String → Prop
  | [] => True
  | current :: past => ∀ next, aliases.direct? current = some next → next ∈ current :: past

namespace Chain

lemma nodup {trail : List String} (h : Chain aliases name trail) : trail.Nodup := by
  induction h with
  | start => exact List.nodup_singleton name
  | step _ _ hnew ih => exact List.nodup_cons.2 ⟨hnew, ih⟩

lemma getLast?_eq {trail : List String} (h : Chain aliases name trail) :
    trail.getLast? = some name := by
  induction h with
  | start => rfl
  | step _ _ _ ih =>
      rw [List.getLast?_cons_cons]
      exact ih

lemma isChain {trail : List String} (h : Chain aliases name trail) :
    trail.IsChain fun next current => aliases.direct? current = some next := by
  induction h with
  | start => exact .singleton name
  | step _ hmapped _ ih => exact .cons_cons hmapped ih

/-- A name in the middle is mapped to the one in front of it. -/
lemma mapped_to {before : List String}
    (h : Chain aliases name (before ++ next :: current :: past)) :
    aliases.direct? current = some next :=
  (List.isChain_append_cons_cons.1 h.isChain).2.1

/-- A chain goes on by names that are mapped to each other and new. -/
lemma append {names : List String} (h : Chain aliases name (current :: past))
    (hmapped : (names ++ [current]).IsChain fun next current => aliases.direct? current = some next)
    (hnew : (names ++ current :: past).Nodup) :
    Chain aliases name (names ++ current :: past) := by
  induction names with
  | nil => exact h
  | cons first rest ih =>
      rw [List.cons_append] at hmapped hnew ⊢
      have hrest := ih hmapped.of_cons (List.nodup_cons.1 hnew).2
      -- What is mapped to `first` stands behind it: the next of the names, or else `current`.
      cases rest <;>
        exact hrest.step (List.isChain_cons_cons.1 hmapped).1 (List.nodup_cons.1 hnew).1

lemma of_suffix {trail : List String} (h : Chain aliases name trail)
    (hsuffix : current :: past <:+ trail) : Chain aliases name (current :: past) := by
  induction h with
  | start =>
      rcases List.suffix_cons_iff.1 hsuffix with heq | hnil
      · exact heq ▸ Chain.start
      · exact absurd hnil.length_le (by simp)
  | step hbefore hmapped hnew ih =>
      rcases List.suffix_cons_iff.1 hsuffix with heq | hsuffix
      · exact heq ▸ Chain.step hbefore hmapped hnew
      · exact ih hsuffix

/-- All names but the first have a mapping. -/
lemma mapped_of_mem_past (h : Chain aliases name (current :: past)) :
    ∀ met ∈ past, ∃ after, aliases.direct? met = some after := by
  generalize htrail : current :: past = trail at h
  induction h generalizing current past with
  | start =>
      obtain ⟨rfl, rfl⟩ := List.cons.inj htrail
      exact fun met hmet => absurd hmet List.not_mem_nil
  | @step middle after earlier _ hmapped _ ih =>
      obtain ⟨rfl, rfl⟩ := List.cons.inj htrail
      intro met hmet
      rcases List.mem_cons.1 hmet with rfl | hmet
      · exact ⟨_, hmapped⟩
      · exact ih rfl met hmet

/-- Every name that is met leads to the one met last. -/
lemma leads (h : Chain aliases name (current :: past)) : ∀ met ∈ current :: past,
    Relation.ReflTransGen (fun a b => aliases.direct? a = some b) met current := by
  generalize htrail : current :: past = trail at h
  induction h generalizing current past with
  | start =>
      obtain ⟨rfl, rfl⟩ := List.cons.inj htrail
      intro met hmet
      obtain rfl := List.mem_singleton.1 hmet
      exact Relation.ReflTransGen.refl
  | @step middle after earlier _ hmapped _ ih =>
      obtain ⟨rfl, rfl⟩ := List.cons.inj htrail
      intro met hmet
      rcases List.mem_cons.1 hmet with rfl | hmet
      · exact Relation.ReflTransGen.refl
      · exact (ih rfl met hmet).tail hmapped

/-- A table that agrees on all names but the last has the same chain. -/
lemma transfer {other : Aliases} (h : Chain aliases name (current :: past))
    (hsame : ∀ met ∈ past, other.direct? met = aliases.direct? met) :
    Chain other name (current :: past) := by
  generalize htrail : current :: past = trail at h
  induction h generalizing current past with
  | start => exact Chain.start
  | @step middle after earlier _ hmapped hnew ih =>
      obtain ⟨rfl, rfl⟩ := List.cons.inj htrail
      refine Chain.step (ih ?_ rfl) ?_ hnew
      · exact fun met hmet => hsame met (List.mem_cons_of_mem _ hmet)
      · rw [hsame _ List.mem_cons_self, hmapped]

end Chain

/-! ## The keys of a table -/

mutual

/-- The keys of all layers; a name has a mapping only if it is among them. -/
def keys : Aliases → List String
  | layered parents own => own.pairs.map Prod.fst ++ keysAll parents
termination_by structural aliases => aliases

/-- The keys of several tables. -/
def keysAll : List Aliases → List String
  | [] => []
  | table :: rest => keys table ++ keysAll rest
termination_by structural tables => tables

end

mutual

lemma length_keys : ∀ aliases : Aliases, (keys aliases).length = size aliases
  | layered parents own => by
      rw [keys, size, List.length_append, List.length_map, length_keysAll parents, NameMap.size]

lemma length_keysAll : ∀ tables : List Aliases, (keysAll tables).length = sizeAll tables
  | [] => rfl
  | table :: rest => by
      rw [keysAll, sizeAll, List.length_append, length_keys table, length_keysAll rest]

end

mutual

lemma mem_keys : ∀ {aliases : Aliases} {next : String}, direct? name aliases = some next →
    name ∈ keys aliases
  | layered parents own, next, h => by
      rw [direct?] at h
      rw [keys, List.mem_append]
      cases hown : own.get? name with
      | some choice =>
          exact Or.inl (NameMap.get?_eq_some_mem hown)
      | none =>
          rw [hown] at h
          exact Or.inr (mem_keysAll h)

lemma mem_keysAll : ∀ {tables : List Aliases} {next : String},
    directOf? name tables = some next → name ∈ keysAll tables
  | [], next, h => by simp [directOf?] at h
  | table :: rest, next, h => by
      rw [directOf?] at h
      rw [keysAll, List.mem_append]
      cases htable : direct? name table with
      | some choice => exact Or.inl (mem_keys htable)
      | none =>
          rw [htable] at h
          exact Or.inr (mem_keysAll h)

end

/-- A chain is not longer than the table has pairs, its first name apart. -/
lemma Chain.length_past_le (h : Chain aliases name (current :: past)) :
    past.length ≤ aliases.size := by
  have hsub : past ⊆ aliases.keys := by
    intro met hmet
    obtain ⟨after, hafter⟩ := h.mapped_of_mem_past met hmet
    exact mem_keys hafter
  rw [← length_keys]
  exact ((List.nodup_cons.1 h.nodup).2.subperm hsub).length_le

/-! ## The longest chain -/

/-- The names met by at most `fuel` mappings from `current`, the last one first. -/
def meetFrom (aliases : Aliases) : Nat → List String → String → List String
  | 0, past, current => current :: past
  | fuel + 1, past, current =>
    match aliases.direct? current with
    | none => current :: past
    | some next =>
      if next ∈ current :: past then current :: past
      else meetFrom aliases fuel (current :: past) next

/-- All names met from a name on, the last one first. -/
def met (aliases : Aliases) (name : String) : List String :=
  aliases.meetFrom aliases.size [] name

lemma head?_meetFrom (aliases : Aliases) (fuel : Nat) (past : List String) (current : String) :
    (aliases.meetFrom fuel past current).head?
      = some (aliases.follow fuel (current :: past) current) := by
  induction fuel generalizing past current with
  | zero => rfl
  | succ fuel ih =>
      rw [meetFrom, follow]
      cases aliases.direct? current with
      | none => rfl
      | some next =>
          by_cases hseen : next ∈ current :: past
          · simp only [if_pos hseen, List.head?_cons]
          · simp only [if_neg hseen]
            exact ih (current :: past) next

/-- The walk ends with a closed chain.  With no fuel left all pairs of the table have been used, so
another step would make the chain too long. -/
lemma chain_meetFrom {fuel : Nat} (h : Chain aliases name (current :: past))
    (hfuel : aliases.size ≤ fuel + past.length) :
    Chain aliases name (aliases.meetFrom fuel past current) ∧
      aliases.Closed (aliases.meetFrom fuel past current) := by
  induction fuel generalizing past current with
  | zero =>
      refine ⟨h, ?_⟩
      intro next hnext
      by_contra hnew
      have hlong := (Chain.step h hnext hnew).length_past_le
      rw [List.length_cons] at hlong
      omega
  | succ fuel ih =>
      rw [meetFrom]
      cases hnext : aliases.direct? current with
      | none =>
          refine ⟨h, ?_⟩
          intro next hsome
          rw [hnext] at hsome
          exact absurd hsome (by simp)
      | some next =>
          by_cases hseen : next ∈ current :: past
          · simp only [if_pos hseen]
            refine ⟨h, ?_⟩
            intro after hafter
            rw [hnext] at hafter
            exact Option.some.inj hafter ▸ hseen
          · simp only [if_neg hseen]
            refine ih (Chain.step h hnext hseen) ?_
            rw [List.length_cons]
            omega

lemma chain_met (aliases : Aliases) (name : String) : Chain aliases name (aliases.met name) :=
  (chain_meetFrom Chain.start (by simp)).1

lemma closed_met (aliases : Aliases) (name : String) : aliases.Closed (aliases.met name) :=
  (chain_meetFrom Chain.start (by simp)).2

/-- The choice is the name that is met last. -/
lemma met_eq (aliases : Aliases) (name : String) :
    ∃ past, aliases.met name = aliases.choice name :: past := by
  have hhead := head?_meetFrom aliases aliases.size [] name
  rw [List.head?_eq_some_iff] at hhead
  exact hhead

/-- **Every chain is an end of the longest one.**  By induction on the chain: the longest one is
closed, so it goes on from the last name of a chain, and there is only one way to go on. -/
lemma Chain.suffix_met {trail : List String} (h : Chain aliases name trail) :
    trail <:+ aliases.met name := by
  induction h with
  | start =>
      obtain ⟨before, hsplit⟩ := List.getLast?_eq_some_iff.1 (chain_met aliases name).getLast?_eq
      exact ⟨before, hsplit.symm⟩
  | @step current next past _ hmapped hnew ih =>
      obtain ⟨before, hsplit⟩ := ih
      have hchain := chain_met aliases name
      have hclosed := closed_met aliases name
      rw [← hsplit] at hchain hclosed ⊢
      rcases List.eq_nil_or_concat before with rfl | ⟨front, last, rfl⟩
      · exact absurd (hclosed next hmapped) hnew
      · rw [List.concat_eq_append, List.append_assoc, List.singleton_append] at hchain ⊢
        obtain rfl : last = next := Option.some.inj (hchain.mapped_to.symm.trans hmapped)
        exact List.suffix_append front _

/-- A closed chain is the longest one. -/
lemma Chain.met_eq (h : Chain aliases name (current :: past))
    (hclosed : aliases.Closed (current :: past)) : aliases.met name = current :: past := by
  obtain ⟨before, hsplit⟩ := h.suffix_met
  have hchain := chain_met aliases name
  rw [← hsplit] at hchain ⊢
  rcases List.eq_nil_or_concat before with rfl | ⟨front, last, rfl⟩
  · rfl
  · rw [List.concat_eq_append, List.append_assoc, List.singleton_append] at hchain
    have hlast := hclosed last hchain.mapped_to
    have hnodup := (List.nodup_append.1 hchain.nodup).2.1
    exact absurd hlast (List.nodup_cons.1 hnodup).1

lemma Chain.choice_eq (h : Chain aliases name (current :: past))
    (hclosed : aliases.Closed (current :: past)) : aliases.choice name = current := by
  obtain ⟨rest, hmet⟩ := Aliases.met_eq aliases name
  rw [h.met_eq hclosed] at hmet
  exact (List.cons.inj hmet).1.symm

/-- **The choice is where mappings lead on to** from a name that is met. -/
lemma Chain.choice_eq_iff_onward (h : Chain aliases name (current :: past)) {target : String} :
    aliases.choice name = target ↔
      ∃ names, Onward (fun met => aliases.direct? met) past current target names := by
  constructor
  · rintro rfl
    obtain ⟨front, hsplit⟩ := h.suffix_met
    obtain ⟨rest, hmet⟩ := Aliases.met_eq aliases name
    have hchain := chain_met aliases name
    have hclosed := closed_met aliases name
    have happend : front ++ current :: past = (front ++ [current]) ++ past := by simp
    have htrail : (front ++ [current]) ++ past = aliases.choice name :: rest := by
      rw [← happend, hsplit, hmet]
    rw [hmet, ← htrail] at hchain
    refine ⟨front ++ [current], List.getLast?_concat .., ?_, ?_, hchain.nodup, ?_⟩
    · cases front <;> exact congrArg List.head? htrail
    · exact (List.isChain_split.1 (happend ▸ hchain.isChain)).1
    · rw [htrail]
      rw [hmet] at hclosed
      exact hclosed
  · rintro ⟨names, hway⟩
    obtain ⟨front, rfl⟩ := List.getLast?_eq_some_iff.1 hway.starts
    obtain ⟨rest, hrest⟩ := List.head?_eq_some_iff.1 hway.ends
    have hnew := hway.new
    have hstops := hway.stops
    rw [List.append_assoc, List.singleton_append] at hnew
    have hchain := h.append hway.mapped hnew
    have htrail : front ++ current :: past = target :: (rest ++ past) := by
      rw [← List.cons_append, ← hrest]
      simp
    rw [htrail] at hchain
    rw [hrest, List.cons_append] at hstops
    exact hchain.choice_eq hstops

/-- A name behind which the walk goes on is not the choice. -/
lemma Chain.choice_ne (h : Chain aliases name (current :: past)) {left : String}
    (hleft : left ∈ past) : aliases.choice name ≠ left := by
  rintro rfl
  obtain ⟨before, hsplit⟩ := h.suffix_met
  obtain ⟨rest, hmet⟩ := Aliases.met_eq aliases name
  have hnodup := (chain_met aliases name).nodup
  rw [hmet] at hsplit hnodup
  refine (List.nodup_cons.1 hnodup).1 ?_
  cases before with
  | nil => exact (List.cons.inj hsplit).2 ▸ hleft
  | cons first others =>
      rw [← (List.cons.inj hsplit).2]
      exact List.mem_append_right _ (List.mem_cons_of_mem _ hleft)

/-! ## Tables without cycles -/

/-- No name leads back to itself. -/
def Acyclic (aliases : Aliases) : Prop :=
  ∀ name, ¬ Relation.TransGen (fun a b => aliases.direct? a = some b) name name

/-- Without cycles every chain ends at a name that has no mapping. -/
lemma Acyclic.direct?_choice (h : aliases.Acyclic) (name : String) :
    aliases.direct? (aliases.choice name) = none := by
  obtain ⟨past, hmet⟩ := met_eq aliases name
  have hchain := chain_met aliases name
  have hclosed := closed_met aliases name
  rw [hmet] at hchain hclosed
  by_contra hsome
  obtain ⟨next, hnext⟩ := Option.ne_none_iff_exists'.1 hsome
  have hback := hchain.leads next (hclosed next hnext)
  exact h _ (Relation.TransGen.head' hnext hback)

/-- On a cycle every name that can be reached is on the cycle too, because a name has one mapping at
most. -/
lemma cycle_of_leads {other : String}
    (hcycle : Relation.TransGen (fun a b => aliases.direct? a = some b) name name)
    (hleads : Relation.ReflTransGen (fun a b => aliases.direct? a = some b) name other) :
    Relation.TransGen (fun a b => aliases.direct? a = some b) other other := by
  induction hleads with
  | refl => exact hcycle
  | tail _ hstep ih =>
      obtain ⟨first, hfirst, hback⟩ := Relation.TransGen.head'_iff.1 ih
      obtain rfl := Option.some.inj (hfirst.symm.trans hstep)
      exact Relation.TransGen.tail' hback hstep

/-- A table is free of cycles exactly if the choice for each of its keys has no mapping. -/
lemma acyclic_iff : aliases.Acyclic ↔
    ∀ key ∈ aliases.keys, aliases.direct? (aliases.choice key) = none := by
  constructor
  · exact fun h key _ => h.direct?_choice key
  · intro h name hcycle
    obtain ⟨first, hfirst, -⟩ := Relation.TransGen.head'_iff.1 hcycle
    obtain ⟨past, hmet⟩ := met_eq aliases name
    have hchain := chain_met aliases name
    have hself : name ∈ aliases.met name := List.mem_of_getLast? hchain.getLast?_eq
    rw [hmet] at hchain hself
    obtain ⟨next, hnext, -⟩ :=
      Relation.TransGen.head'_iff.1 (cycle_of_leads hcycle (hchain.leads name hself))
    rw [h name (mem_keys hfirst)] at hnext
    exact absurd hnext (by simp)

instance (aliases : Aliases) : Decidable aliases.Acyclic := decidable_of_iff _ acyclic_iff.symm

/-! ## One more layer -/

lemma direct?_layered_singleton (table : Aliases) (own : NameMap) (name : String) :
    (layered [table] own).direct? name = (own.get? name).or (table.direct? name) := by
  rw [direct?, directOf?, directOf?]
  cases own.get? name with
  | some choice => rfl
  | none => cases table.direct? name <;> rfl

/-- A layer that leaves all names before the last one alone has the same chain. -/
lemma Chain.layered {table : Aliases} {own : NameMap} (h : Chain table name (current :: past))
    (halone : ∀ met ∈ past, own.get? met = none) :
    Chain (Aliases.layered [table] own) name (current :: past) := by
  refine h.transfer ?_
  intro met hmet
  rw [direct?_layered_singleton, halone met hmet, Option.none_or]

lemma direct?_layered_of_get? {table : Aliases} {own : NameMap} (h : own.get? name = some next) :
    (layered [table] own).direct? name = some next := by
  rw [direct?_layered_singleton, h, Option.some_or]

/-- A layer that leads from a chain back into it stops the walk. -/
lemma choice_layered_of_mem {table : Aliases} {own : NameMap}
    (h : Chain table name (current :: past)) (halone : ∀ met ∈ past, own.get? met = none)
    (hsent : own.get? current = some next) (hin : next ∈ current :: past) :
    (layered [table] own).choice name = current := by
  refine (h.layered halone).choice_eq ?_
  intro after hafter
  rw [direct?_layered_of_get? hsent] at hafter
  exact Option.some.inj hafter ▸ hin

/-- **One more layer sends a choice on.**  Where the layer leaves all names on the way alone, it sends
the choice to `target` in the end exactly if `target` is new on the way, unless it is the choice
itself, and leads nowhere new. -/
lemma choice_layered_iff {table : Aliases} {own : NameMap} {target : String}
    (hmet : table.met name = current :: past) (halone : ∀ met ∈ past, own.get? met = none)
    (htarget : own.get? current = some target) :
    (layered [table] own).choice name = target ↔ target = current ∨
      target ∉ current :: past ∧ (layered [table] own).Closed (target :: current :: past) := by
  have hchain : Chain table name (current :: past) := hmet ▸ chain_met table name
  by_cases hin : target ∈ current :: past
  · rw [choice_layered_of_mem hchain halone htarget hin]
    constructor
    · intro heq
      exact Or.inl heq.symm
    · rintro (heq | ⟨hnew, -⟩)
      · exact heq.symm
      · exact absurd hin hnew
  · have hlong := Chain.step (hchain.layered halone) (direct?_layered_of_get? htarget) hin
    constructor
    · intro hchoice
      refine Or.inr ⟨hin, ?_⟩
      intro next hnext
      by_contra hout
      exact (Chain.step hlong hnext hout).choice_ne List.mem_cons_self hchoice
    · rintro (rfl | ⟨-, hclosed⟩)
      · exact absurd List.mem_cons_self hin
      · exact hlong.choice_eq hclosed

/-- **One more layer leads away.**  Where the layer sends a name `current` on the way to `through`, the
walk stops at `current`, or mappings lead on from `through`. -/
lemma choice_layered_through_iff {table : Aliases} {own : NameMap} {target through : String}
    (h : Chain table name (current :: past)) (halone : ∀ met ∈ past, own.get? met = none)
    (hsent : own.get? current = some through) :
    (layered [table] own).choice name = target ↔
      through ∈ current :: past ∧ target = current ∨
        ∃ names, Onward (fun met => (layered [table] own).direct? met) (current :: past) through
          target names := by
  by_cases hin : through ∈ current :: past
  · rw [choice_layered_of_mem h halone hsent hin]
    constructor
    · intro heq
      exact Or.inl ⟨hin, heq.symm⟩
    · rintro (⟨-, heq⟩ | ⟨names, hway⟩)
      · exact heq.symm
      · have hthrough := List.mem_of_getLast? hway.starts
        exact absurd hin (List.disjoint_of_nodup_append hway.new hthrough)
  · have hlong := Chain.step (h.layered halone) (direct?_layered_of_get? hsent) hin
    rw [hlong.choice_eq_iff_onward]
    exact ⟨Or.inr, fun hway => hway.resolve_left fun hstop => hin hstop.1⟩

end Aliases

end ShaderWeave
