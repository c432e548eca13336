import ShaderWeave.Proofs.Chain

/-!
# One layer for many

A table of aliases is a tree of layers, in which a table may occur many times and at different depths.
Its flattening has one layer: the own layer first, then the flattened parents from left to right,
**each adding only names that have no mapping yet.**

* `NameMap.fill` — a map with another one below it, and `NameMap.get?_fill`, what it answers.
* `Aliases.merged` — all layers in one map, by recursion over the tree and without a look-up in it.
* `Aliases.choice_congr` — a choice depends on the mappings only, not on the layers they are in.
* `Aliases.flatten_agrees` — the flattening has the same mappings and the same choices, and which layer
  a mapping is taken from.
-/

namespace ShaderWeave

namespace NameMap

/-- Sends a name to another one unless it is sent somewhere already. -/
def insertNew (map : NameMap) (key value : String) : NameMap :=
  if (map.get? key).isSome then map else map.insert key value

/-- The pairs of another map are added, but for names that are sent somewhere already. -/
def fill (map other : NameMap) : NameMap :=
  other.pairs.foldl (fun all pair => all.insertNew pair.1 pair.2) map

lemma get?_insertNew (map : NameMap) (key value name : String) :
    (map.insertNew key value).get? name
      = (map.get? name).or (if name = key then some value else none) := by
  unfold insertNew
  by_cases hname : name = key
  · subst hname
    cases hget : map.get? name with
    | some old => simp [hget]
    | none => simp [get?_insert]
  · rw [if_neg hname, Option.or_none]
    split
    · rfl
    · rw [get?_insert, if_neg hname]

/-- What the upper map does not answer, the lower one does. -/
lemma get?_fill (map other : NameMap) (name : String) :
    (map.fill other).get? name = (map.get? name).or (other.get? name) := by
  suffices h : ∀ (pairs : List (String × String)) (all : NameMap),
      (pairs.foldl (fun all pair => all.insertNew pair.1 pair.2) all).get? name
        = (all.get? name).or ((pairs.find? (·.1 == name)).map (·.2)) from h other.pairs map
  intro pairs
  induction pairs with
  | nil => exact fun all => Option.or_none.symm
  | cons pair rest ih =>
      intro all
      rw [List.foldl_cons, ih, get?_insertNew, Option.or_assoc]
      congr 1
      by_cases hname : name = pair.1
      · simp [hname]
      · simp [hname, Ne.symm hname]

end NameMap

namespace Aliases

variable {aliases other : Aliases} {name choice : String}

mutual

/-- All layers in one map. -/
def merged : Aliases → NameMap
  | layered parents own => mergedUnder parents own
termination_by structural aliases => aliases

/-- All layers of several tables in one map, under a map that goes before them. -/
def mergedUnder : List Aliases → NameMap → NameMap
  | [], above => above
  | table :: rest, above => mergedUnder rest (above.fill (merged table))
termination_by structural tables => tables

end

/-- The table of one layer with the mappings of all layers. -/
def flatten (aliases : Aliases) : Aliases := layered [] aliases.merged

mutual

lemma get?_merged : ∀ aliases : Aliases, (merged aliases).get? name = direct? name aliases
  | layered parents own => by
      rw [merged, get?_mergedUnder parents own, direct?]
      cases own.get? name <;> rfl

lemma get?_mergedUnder : ∀ (tables : List Aliases) (above : NameMap),
    (mergedUnder tables above).get? name = (above.get? name).or (directOf? name tables)
  | [], above => by rw [mergedUnder, directOf?, Option.or_none]
  | table :: rest, above => by
      rw [mergedUnder, get?_mergedUnder rest, NameMap.get?_fill, get?_merged table, directOf?,
        Option.or_assoc]
      cases direct? name table <;> rfl

end

lemma direct?_flatten (aliases : Aliases) (name : String) :
    aliases.flatten.direct? name = aliases.direct? name := by
  rw [flatten, direct?, directOf?, get?_merged]
  cases aliases.direct? name <;> rfl

/-- **A choice depends on the mappings only.**  Tables with the same mappings have the same chains, and a
chain that is closed in one is closed in the other.  That a table with more layers has more pairs, and
so more fuel to walk with, makes no difference. -/
lemma choice_congr (h : ∀ name, aliases.direct? name = other.direct? name) (name : String) :
    aliases.choice name = other.choice name := by
  obtain ⟨past, hmet⟩ := met_eq other name
  have hchain := chain_met other name
  have hclosed := closed_met other name
  rw [hmet] at hchain hclosed
  refine (hchain.transfer fun met _ => h met).choice_eq ?_
  intro next hnext
  exact hclosed next (h _ ▸ hnext)

/-- The mapping in the first of several tables that has one. -/
lemma directOf?_eq_some_iff {tables : List Aliases} :
    directOf? name tables = some choice ↔
      ∃ earlier table later, tables = earlier ++ table :: later ∧
        (∀ before ∈ earlier, before.direct? name = none) ∧ table.direct? name = some choice := by
  induction tables with
  | nil => simp [directOf?]
  | cons first rest ih =>
      rw [directOf?]
      cases hfirst : first.direct? name with
      | some found =>
          constructor
          · intro h
            exact ⟨[], first, rest, rfl, by simp, hfirst.trans h⟩
          · rintro ⟨earlier, table, later, hsplit, hnone, hsome⟩
            cases earlier with
            | nil =>
                obtain ⟨rfl, rfl⟩ := List.cons.inj hsplit
                exact hfirst.symm.trans hsome
            | cons before earlier =>
                obtain ⟨rfl, -⟩ := List.cons.inj hsplit
                exact absurd ((hnone first List.mem_cons_self).symm.trans hfirst) (by simp)
      | none =>
          rw [ih]
          constructor
          · rintro ⟨earlier, table, later, rfl, hnone, hsome⟩
            exact ⟨first :: earlier, table, later, rfl, by simpa [hfirst] using hnone, hsome⟩
          · rintro ⟨earlier, table, later, hsplit, hnone, hsome⟩
            cases earlier with
            | nil =>
                obtain ⟨rfl, -⟩ := List.cons.inj hsplit
                exact absurd (hfirst.symm.trans hsome) (by simp)
            | cons before earlier =>
                obtain ⟨-, rfl⟩ := List.cons.inj hsplit
                exact ⟨earlier, table, later, rfl,
                  fun before hbefore => hnone before (List.mem_cons_of_mem _ hbefore), hsome⟩

/-- **A table of many layers looks names up as its flattening does,** one by one and along whole
chains.  A mapping of the own layer goes before those of all parents, and one of a parent, in
whichever of its layers, before those of later parents. -/
theorem flatten_agrees (aliases : Aliases) :
    (∀ name, aliases.flatten.direct? name = aliases.direct? name) ∧
    (∀ name, aliases.flatten.choice name = aliases.choice name) ∧
    ∀ name choice, aliases.flatten.direct? name = some choice ↔
      aliases.own.get? name = some choice ∨
      aliases.own.get? name = none ∧
        ∃ earlier parent later, aliases.parents = earlier ++ parent :: later ∧
          (∀ before ∈ earlier, before.flatten.direct? name = none) ∧
          parent.flatten.direct? name = some choice := by
  refine ⟨direct?_flatten aliases, choice_congr (direct?_flatten aliases), ?_⟩
  intro name choice
  simp only [direct?_flatten]
  obtain ⟨parents, own⟩ := aliases
  rw [direct?, Aliases.own, Aliases.parents, ← directOf?_eq_some_iff]
  cases own.get? name with
  | some found => simp
  | none => simp

/-- One table at two depths.  The chain takes `color` and `diffuse` from it where it is below the first
parent, `albedo` from that parent, and `tint` from the second one. -/
example :
    let base := ofList [("color", "diffuse"), ("diffuse", "albedo")]
    let first := layered [base] (.ofList [("albedo", "tint")])
    let second := layered [base] (.ofList [("color", "emission"), ("tint", "glow")])
    (layered [first, second, base] .empty).choice "color" = "glow" ∧
      (layered [first, second, base] .empty).flatten.choice "color" = "glow" := by
  decide +kernel

end Aliases

end ShaderWeave
